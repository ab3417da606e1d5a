import Lightpath.Proofs.Service.NestedNames
import Lightpath.Proofs.Simulation.Requests
import Lightpath.Proofs.Simulation.TruthfulAnswers

/-!
Client services next to the line that carries them. An element renders a client service under the
names that are planned for it, and a request leaves alone what is kept under other names, so the
line stays as it was.
-/

namespace Lightpath

-----------------------------------------------------------------------------------------
-- The names of a rendered client service
-----------------------------------------------------------------------------------------

namespace Renderer

variable {r : Renderer}

/-- The steps of a computation that came to a result all did. -/
theorem exists_of_bind_eq_ok {ε α β : Type} {x : Except ε α} {f : α → Except ε β} {b : β}
    (came : x >>= f = .ok b)
    : ∃ a, x = .ok a ∧ f a = .ok b := by
  cases x with
  | error fault => cases came
  | ok a => exact ⟨a, rfl, came⟩

/-- A port that is found at an end has the name that is stated there. -/
theorem name_of_portAt {node : Json} {key : String} {port : Port}
    (found : r.portAt node key = .ok port)
    : node.textField? key = some port.name := by
  rw [portAt] at found
  split at found
  · cases found
  · rename_i name stated
    split at found
    · rename_i inTable
      cases found
      have named : port.name = name := by simpa using List.find?_some inTable
      rw [stated, named]
    · cases found

theorem eq_of_nodePart_single {request node part : Json}
    (nodes : request.field? "nodes" = some (.array [node]))
    (found : r.nodePart request = .ok part)
    : part = node := by
  rw [nodePart, nodes] at found
  simp only [Option.map_some, Option.getD_some, Json.asList] at found
  split at found
  · rename_i inNodes
    cases found
    exact List.mem_singleton.mp (List.mem_of_find?_eq_some inNodes)
  · cases found

/-- A client service is rendered under the names that are planned, whatever ports and rates the
element has.
-/
theorem names_of_render_client {ctx : PlanContext} {network client : Port} {rate : SignalRate}
    {kind : ClientKind} {position : Nat} {plan : Plan}
    (isClient : plan.IsClient ctx network rate client kind position) {operation : Operation}
    {rendering : Rendering} (renders : r.render plan.rpc (plan.body operation) = .ok rendering)
    : rendering.names = plan.names := by
  let body := clientBody ctx network client rate kind position operation
  let node := Plan.clientNode ctx network client
  have isBody : plan.body operation = body := by rw [Plan.body, isClient.members]; rfl
  obtain ⟨speed, nodes, -⟩ := clientBody_states ctx network client rate kind position operation
  have gbps : (body.field? "service-rate").bind Json.nat? = some kind.gbps := by
    rw [speed, Option.bind_some, Json.nat?_ofNat]
  rw [isBody, isClient.rpc, render] at renders
  obtain ⟨part, found, renders⟩ := exists_of_bind_eq_ok renders
  obtain rfl : part = node := eq_of_nodePart_single nodes found
  simp only [Plan.clientRpc, String.reduceEq, if_false, if_true, clientService, gbps,
    clientMake_gbps] at renders
  obtain ⟨clientEnd, atClient, renders⟩ := exists_of_bind_eq_ok renders
  obtain ⟨networkEnd, atNetwork, renders⟩ := exists_of_bind_eq_ok renders
  obtain ⟨make, made, renders⟩ := exists_of_bind_eq_ok renders
  obtain rfl := Except.ok.inj made
  obtain ⟨slots, -, renders⟩ := exists_of_bind_eq_ok renders
  obtain rfl := Except.ok.inj renders
  have clientNamed : clientEnd.name = client.name := by
    have stated := (name_of_portAt atClient).symm.trans (Json.textField?_ofMembers rfl)
    exact Option.some.inj stated
  have networkNamed : networkEnd.name = network.name := by
    have stated := (name_of_portAt atNetwork).symm.trans (Json.textField?_ofMembers rfl)
    exact Option.some.inj stated
  have ending : "-" ++ clientEnding kind = "-ETHERNET" ++ toString kind.gbps ++ "G" := by
    cases kind <;> rfl
  simp [Rendering.names, Plan.names, isClient.resources, Plan.clientResources, ethernet, dataUnit,
    interface, Plan.ethernet, Plan.dataUnit, Plan.interface, clientNamed, networkNamed, ending,
    ResourceName.clientEthernet, ResourceName.clientDataUnit, ResourceName.tributary,
    String.append_assoc]

end Renderer

-----------------------------------------------------------------------------------------
-- What a request leaves alone
-----------------------------------------------------------------------------------------

namespace Element

variable {e : Element}

/-- A request leaves alone what is kept under names that are not rendered for it. -/
theorem Comes.kept {rpc : String} {request : Json} {s t : ElementState}
    {answer : Except TransportError RpcResponse} (comes : e.Comes rpc request s answer t)
    {name : String} (foreign : name ∉ e.renderedNames rpc request) (isConnection : Bool)
    : t.kept isConnection name = s.kept isConnection name := by
  cases comes with
  | unreached _ | refused _ _ | rejected _ _ _ | spared _ _ _ => rfl
  | created _ accepts =>
      rw [renderedNames, accepts.renders] at foreign
      refine (kept_createResources_of_foreign _ ?_ _).trans rfl
      rintro ⟨r, member, -, rfl⟩
      exact foreign (List.mem_map_of_mem member)
  | removed _ accepts _ =>
      rw [renderedNames, accepts.renders] at foreign
      exact (kept_deleteResources _ _ _ _).trans (if_neg foreign)

/-- An element handles a client service under the planned names, if it accepts the request. -/
theorem renderedNames_client {ctx : PlanContext} {network client : Port} {rate : SignalRate}
    {kind : ClientKind} {position : Nat} {plan : Plan}
    (isClient : plan.IsClient ctx network rate client kind position) (operation : Operation)
    : e.renderedNames plan.rpc (plan.request operation) ⊆ plan.names := by
  intro name member
  rw [renderedNames, plan.unwrap_request] at member
  cases renders : e.renderer.render plan.rpc (plan.body operation) with
  | error fault => simp [renders] at member
  | ok rendering =>
      simp only [renders] at member
      rw [← Renderer.names_of_render_client isClient renders]
      exact member

/-- A client service shares no name with the line that carries it. The names of a line are all
different, with or without the Ethernet interface of the client, and so are the three of the client
service, and no name is in both. So an element that is asked for the client service, to create it or
to delete it, keeps under the names of the line what it kept there before.
-/
theorem nested_services_share_no_name (ctx : PlanContext) {network client : Port}
    (apart : network.name ≠ client.name) (rate : SignalRate) (kind : ClientKind)
    : let line := Plan.optical ctx network none rate
      line.names.Nodup
      ∧ (Plan.optical ctx network (some client) rate).names.Nodup
      ∧ ∀ position service,
          Plan.client? ctx network rate client kind position = some service →
            service.names.length = 3
            ∧ service.names.Nodup
            ∧ ∀ name ∈ line.names,
                name ∉ service.names
                ∧ ∀ (e : Element) (s : ElementState) operation isConnection,
                    (e.invoke service.rpc (service.request operation) s).2.kept isConnection name
                    = s.kept isConnection name := by
  intro line
  have distinct (ends : Option Port) : (Plan.optical ctx network ends rate).names.Nodup :=
    (Plan.optical_distinct ctx network ends rate).nodup_names Plan.optical_interfaces
  refine ⟨distinct none, distinct (some client), ?_⟩
  intro position service planned
  have isClient := Plan.isClient planned
  refine ⟨?three, ?different, ?_⟩
  case three =>
    rw [Plan.names, isClient.resources]
    rfl
  case different =>
    refine isClient.distinct.nodup_names ?_
    rw [isClient.resources]
    simp [Plan.clientResources, Plan.ethernet, Plan.dataUnit, Plan.interface,
      PlannedResource.isConnection]
  intro name inLine
  have outside : name ∉ service.names := by
    intro inService
    exact ResourceName.line_ne_nested apart (Plan.isLine_of_mem inLine)
      (isClient.isNested_of_mem inService)
  refine ⟨outside, ?_⟩
  intro e s operation isConnection
  have comes := e.comes_invoke service.rpc (service.request operation) s
  exact comes.kept (fun handled => outside (renderedNames_client isClient operation handled)) _

/-- A client of 100 Gbit/s and the line below it both have an optical data unit, each of its own, so
the one of the line outlives the client service.
-/
theorem nested_services_share_no_name_data_unit
    : let ctx : PlanContext := { node := "XPDR-A", service := "check", spectrum := .standard }
      let network : Port := { name := "XPDR1-NETWORK1" }
      let client : Port := { name := "XPDR1-CLIENT1" }
      ∃ service,
        Plan.client? ctx network .g100 client .ethernet100G 0 = some service
        ∧ service.names
          = ["XPDR1-CLIENT1-ETHERNET100G", "XPDR1-CLIENT1-ODU4",
            "XPDR1-NETWORK1-ODU4-XPDR1-CLIENT1"]
        ∧ service.names.Nodup
        ∧ "XPDR1-NETWORK1-ODU4" ∈ (Plan.optical ctx network none .g100).names
        ∧ ∀ s : ElementState,
            (oneTransponder.invoke service.rpc (service.request .delete) s).2.kept false
                "XPDR1-NETWORK1-ODU4"
              = s.kept false "XPDR1-NETWORK1-ODU4" := by
  intro ctx network client
  have apart : network.name ≠ client.name := by decide
  obtain ⟨-, -, nested⟩ := nested_services_share_no_name ctx apart .g100 .ethernet100G
  obtain ⟨-, distinct, others⟩ := nested 0 _ rfl
  have inLine : "XPDR1-NETWORK1-ODU4" ∈ (Plan.optical ctx network none .g100).names := by
    decide +kernel
  obtain ⟨-, stays⟩ := others _ inLine
  exact ⟨_, rfl, by decide +kernel, distinct, inLine, fun s => stays oneTransponder s _ _⟩

end Element

end Lightpath
