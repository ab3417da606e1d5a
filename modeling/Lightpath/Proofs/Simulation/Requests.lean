import Lightpath.Proofs.Json.Members
import Lightpath.Proofs.Service.Slots
import Lightpath.Proofs.Simulation.Realization

/-!
What an element reads from the requests of plans: the spectrum, the ports and the slots that
the plans state, and so the rendering that it makes of each request.
-/

namespace Lightpath

namespace Renderer

variable {r : Renderer}

-----------------------------------------------------------------------------------------
-- Parts of a request
-----------------------------------------------------------------------------------------

/-- The spectrum that a request of an optical path states. -/
def requested (spectrum : Spectrum) (modulation : String)
    : RequestedSpectrum :=
  { range := spectrum.text
    center := spectrum.centerJson
    lowEdge := spectrum.lowEdgeJson
    highEdge := spectrum.highEdgeJson
    width := spectrum.widthJson
    modulation := .string modulation }

/-- A port is found at an end of a path by its name. -/
theorem portAt_of_name {node : Json} {key : String} {port : Port}
    (named : node.textField? key = some port.name)
    (known : r.table.port? port.name = some port)
    : r.portAt node key = .ok port := by
  rw [portAt, named]
  simp only [known]

/-- The only node of a request is its part for the node of that name. -/
theorem nodePart_of_single {request node : Json}
    (nodes : request.field? "nodes" = some (.array [node]))
    (named : node.textField? "node-id" = some r.table.node)
    : r.nodePart request = .ok node := by
  simp [nodePart, nodes, Json.asList, named]

theorem slot_of_number {request : Json} {name : String} {n : Nat}
    (stated : request.field? name = some (.ofNat n))
    : slot request name = .ok n := by
  simp only [slot, Renderer.stated, stated, bind, Except.bind, Json.nat?_ofNat]

section OpticalRequests

variable (ctx : PlanContext) (service modulation : String) (node : List (String × Json))
  (operation : Operation)

/-- The content of a request for an optical path. -/
def opticalBody
    : Json :=
  Json.ofMembers
    (Plan.opticalMembers ctx ctx.spectrum.widthJson service modulation node
      ++ [("operation", .string operation.word)])

/-- The spectrum of a request for an optical path is read as it is planned. -/
theorem ofRequest_opticalBody
    : RequestedSpectrum.ofRequest (opticalBody ctx service modulation node operation)
      = .ok (requested ctx.spectrum modulation) := by
  let body := opticalBody ctx service modulation node operation
  have lowest : slot body "lower-spectral-slot-number" = .ok ctx.spectrum.lowest :=
    slot_of_number (Json.field?_ofMembers rfl)
  have highest : slot body "higher-spectral-slot-number" = .ok ctx.spectrum.highest :=
    slot_of_number (Json.field?_ofMembers rfl)
  have center : body.field? "center-freq" = some ctx.spectrum.centerJson :=
    Json.field?_ofMembers rfl
  have lowEdge : body.field? "min-freq" = some ctx.spectrum.lowEdgeJson :=
    Json.field?_ofMembers rfl
  have highEdge : body.field? "max-freq" = some ctx.spectrum.highEdgeJson :=
    Json.field?_ofMembers rfl
  have width : body.field? "nmc-width" = some ctx.spectrum.widthJson :=
    Json.field?_ofMembers rfl
  have format : body.field? "modulation-format" = some (.string modulation) :=
    Json.field?_ofMembers rfl
  change RequestedSpectrum.ofRequest body = _
  simp only [RequestedSpectrum.ofRequest, lowest, highest, stated, center, lowEdge, highEdge,
    width, format]
  rfl

/-- The node of a request for an optical path is found by its name. -/
theorem nodePart_opticalBody
    (named : (Json.ofMembers node).textField? "node-id" = some r.table.node)
    : r.nodePart (opticalBody ctx service modulation node operation)
      = .ok (Json.ofMembers node) :=
  nodePart_of_single (Json.field?_ofMembers rfl) named

end OpticalRequests

-----------------------------------------------------------------------------------------
-- Optical paths
-----------------------------------------------------------------------------------------

/-- What an element makes of a path, by the roles of its ends. -/
def between (r : Renderer) (source destination : Port) (spectrum : RequestedSpectrum)
    : Except RenderError Rendering :=
  match source.role?, destination.role? with
  | some .client, some .network => .ok (r.xponder destination (some source) spectrum)
  | some .riskGroup, some .degree => .ok (roadm source destination destination source spectrum)
  | some .degree, some .riskGroup => .ok (roadm source destination source destination spectrum)
  | _, _ => .error (.rejected ("cannot render a path to " ++ destination.name))

section OpticalPaths

variable {ctx : PlanContext} (named : ctx.node = r.table.node)
include named

theorem render_line {network : Port} {rate : SignalRate}
    (known : r.table.port? network.name = some network) (role : network.role? = some .network)
    (operation : Operation)
    : r.render Plan.opticalRpc ((Plan.optical ctx network none rate).body operation)
      = .ok (r.xponder network none (requested ctx.spectrum rate.modulation)) := by
  let members := [("node-id", Json.string ctx.node), ("dest-tp", .string network.name)]
  have part : (Json.ofMembers members).textField? "node-id" = some r.table.node :=
    named ▸ Json.textField?_ofMembers rfl
  have destination : r.portAt (Json.ofMembers members) "dest-tp" = .ok network :=
    portAt_of_name (Json.textField?_ofMembers rfl) known
  have noSource : (Json.ofMembers members).textField? "src-tp" = none := by
    rw [Json.textField?, Json.field?_ofMembers_none]
    · rfl
    · simp only [members, List.forall_mem_cons, List.not_mem_nil, false_implies, implies_true,
        and_true]
      decide
  change r.render Plan.opticalRpc
    (opticalBody ctx (ctx.service ++ "-" ++ network.name) rate.modulation members operation) = _
  rw [render, nodePart_opticalBody _ _ _ _ _ part]
  simp only [bind, Except.bind, Plan.opticalRpc, if_true, optical, ofRequest_opticalBody,
    destination, noSource, role]

/-- A request for a path between two known ports is rendered by the roles of its ends. -/
theorem render_path {source destination : Port} (service modulation : String)
    (sourceKnown : r.table.port? source.name = some source)
    (destinationKnown : r.table.port? destination.name = some destination)
    {members : List (String × Json)}
    (node : (Json.ofMembers members).textField? "node-id" = some ctx.node)
    (sourceNamed : (Json.ofMembers members).textField? "src-tp" = some source.name)
    (destinationNamed : (Json.ofMembers members).textField? "dest-tp" = some destination.name)
    (operation : Operation)
    : r.render Plan.opticalRpc (opticalBody ctx service modulation members operation)
      = r.between source destination (requested ctx.spectrum modulation) := by
  rw [render, nodePart_opticalBody _ _ _ _ _ (node.trans (congrArg some named))]
  simp only [bind, Except.bind, Plan.opticalRpc, if_true, optical, ofRequest_opticalBody,
    portAt_of_name destinationNamed destinationKnown, sourceNamed,
    portAt_of_name sourceNamed sourceKnown]
  rfl

end OpticalPaths

-----------------------------------------------------------------------------------------
-- Client services
-----------------------------------------------------------------------------------------

/-- The ending of the Ethernet interface of a client service. -/
def clientEnding (kind : ClientKind)
    : String :=
  "ETHERNET" ++ toString kind.gbps ++ "G"

theorem clientMake_gbps (kind : ClientKind)
    : clientMake (some kind.gbps)
      = .ok (clientEnding kind, kind.dataUnit, kind.gbps * 1000, kind.wholeSlots) := by
  cases kind <;> rfl

/-- The rendering of a client service on a network port of a rate. -/
def clientRendering (network : Port) (rate : SignalRate) (client : Port) (kind : ClientKind)
    (position : Nat)
    : Rendering :=
  let eth := client.name ++ "-" ++ clientEnding kind
  let unitRate := ("rate", Json.string ("org-openroadm-otn-common-types:" ++ kind.dataUnit))
  { description := kind.dataUnit ++ " client service " ++ client.name ++ " on " ++ network.name
    resources := [
      ethernet eth client (kind.gbps * 1000),
      dataUnit (client.name ++ "-" ++ kind.dataUnit) client eth [
        unitRate,
        ("odu-function", .string "org-openroadm-otn-common-types:ODU-TTP-CTP"),
        ("monitoring-mode", .string "terminated"),
        ("tx-sapi", .string "AA")],
      dataUnit (network.name ++ "-" ++ kind.dataUnit ++ "-" ++ client.name) network
        (parentName network rate) [
          unitRate,
          ("odu-function", .string "org-openroadm-otn-common-types:ODU-CTP"),
          ("monitoring-mode", .string "monitored"),
          ("parent-odu-allocation",
            Plan.allocation rate (position + 1) (Plan.slotList rate kind position))]] }

/-- The slots of a request are allocated as planned, if the client is within the capacity. -/
theorem allocation_of_request {request : Json} {rate : SignalRate} {kind : ClientKind}
    {position : Nat} (fits : position < kind.capacity rate)
    (port : request.field? "trib-port-number" = some (.ofNat (position + 1)))
    (slots
      : ∀ name v,
          (name, v) ∈ Plan.slotMembers rate (Plan.slotList rate kind position)
          → request.field? name = some v)
    : allocation request rate kind.wholeSlots
      = .ok (Plan.allocation rate (position + 1) (Plan.slotList rate kind position)) := by
  have number : (request.field? "trib-port-number").bind Json.nat? = some (position + 1) := by
    rw [port, Option.bind_some, Json.nat?_ofNat]
  rw [allocation, number]
  cases sliced : rate.slices? with
  | some slices =>
      have stated
          : request.field? "opucn-trib-slots"
            = some (Json.ofStrings (Plan.slicedSlots kind position)) :=
        slots _ _ (by simp [Plan.slotMembers, Plan.slotList, SignalRate.isSliced, sliced])
      have needed : kind.wholeSlots / 4 = kind.slicedSlots := by cases kind <;> rfl
      have inside := Plan.slicedSlots_inside fits sliced
      have length
          : ((Plan.slicedSlots kind position).map Json.string).length = kind.slicedSlots := by
        simp [Plan.slicedSlots]
      simp only [slicedSlots, statedItems, stated, Option.bind_some, Json.ofStrings, Json.items?,
        bind, Except.bind, inside, needed, length, if_true, Plan.allocation,
        Plan.slotList, SignalRate.isSliced, sliced, Option.isSome_some]
  | none =>
      have stated
          : request.field? "trib-slot"
            = some (.array ((Plan.wholeSlots kind position).map .ofNat)) :=
        slots _ _ (by simp [Plan.slotMembers, Plan.slotList, SignalRate.isSliced, sliced])
      have inside := Plan.wholeSlots_inside fits sliced
      have length : ((Plan.wholeSlots kind position).map Json.ofNat).length = kind.wholeSlots := by
        simp [Plan.wholeSlots]
      simp only [wholeSlots, statedItems, stated, Option.bind_some, Json.items?, bind,
        Except.bind, inside, Bool.not_true, Bool.false_eq_true, if_false, length, if_true,
        Plan.allocation, Plan.slotList, SignalRate.isSliced, sliced, Option.isSome_none]

section ClientRequests

variable (ctx : PlanContext) (network client : Port) (rate : SignalRate) (kind : ClientKind)
  (position : Nat) (operation : Operation)

/-- The content of a request for a client service. -/
def clientBody
    : Json :=
  Json.ofMembers
    (Plan.clientMembers ctx network client kind (position + 1)
      ++ Plan.slotMembers rate (Plan.slotList rate kind position)
      ++ [("operation", .string operation.word)])

/-- A field of a request for a client service is looked up among the slots first. -/
theorem field?_clientBody {name : String} {v : Json} (other : name ≠ "operation")
    (stated
      : ((Plan.slotMembers rate (Plan.slotList rate kind position)).reverse.lookup name).or
          ((Plan.clientMembers ctx network client kind (position + 1)).reverse.lookup name)
        = some v)
    : (clientBody ctx network client rate kind position operation).field? name = some v := by
  refine Json.field?_ofMembers ?_
  rw [List.reverse_append, List.reverse_append, List.reverse_singleton, List.singleton_append,
    Keyed.lookup_cons, if_neg other, List.lookup_append]
  exact stated

theorem clientBody_states
    : let body := clientBody ctx network client rate kind position operation
      body.field? "service-rate" = some (.ofNat kind.gbps)
      ∧ body.field? "nodes" = some (.array [Plan.clientNode ctx network client])
      ∧ body.field? "trib-port-number" = some (.ofNat (position + 1)) := by
  have noSlots (name : String) (v : Json)
      (among : name ∈ ["service-rate", "nodes", "trib-port-number"])
      (stated
        : (Plan.clientMembers ctx network client kind (position + 1)).reverse.lookup name = some v)
      : (clientBody ctx network client rate kind position operation).field? name = some v := by
    have other : name ≠ "operation" := by
      rintro rfl
      revert among
      decide
    have foreign
        : (Plan.slotMembers rate (Plan.slotList rate kind position)).reverse.lookup name
          = none := by
      revert name
      rw [Plan.slotMembers]
      cases rate.isSliced <;> simp [Keyed.lookup_cons]
    exact field?_clientBody _ _ _ _ _ _ _ other (by rw [foreign, Option.none_or, stated])
  exact ⟨noSlots _ _ (by decide) rfl, noSlots _ _ (by decide) rfl, noSlots _ _ (by decide) rfl⟩

theorem clientBody_slots {name : String} {v : Json}
    (member : (name, v) ∈ Plan.slotMembers rate (Plan.slotList rate kind position))
    : (clientBody ctx network client rate kind position operation).field? name = some v := by
  have single
      : name ≠ "operation"
        ∧ (Plan.slotMembers rate (Plan.slotList rate kind position)).reverse.lookup name
          = some v := by
    rw [Plan.slotMembers] at member ⊢
    cases sliced : rate.isSliced <;>
      simp [sliced] at member <;>
        obtain ⟨rfl, rfl⟩ := member <;> simp
  exact field?_clientBody _ _ _ _ _ _ _ single.1 (by rw [single.2, Option.some_or])

end ClientRequests

/-- A client service within the capacity is rendered with the slots that are planned for it,
if its network port runs at the planned rate.
-/
theorem render_client {ctx : PlanContext} {network client : Port} {kind : ClientKind}
    {position : Nat} {plan : Plan} (named : ctx.node = r.table.node)
    (networkKnown : r.table.port? network.name = some network)
    (clientKnown : r.table.port? client.name = some client)
    (isClient : plan.IsClient ctx network (r.rateFor network) client kind position)
    (operation : Operation)
    : r.render plan.rpc (plan.body operation)
      = .ok (clientRendering network (r.rateFor network) client kind position) := by
  let body := clientBody ctx network client (r.rateFor network) kind position operation
  have isBody : plan.body operation = body := by rw [Plan.body, isClient.members]; rfl
  obtain ⟨rate, nodes, port⟩ :=
    clientBody_states ctx network client (r.rateFor network) kind position operation
  have part : r.nodePart body = .ok (Plan.clientNode ctx network client) :=
    nodePart_of_single nodes (named ▸ Json.textField?_ofMembers rfl)
  have clientEnd : r.portAt (Plan.clientNode ctx network client) "client-tp" = .ok client :=
    portAt_of_name (Json.textField?_ofMembers rfl) clientKnown
  have networkEnd : r.portAt (Plan.clientNode ctx network client) "network-tp" = .ok network :=
    portAt_of_name (Json.textField?_ofMembers rfl) networkKnown
  have gbps : (body.field? "service-rate").bind Json.nat? = some kind.gbps := by
    rw [rate, Option.bind_some, Json.nat?_ofNat]
  have allocated
      : allocation body (r.rateFor network) kind.wholeSlots
        = .ok (Plan.allocation (r.rateFor network) (position + 1)
            (Plan.slotList (r.rateFor network) kind position)) :=
    allocation_of_request isClient.fits port fun _ _ member => clientBody_slots _ _ _ _ _ _ _ member
  rw [isClient.rpc, isBody, render, part]
  simp only [bind, Except.bind, Plan.clientRpc, String.reduceEq, if_false, if_true,
    clientService, clientEnd, networkEnd, gbps, clientMake_gbps, allocated, body]
  rfl

end Renderer

end Lightpath
