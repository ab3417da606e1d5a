import Lightpath.Proofs.Json.Members
import Lightpath.Proofs.Lifecycle.ObservedRun
import Lightpath.Proofs.Lifecycle.PassedOver
import Lightpath.Proofs.Service.Plans
import Lightpath.Session.Call

/-!
The ports that a run exercises: those that its requests name as the ends of what they create. They
follow from the agenda, and a port that is linked is one of them unless it is passed over with a
finding, or is a further client of a transponder, which is served with its first client alone.
-/

namespace Lightpath

variable {σ κ : Type}

-----------------------------------------------------------------------------------------
-- Ports named by requests
-----------------------------------------------------------------------------------------

/-- The members by which a request names a port as an end of what it asks for. -/
def terminationTags
    : List String :=
  ["src-tp", "dest-tp", "client-tp", "network-tp"]

/-- The ports that a request names in its entries for nodes. -/
def terminationPoints (request : Json)
    : List String :=
  let nodes := ((request.get? "input").bind fun body => body.get? "nodes").bind Json.items?
  (nodes.getD []).flatMap fun node =>
    terminationTags.filterMap fun tag => (node.get? tag).bind Json.string?

/-- A create request of a log names the port as a termination point. -/
def Exercised (log : List (Interaction κ)) (port : String)
    : Prop :=
  ∃ rpc request answer,
    .invoked rpc request answer ∈ log
    ∧ Call.requestText request "operation" = Operation.create.word
    ∧ port ∈ terminationPoints request

namespace Plan

theorem requestText_operation (plan : Plan) (operation : Operation)
    : Call.requestText (plan.request operation) "operation" = operation.word := by
  have body
      : (plan.request operation).get? "input"
        = some (Json.ofMembers (plan.members ++ [("operation", .string operation.word)])) :=
    Json.get?_ofMembers _ _
  rw [Call.requestText, body, Option.bind_some, Json.get?_ofMembers, List.reverse_append]
  rfl

/-- The termination points of a request are read from the one node that its plan is about. -/
theorem terminationPoints_request {plan : Plan} (node : List (String × Json))
    (stated : plan.members.reverse.lookup "nodes" = some (.array [Json.ofMembers node]))
    (operation : Operation)
    : terminationPoints (plan.request operation)
      = terminationTags.filterMap fun tag => (node.reverse.lookup tag).bind Json.string? := by
  have body
      : (plan.request operation).get? "input"
        = some (Json.ofMembers (plan.members ++ [("operation", .string operation.word)])) :=
    Json.get?_ofMembers _ _
  have nodes
      : (Json.ofMembers (plan.members ++ [("operation", .string operation.word)])).get? "nodes"
        = some (.array [Json.ofMembers node]) := by
    rw [Json.get?_ofMembers, List.reverse_append]
    exact stated
  rw [terminationPoints, body, Option.bind_some, nodes]
  simp only [Option.bind_some, Json.items?, Option.getD_some, List.flatMap_cons,
    List.flatMap_nil, List.append_nil, Json.get?_ofMembers]

theorem terminationPoints_line (ctx : PlanContext) (network : Port) (rate : SignalRate)
    (operation : Operation)
    : terminationPoints ((optical ctx network none rate).request operation)
      = [network.name] :=
  terminationPoints_request [("node-id", .string ctx.node), ("dest-tp", .string network.name)] rfl
    operation

theorem terminationPoints_pair (ctx : PlanContext) (network client : Port) (rate : SignalRate)
    (operation : Operation)
    : terminationPoints ((optical ctx network (some client) rate).request operation)
      = [client.name, network.name] :=
  terminationPoints_request [("node-id", .string ctx.node), ("dest-tp", .string network.name),
    ("src-tp", .string client.name)] rfl operation

theorem terminationPoints_roadm (ctx : PlanContext) (source destination : Port)
    (degreeIsSource : Bool) (operation : Operation)
    : terminationPoints ((roadm ctx source destination degreeIsSource).request operation)
      = [source.name, destination.name] :=
  terminationPoints_request [("node-id", .string ctx.node), ("src-tp", .string source.name),
    ("dest-tp", .string destination.name)] rfl operation

theorem terminationPoints_client {plan : Plan} {ctx : PlanContext} {network client : Port}
    {rate : SignalRate} {kind : ClientKind} {position : Nat}
    (isClient : plan.IsClient ctx network rate client kind position) (operation : Operation)
    : terminationPoints (plan.request operation) = [client.name, network.name] := by
  refine terminationPoints_request [("node-id", .string ctx.node),
    ("client-tp", .string client.name), ("network-tp", .string network.name)] ?_ operation
  rw [isClient.members, slotMembers]
  cases rate.isSliced <;> rfl

end Plan

/-- The ports that the create request of a step names, if it makes one. -/
def Step.points
    : Step → List String
  | .bringUp plan => terminationPoints (plan.request .create)
  | .tearDown _ => []
  | .note _ => []

namespace Agenda

theorem create_mem_tasks {params : RunParameters} {topology : Topology} {plan : Plan}
    : Task.create plan ∈ tasks params topology
      ↔ Step.bringUp plan ∈ ofTopology params topology := by
  rw [tasks, List.mem_flatMap]
  constructor
  · intro due
    obtain ⟨step, member, created⟩ := due
    cases step with
    | bringUp other =>
        obtain rfl : plan = other := by simpa [Step.tasks] using created
        exact member
    | tearDown other => simp [Step.tasks] at created
    | note finding => simp [Step.tasks] at created
  · exact fun member => ⟨_, member, List.mem_cons_self⟩

theorem mem_points_iff {steps : List Step} {port : String}
    : port ∈ steps.flatMap Step.points
      ↔ ∃ plan, .bringUp plan ∈ steps ∧ port ∈ terminationPoints (plan.request .create) := by
  rw [List.mem_flatMap]
  constructor
  · intro names
    obtain ⟨step, member, named⟩ := names
    cases step with
    | bringUp plan => exact ⟨plan, member, named⟩
    | tearDown _ | note _ => cases named
  · intro names
    obtain ⟨plan, member, named⟩ := names
    exact ⟨_, member, named⟩

end Agenda

/-- A run with a verdict exercises the ports that the steps of its agenda name. -/
theorem Lifecycle.exercised_iff_points {c : Collaborators σ κ} {params : RunParameters}
    {topology : Topology} {s : σ} {v : Verdict}
    (given : (verify c params topology s).1 = .ok v) (port : String)
    : Exercised (transcript c params topology s) port
      ↔ port ∈ (Agenda.ofTopology params topology).flatMap Step.points := by
  obtain ⟨due, -, -⟩ := observations_of_verdict given
  simp only [Agenda.mem_points_iff, ← Agenda.create_mem_tasks, ← due, transcript_eq]
  constructor
  · intro exercised
    obtain ⟨rpc, request, answer, logged, isCreate, named⟩ := exercised
    obtain ⟨o, observed, made⟩ := List.mem_flatMap.mp logged
    cases o with
    | created plan given =>
        cases List.mem_singleton.mp made
        exact ⟨plan, List.mem_map_of_mem observed, named⟩
    | deleted plan given =>
        cases List.mem_singleton.mp made
        rw [Plan.requestText_operation] at isCreate
        exact absurd isCreate (by decide)
    | inspected resource given | confirmed resource given =>
        rw [Observation.interactions, List.mem_singleton, Observation.lookupInteraction] at made
        split at made <;> cases made
    | sampled plan access | surveyed plan access =>
        cases access <;> simp [Observation.interactions, Access.interactions] at made
    | noted finding => cases made
  · intro names
    obtain ⟨plan, isDue, named⟩ := names
    obtain ⟨o, observed, task⟩ := List.mem_map.mp isDue
    cases o with
    | created other answer =>
        cases task
        exact ⟨_, _, answer, List.mem_flatMap.mpr ⟨_, observed, List.mem_cons_self⟩,
          Plan.requestText_operation _ _, named⟩
    | _ => cases task

-----------------------------------------------------------------------------------------
-- Linked ports
-----------------------------------------------------------------------------------------

namespace NetworkRecord

/-- How many clients a network port is run with at a rate: a transponder with one, whatever number
is linked to it, and any other with those that fit.
-/
def places (r : NetworkRecord) (rate : SignalRate)
    : Nat :=
  match (PortClass.ofNetwork r).clientKind? with
  | none => 1
  | some kind => kind.capacity rate

/-- The clients past the first of a transponder. -/
def spareClients (r : NetworkRecord)
    : List Port :=
  match (PortClass.ofNetwork r).clientKind? with
  | none => r.clients.drop 1
  | some _ => []

/-- A network port that has clients is exercised at each rate, with those that it is run with. -/
def exercisedNames (params : RunParameters) (r : NetworkRecord)
    : List String :=
  if r.clients.isEmpty then []
  else
    (params.exercisedRates r.port).flatMap fun rate =>
      r.port.name :: (r.clients.take (r.places rate)).map Port.name

end NetworkRecord

/-- A degree that has risk groups is exercised with all of them. -/
def DegreeRecord.exercisedNames (r : DegreeRecord)
    : List String :=
  if r.riskGroups.isEmpty then [] else r.port.name :: r.riskGroups.map Port.name

namespace Topology

/-- The names of all ports with a record and of the ports linked to them. -/
def linkedNames (t : Topology)
    : List String :=
  t.networks.flatMap (fun r => r.port.name :: r.clientNames)
    ++ t.degrees.flatMap fun r => r.port.name :: r.riskGroups.map Port.name

/-- The names of spare clients. -/
def spareNames (t : Topology)
    : List String :=
  t.networks.flatMap fun r => r.spareClients.map Port.name

/-- The names of the ports that a run exercises. -/
def exercisedNames (params : RunParameters) (t : Topology)
    : List String :=
  t.networks.flatMap (NetworkRecord.exercisedNames params)
    ++ t.degrees.flatMap DegreeRecord.exercisedNames

end Topology

namespace Agenda

variable {params : RunParameters}

theorem points_cycle (plan : Plan)
    : (cycle plan).flatMap Step.points = terminationPoints (plan.request .create) := by
  simp [cycle, Step.points]

/-- The steps of a client name it with its network port, if it is within the capacity. -/
theorem points_clientSteps (ctx : PlanContext) (network : Port) (rate : SignalRate)
    (kind : ClientKind) (position : Nat) (client : Port)
    : (clientSteps ctx network rate kind position client).flatMap Step.points
      = if position < kind.capacity rate then [client.name, network.name] else [] := by
  rw [clientSteps]
  cases planned : Plan.client? ctx network rate client kind position with
  | some plan =>
      have isClient := Plan.isClient planned
      simp only [points_cycle, Plan.terminationPoints_client isClient, isClient.fits, if_true]
  | none =>
      simp only [Plan.client?_eq_none planned, if_false]
      rfl

/-- The steps of all clients name those within the capacity, each with its network port. -/
theorem mem_points_clients (ctx : PlanContext) (network : Port) (rate : SignalRate)
    (kind : ClientKind) (clients : List Port) (port : String)
    : port ∈ (clients.mapIdx (clientSteps ctx network rate kind)).flatten.flatMap Step.points
      ↔ ∃ c ∈ clients.take (kind.capacity rate), port = c.name ∨ port = network.name := by
  rw [List.mapIdx_eq_zipIdx_map, ← List.flatMap_def, List.flatMap_assoc, List.mem_flatMap]
  simp only [points_clientSteps]
  constructor
  · intro names
    obtain ⟨⟨c, i⟩, member, named⟩ := names
    split at named
    · rename_i within
      have found := List.mk_mem_zipIdx_iff_getElem?.mp member
      obtain ⟨bound, rfl⟩ := List.getElem?_eq_some_iff.mp found
      exact ⟨_, List.mem_take_iff_getElem.mpr ⟨i, by omega, rfl⟩, by simpa using named⟩
    · cases named
  · intro names
    obtain ⟨c, taken, named⟩ := names
    obtain ⟨i, within, rfl⟩ := List.mem_take_iff_getElem.mp taken
    refine ⟨(clients[i], i), List.mk_mem_zipIdx_iff_getElem?.mpr (by simp), ?_⟩
    rw [if_pos (by omega)]
    simpa using named

/-- At a rate a network port is named, and so are the clients that it is run with. -/
theorem mem_points_rateSteps {ctx : PlanContext} {record : NetworkRecord} {first : Port}
    {rest : List Port} (linked : record.clients = first :: rest) (rate : SignalRate) (port : String)
    : port ∈ (rateSteps ctx record first rate).flatMap Step.points
      ↔ port ∈ record.port.name :: (record.clients.take (record.places rate)).map Port.name := by
  rw [rateSteps, NetworkRecord.places]
  cases (PortClass.ofNetwork record).clientKind? with
  | none =>
      simp [points_cycle, Plan.terminationPoints_pair, linked, or_comm]
  | some kind =>
      simp only [List.flatMap_append, List.mem_append, mem_points_clients, List.flatMap_cons,
        List.flatMap_nil, List.append_nil, Step.points, Plan.terminationPoints_line,
        List.not_mem_nil, or_false, List.mem_cons, List.mem_map]
      constructor
      · intro names
        rcases names with network | ⟨c, taken, client | network⟩
        · exact Or.inl network
        · exact Or.inr ⟨c, taken, client.symm⟩
        · exact Or.inl network
      · intro names
        rcases names with network | ⟨c, taken, rfl⟩
        · exact Or.inl network
        · exact Or.inr ⟨c, taken, Or.inl rfl⟩

theorem mem_points_networkSteps (record : NetworkRecord) (port : String)
    : port ∈ (networkSteps params record).flatMap Step.points
      ↔ port ∈ record.exercisedNames params := by
  cases linked : record.clients with
  | nil => simp [networkSteps, NetworkRecord.exercisedNames, linked, Step.points]
  | cons first rest =>
      rw [networkSteps_of_linked params linked, List.flatMap_assoc, List.mem_flatMap]
      simp only [mem_points_rateSteps linked]
      rw [NetworkRecord.exercisedNames, if_neg (by simp [linked]), List.mem_flatMap]

theorem points_riskGroupSteps (ctx : PlanContext) (degree drop : Port)
    : (riskGroupSteps ctx degree drop).flatMap Step.points
      = [drop.name, degree.name, degree.name, drop.name] := by
  rw [riskGroupSteps, List.flatMap_append, points_cycle, points_cycle,
    Plan.terminationPoints_roadm, Plan.terminationPoints_roadm]
  rfl

theorem mem_points_degreeSteps (record : DegreeRecord) (port : String)
    : port ∈ (degreeSteps params record).flatMap Step.points
      ↔ port ∈ record.exercisedNames := by
  rw [degreeSteps, DegreeRecord.exercisedNames]
  cases linked : record.riskGroups with
  | nil => simp [Step.points]
  | cons first rest =>
      rw [if_neg (by simp), if_neg (by simp), List.flatMap_assoc, List.mem_flatMap, List.mem_cons,
        List.mem_map]
      simp only [points_riskGroupSteps, List.mem_cons, List.not_mem_nil, or_false]
      constructor
      · intro names
        rcases names with ⟨g, member, rfl | rfl | rfl | rfl⟩
        · exact Or.inr ⟨g, member, rfl⟩
        · exact Or.inl rfl
        · exact Or.inl rfl
        · exact Or.inr ⟨g, member, rfl⟩
      · intro names
        rcases names with degree | ⟨g, member, rfl⟩
        · exact ⟨first, Or.inl rfl, Or.inr (Or.inl degree)⟩
        · exact ⟨g, member, Or.inl rfl⟩

/-- The steps of an agenda name the ports that a run exercises. -/
theorem mem_points_ofTopology (topology : Topology) (port : String)
    : port ∈ (ofTopology params topology).flatMap Step.points
      ↔ port ∈ topology.exercisedNames params := by
  rw [ofTopology, Topology.exercisedNames, List.flatMap_append, List.flatMap_assoc,
    List.flatMap_assoc, List.mem_append, List.mem_append, List.mem_flatMap, List.mem_flatMap,
    List.mem_flatMap, List.mem_flatMap]
  simp only [mem_points_networkSteps, mem_points_degreeSteps]

end Agenda

-----------------------------------------------------------------------------------------
-- Nothing is passed over but spare clients
-----------------------------------------------------------------------------------------

/-- Some step notes a finding about the port instead of exercising it. -/
def Agenda.PassesOver (steps : List Step) (port : String)
    : Prop :=
  ∃ finding,
    .note finding ∈ steps ∧ finding.category = .reconstruction ∧ finding.subject = port

/-- A client of a network port is exercised at some rate, passed over at all of them, or spare. -/
theorem NetworkRecord.client_cases (params : RunParameters) {r : NetworkRecord} {c : Port}
    (linked : c ∈ r.clients)
    : c.name ∈ r.exercisedNames params
      ∨ Agenda.PassesOver (Agenda.networkSteps params r) c.name
      ∨ c.name ∈ r.spareClients.map Port.name := by
  obtain ⟨i, bound, rfl⟩ := List.mem_iff_getElem.mp linked
  obtain ⟨rate, asked⟩ := List.exists_mem_of_ne_nil _ (params.exercisedRates_ne_nil r.port)
  by_cases within : i < r.places rate
  · rw [exercisedNames, if_neg (by simpa using List.ne_nil_of_mem linked), List.mem_flatMap]
    have taken : r.clients[i] ∈ r.clients.take (r.places rate) :=
      List.mem_take_iff_getElem.mpr ⟨i, by omega, rfl⟩
    exact Or.inl ⟨rate, asked, List.mem_cons_of_mem _ (List.mem_map_of_mem taken)⟩
  · apply Or.inr
    rw [places] at within
    rw [spareClients]
    cases service : (PortClass.ofNetwork r).clientKind? with
    | none =>
        rw [service] at within
        have later : 0 < i := Nat.le_of_not_lt within
        have spare : r.clients[i] ∈ r.clients.drop 1 := by
          refine List.mem_drop_iff_getElem.mpr ⟨i - 1, by omega, ?_⟩
          congr 1
          omega
        exact Or.inr (List.mem_map_of_mem spare)
    | some kind =>
        rw [service] at within
        refine Or.inl ⟨Agenda.overCapacity r.port rate r.clients[i] kind, ?_, rfl, rfl⟩
        exact (Agenda.note_mem_networkSteps ..).mpr (Or.inr ⟨rate, asked, kind, _,
          ⟨service, i, List.getElem?_eq_getElem bound, Nat.le_of_not_lt within⟩, rfl⟩)

/-- A network port is exercised if it has clients, and passed over otherwise. -/
theorem NetworkRecord.port_cases (params : RunParameters) (r : NetworkRecord)
    : r.port.name ∈ r.exercisedNames params
      ∨ Agenda.PassesOver (Agenda.networkSteps params r) r.port.name := by
  by_cases unlinked : r.clients = []
  · refine Or.inr ⟨Agenda.unlinked (.ofNetwork r) r.port, ?_, rfl, rfl⟩
    exact (Agenda.note_mem_networkSteps ..).mpr (Or.inl ⟨unlinked, rfl⟩)
  · obtain ⟨rate, asked⟩ := List.exists_mem_of_ne_nil _ (params.exercisedRates_ne_nil r.port)
    rw [exercisedNames, if_neg (by simpa using unlinked), List.mem_flatMap]
    exact Or.inl ⟨rate, asked, List.mem_cons_self⟩

/-- A degree and its risk groups are exercised, or the degree has none and is passed over. -/
theorem DegreeRecord.linked_cases (params : RunParameters) {r : DegreeRecord} {port : String}
    (linked : port ∈ r.port.name :: r.riskGroups.map Port.name)
    : port ∈ r.exercisedNames
      ∨ Agenda.PassesOver (Agenda.degreeSteps params r) port := by
  by_cases unlinked : r.riskGroups = []
  · rw [unlinked, List.map_nil, List.mem_singleton] at linked
    refine Or.inr ⟨Agenda.unlinked .degree r.port, ?_, rfl, linked.symm⟩
    exact (Agenda.note_mem_degreeSteps ..).mpr ⟨unlinked, rfl⟩
  · rw [exercisedNames, if_neg (by simpa using unlinked)]
    exact Or.inl linked

/-- A linked port is exercised, passed over with a finding, or a spare client. -/
theorem Topology.linked_cases (params : RunParameters) {t : Topology} {port : String}
    (linked : port ∈ t.linkedNames)
    : port ∈ t.exercisedNames params
      ∨ Agenda.PassesOver (Agenda.ofTopology params t) port
      ∨ port ∈ t.spareNames := by
  rw [linkedNames, List.mem_append, List.mem_flatMap, List.mem_flatMap] at linked
  simp only [exercisedNames, spareNames, List.mem_append, List.mem_flatMap]
  rcases linked with ⟨r, member, own⟩ | ⟨r, member, own⟩
  · have passed : ∀ port, Agenda.PassesOver (Agenda.networkSteps params r) port →
        Agenda.PassesOver (Agenda.ofTopology params t) port := by
      intro port skipped
      obtain ⟨finding, noted, about⟩ := skipped
      exact ⟨finding, List.mem_append_left _ (List.mem_flatMap.mpr ⟨r, member, noted⟩), about⟩
    rcases List.mem_cons.mp own with rfl | client
    · rcases r.port_cases params with exercised | skipped
      · exact Or.inl (Or.inl ⟨r, member, exercised⟩)
      · exact Or.inr (Or.inl (passed _ skipped))
    · obtain ⟨c, isClient, rfl⟩ := List.mem_map.mp client
      rcases NetworkRecord.client_cases params isClient with exercised | skipped | spare
      · exact Or.inl (Or.inl ⟨r, member, exercised⟩)
      · exact Or.inr (Or.inl (passed _ skipped))
      · exact Or.inr (Or.inr ⟨r, member, spare⟩)
  · rcases DegreeRecord.linked_cases params own with exercised | ⟨finding, noted, about⟩
    · exact Or.inl (Or.inr ⟨r, member, exercised⟩)
    · exact Or.inr (Or.inl ⟨finding,
        List.mem_append_right _ (List.mem_flatMap.mpr ⟨r, member, noted⟩), about⟩)

theorem Topology.mem_linkedNames_of_spare {t : Topology} {port : String}
    (spare : port ∈ t.spareNames)
    : port ∈ t.linkedNames := by
  obtain ⟨r, member, own⟩ := List.mem_flatMap.mp spare
  have client : port ∈ r.clientNames := by
    obtain ⟨c, isSpare, rfl⟩ := List.mem_map.mp own
    rw [NetworkRecord.spareClients] at isSpare
    split at isSpare
    · exact List.mem_map_of_mem (List.mem_of_mem_drop isSpare)
    · cases isSpare
  exact List.mem_append_left _ (List.mem_flatMap.mpr ⟨r, member, List.mem_cons_of_mem _ client⟩)

namespace Lifecycle

variable {c : Collaborators σ κ} {params : RunParameters} {topology : Topology} {s : σ}
  {v : Verdict} (given : (verify c params topology s).1 = .ok v)
include given

/-- A run with a verdict exercises the ports that the topology calls for, and no others. -/
theorem exercised_iff (port : String)
    : Exercised (transcript c params topology s) port
      ↔ port ∈ topology.exercisedNames params :=
  (exercised_iff_points given port).trans (Agenda.mem_points_ofTopology topology port)

/-- A port that the agenda passes skipped has a finding in the verdict. -/
theorem finding_of_passesOver {port : String}
    (skipped : Agenda.PassesOver (Agenda.ofTopology params topology) port)
    : ∃ f ∈ v.findings, f.category = .reconstruction ∧ f.subject = port := by
  obtain ⟨finding, noted, about⟩ := skipped
  obtain ⟨due, -, findings⟩ := observations_of_verdict given
  have task := (Agenda.note_mem_tasks params topology finding).mpr noted
  rw [← due] at task
  obtain ⟨o, observed, same⟩ := List.mem_map.mp task
  refine ⟨finding, ?_, about⟩
  rw [findings, Verdict.findings_ofFindings]
  apply List.mem_flatMap.mpr
  refine ⟨o, observed, ?_⟩
  cases o with
  | noted own =>
      cases same
      exact List.mem_singleton_self _
  | _ => cases same

end Lifecycle

end Lightpath
