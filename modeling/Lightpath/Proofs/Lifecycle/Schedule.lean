import Lightpath.Proofs.Keyed
import Lightpath.Proofs.Lifecycle.ObservedRun
import Lightpath.Proofs.Lifecycle.PassedOver
import Mathlib.Data.List.Basic

/-!
The schedule of a run: the control calls and the sessions to be opened, computed from the
topology and the parameters alone. Whatever the collaborators answer, a run makes exactly
these calls, unless a control call does not reach the controller, which ends the run at that
call.
-/

namespace Lightpath

variable {σ κ : Type}

/-- A call of the schedule. What is read over a session and its close are not scheduled: they
depend on whether the session could be opened.
-/
inductive ScheduledCall where
  | invoke (rpc : String) (request : Json)
  | interface (node name : String)
  | connection (node name : String)
  | openSession (node : String)

/-- The scheduled call that an interaction is an answer to. -/
def Interaction.scheduled?
    : Interaction κ → Option ScheduledCall
  | .invoked rpc request _ => some (.invoke rpc request)
  | .interfaceSought node name _ => some (.interface node name)
  | .connectionSought node name _ => some (.connection node name)
  | .opened node _ => some (.openSession node)
  | .read _ _ _ => none
  | .closed _ _ => none

namespace Schedule

/-- A request with its operation replaced and the rest of its input as it is. -/
def restated (operation : Operation) (request : Json)
    : Json :=
  match request.get? "input" with
  | some (.object members) =>
      Json.ofMembers
        [("input", .object (Keyed.insert "operation" (.string operation.word) members))]
  | _ => request

/-- The look-ups of all planned resources in the order of the plan. -/
def lookups (node : String) (plan : Plan)
    : List ScheduledCall :=
  plan.resources.map fun r =>
    if r.isConnection then .connection node r.name else .interface node r.name

/-- The calls of a bring-up: the request, the look-ups, and a session each for the sample and
the alarms.
-/
def bringUp (node : String) (plan : Plan)
    : List ScheduledCall :=
  [.invoke plan.rpc (plan.request .create)] ++ lookups node plan
    ++ [.openSession node, .openSession node]

/-- The calls of a tear-down: the request of the bring-up for the other operation, and the
look-ups.
-/
def tearDown (node : String) (plan : Plan)
    : List ScheduledCall :=
  [.invoke plan.rpc (restated .delete (plan.request .create))] ++ lookups node plan

/-- The calls of a whole cycle. -/
def cycle (node : String) (plan : Plan)
    : List ScheduledCall :=
  bringUp node plan ++ tearDown node plan

/-- A cycle for each client of a network port within its capacity, in the order of linking. -/
def clients (ctx : PlanContext) (record : NetworkRecord) (rate : SignalRate) (kind : ClientKind)
    : List ScheduledCall :=
  (record.clients.take (kind.capacity rate)).zipIdx.flatMap fun client =>
    cycle ctx.node (.clientAt ctx record.port rate client.1 kind client.2)

/-- The calls for a network port at a rate: one cycle with the first client, or the services of
the clients within the network side.
-/
def atRate (ctx : PlanContext) (record : NetworkRecord) (first : Port) (rate : SignalRate)
    : List ScheduledCall :=
  match (PortClass.ofNetwork record).clientKind? with
  | none => cycle ctx.node (.optical ctx record.port (some first) rate)
  | some kind =>
      let plan := Plan.optical ctx record.port none rate
      bringUp ctx.node plan ++ clients ctx record rate kind ++ tearDown ctx.node plan

/-- The calls for a network port: none if it has no client, else those of each rate. -/
def network (params : RunParameters) (record : NetworkRecord)
    : List ScheduledCall :=
  match record.clients.head? with
  | none => []
  | some first =>
      (params.exercisedRates record.port).flatMap
        (atRate (Agenda.context params) record first)

/-- The calls for a degree: for each port linked to it a cycle to add and one to drop. -/
def degree (params : RunParameters) (record : DegreeRecord)
    : List ScheduledCall :=
  record.riskGroups.flatMap fun drop =>
    cycle params.node (.roadm (Agenda.context params) drop record.port false)
      ++ cycle params.node (.roadm (Agenda.context params) record.port drop true)

/-- The calls of a run: the network ports in order, then the degrees. -/
def calls (params : RunParameters) (topology : Topology)
    : List ScheduledCall :=
  topology.networks.flatMap (network params) ++ topology.degrees.flatMap (degree params)

end Schedule

-----------------------------------------------------------------------------------------
-- The calls of a task do not depend on its answer
-----------------------------------------------------------------------------------------

namespace Task

/-- The scheduled calls of a task. -/
def calls (node : String)
    : Task → List ScheduledCall
  | .create plan => [.invoke plan.rpc (plan.request .create)]
  | .inspect r =>
      [if r.isConnection then .connection node r.name else .interface node r.name]
  | .sample _ => [.openSession node]
  | .survey _ => [.openSession node]
  | .delete plan => [.invoke plan.rpc (plan.request .delete)]
  | .confirm r =>
      [if r.isConnection then .connection node r.name else .interface node r.name]
  | .note _ => []

end Task

namespace Observation

/-- An access opens one session, whether that succeeds or not. -/
theorem scheduled_access (node : String) (request : ReadRequest) (access : Access κ)
    : (access.interactions node request).filterMap Interaction.scheduled?
      = [.openSession node] := by
  cases access <;> rfl

/-- The scheduled calls of an observation are those of its task. -/
theorem scheduled_interactions (node : String) (o : Observation κ)
    : (o.interactions node).filterMap Interaction.scheduled? = o.task.calls node := by
  cases o with
  | created plan answer | deleted plan answer => rfl
  | inspected resource answer | confirmed resource answer =>
      cases connection : resource.isConnection <;>
        simp [interactions, lookupInteraction, task, Task.calls, Interaction.scheduled?,
          connection]
  | sampled plan access | surveyed plan access => exact scheduled_access _ _ _
  | noted finding => rfl

/-- The outages among the interactions of an observation are its own. -/
theorem outage_interactions (node : String) (o : Observation κ)
    : (o.interactions node).filterMap Interaction.outage?
      = (o.outage?.map RunError.cause).toList := by
  cases o with
  | created plan answer | deleted plan answer =>
      cases outage : TransportError.outage? answer <;>
        simp [interactions, outage?, Interaction.outage?, outage]
  | inspected resource answer | confirmed resource answer =>
      cases connection : resource.isConnection <;>
        cases outage : TransportError.outage? answer <;>
          simp [interactions, lookupInteraction, outage?, Interaction.outage?, outage,
            connection]
  | sampled plan access | surveyed plan access => cases access <;> rfl
  | noted finding => rfl

/-- An observation with an outage was made by one interaction. -/
theorem interactions_of_outage {o : Observation κ} {e : RunError} (node : String)
    (outage : o.outage? = some e)
    : ∃ x, o.interactions node = [x] ∧ x.outage? = some e.cause := by
  have single : ∃ x, o.interactions node = [x] := by
    cases o with
    | created plan answer | deleted plan answer | inspected resource answer
    | confirmed resource answer => exact ⟨_, rfl⟩
    | sampled plan access | surveyed plan access => simp [outage?] at outage
    | noted finding => simp [outage?] at outage
  obtain ⟨x, single⟩ := single
  have own := outage_interactions node o
  rw [single, outage] at own
  cases down : x.outage? with
  | none => simp [down] at own
  | some cause => exact ⟨x, single, by simpa [down] using own⟩

theorem interactions_answered {seen : List (Observation κ)} (node : String)
    (quiet : ∀ o ∈ seen, o.outage? = none)
    : ∀ x ∈ seen.flatMap (interactions node), x.outage? = none := by
  intro x member
  obtain ⟨o, observed, within⟩ := List.mem_flatMap.mp member
  have own := outage_interactions node o
  rw [quiet o observed] at own
  exact List.filterMap_eq_nil_iff.mp own x within

end Observation

-----------------------------------------------------------------------------------------
-- The calls of the agenda are the schedule
-----------------------------------------------------------------------------------------

/-- The request to delete is the request to create with its operation replaced. -/
theorem Plan.request_restated (plan : Plan)
    : Schedule.restated .delete (plan.request .create) = plan.request .delete := by
  simp [Schedule.restated, Plan.request, Json.ofMembers, Json.get?, Keyed.ofList_concat,
    Keyed.insert_insert, Keyed.lookup_ofList]

namespace Schedule

/-- The calls of a step. -/
def ofStep (node : String) (step : Step)
    : List ScheduledCall :=
  step.tasks.flatMap (Task.calls node)

theorem flatMap_lookups (node : String) (plan : Plan) (task : PlannedResource → Task)
    (looks
      : ∀ r,
          (task r).calls node
          = [if r.isConnection then .connection node r.name else .interface node r.name])
    : (plan.resources.map task).flatMap (Task.calls node) = lookups node plan := by
  rw [List.flatMap_map, lookups, List.map_eq_flatMap]
  simp only [looks]

theorem ofStep_bringUp (node : String) (plan : Plan)
    : ofStep node (.bringUp plan) = bringUp node plan := by
  simp only [ofStep, Step.tasks, List.flatMap_cons, List.flatMap_append,
    flatMap_lookups node plan .inspect fun _ => rfl]
  simp [bringUp, Task.calls]

theorem ofStep_tearDown (node : String) (plan : Plan)
    : ofStep node (.tearDown plan) = tearDown node plan := by
  simp only [ofStep, Step.tasks, List.flatMap_cons,
    flatMap_lookups node plan .confirm fun _ => rfl]
  simp [tearDown, Task.calls, Plan.request_restated]

theorem ofStep_note (node : String) (finding : Finding)
    : ofStep node (.note finding) = [] :=
  rfl

theorem flatMap_cycle (node : String) (plan : Plan)
    : (Agenda.cycle plan).flatMap (ofStep node) = cycle node plan := by
  simp [Agenda.cycle, cycle, ofStep_bringUp, ofStep_tearDown]

section Clients

variable (ctx : PlanContext) (network : Port) (rate : SignalRate) {kind : ClientKind}
  {position : Nat} (client : Port)

/-- The steps of a client within the capacity make the calls of its cycle. -/
theorem flatMap_clientSteps (fits : position < kind.capacity rate)
    : (Agenda.clientSteps ctx network rate kind position client).flatMap (ofStep ctx.node)
      = cycle ctx.node (.clientAt ctx network rate client kind position) := by
  simp only [Agenda.clientSteps, Plan.client?, if_pos fits, flatMap_cycle]

/-- A client past the capacity makes no calls. -/
theorem flatMap_clientSteps_past (past : kind.capacity rate ≤ position)
    : (Agenda.clientSteps ctx network rate kind position client).flatMap (ofStep ctx.node)
      = [] := by
  simp [Agenda.clientSteps, Plan.client?, Nat.not_lt.mpr past, ofStep_note]

end Clients

/-- The services of all clients make the calls of those within the capacity. -/
theorem flatMap_clients (ctx : PlanContext) (record : NetworkRecord) (rate : SignalRate)
    (kind : ClientKind)
    : ((record.clients.mapIdx (Agenda.clientSteps ctx record.port rate kind)).flatten).flatMap
        (ofStep ctx.node)
      = clients ctx record rate kind := by
  have within
      : ∀ client ∈ (record.clients.take (kind.capacity rate)).zipIdx,
          client.2 < kind.capacity rate := by
    intro client member
    have bound := List.snd_lt_of_mem_zipIdx member
    simp only [List.length_take] at bound
    omega
  have past
      : ∀ client ∈ (record.clients.drop (kind.capacity rate)).zipIdx
            (record.clients.take (kind.capacity rate)).length,
          kind.capacity rate ≤ client.2 := by
    intro client member
    have start := List.le_snd_of_mem_zipIdx member
    by_cases short : record.clients.length ≤ kind.capacity rate
    · simp [List.drop_eq_nil_of_le short] at member
    · simp only [List.length_take] at start
      omega
  rw [List.mapIdx_eq_zipIdx_map, ← List.flatMap_def, List.flatMap_assoc]
  conv_lhs => rw [← List.take_append_drop (kind.capacity rate) record.clients]
  rw [List.zipIdx_append, List.flatMap_append, Nat.zero_add,
    List.flatMap_eq_nil_iff.mpr fun client member =>
      flatMap_clientSteps_past ctx record.port rate client.1 (past client member),
    List.append_nil, clients]
  exact List.flatMap_congr fun client member =>
    flatMap_clientSteps ctx record.port rate client.1 (within client member)

theorem flatMap_rateSteps (ctx : PlanContext) (record : NetworkRecord) (first : Port)
    (rate : SignalRate)
    : (Agenda.rateSteps ctx record first rate).flatMap (ofStep ctx.node)
      = atRate ctx record first rate := by
  unfold Agenda.rateSteps atRate
  cases (PortClass.ofNetwork record).clientKind? with
  | none => exact flatMap_cycle _ _
  | some kind =>
      simp only [List.flatMap_append, flatMap_clients, List.flatMap_cons, List.flatMap_nil,
        List.append_nil, ofStep_bringUp, ofStep_tearDown]

theorem flatMap_ofTopology (params : RunParameters) (topology : Topology)
    : (Agenda.ofTopology params topology).flatMap (ofStep params.node)
      = calls params topology := by
  have networks (record : NetworkRecord)
      : (Agenda.networkSteps params record).flatMap (ofStep params.node)
        = network params record := by
    cases linked : record.clients with
    | nil => simp [Agenda.networkSteps, network, linked, ofStep_note]
    | cons first rest =>
        rw [Agenda.networkSteps_of_linked params linked, List.flatMap_assoc]
        simp only [network, linked, List.head?_cons]
        exact List.flatMap_congr fun rate _ =>
          flatMap_rateSteps (Agenda.context params) record first rate
  have degrees (record : DegreeRecord)
      : (Agenda.degreeSteps params record).flatMap (ofStep params.node)
        = degree params record := by
    unfold Agenda.degreeSteps degree
    cases record.riskGroups with
    | nil => simp [ofStep_note]
    | cons drop rest =>
        simp only [List.isEmpty_cons, Bool.false_eq_true, if_false, List.flatMap_assoc,
          Agenda.riskGroupSteps, List.flatMap_append, flatMap_cycle]
  simp only [Agenda.ofTopology, calls, List.flatMap_append, List.flatMap_assoc, networks,
    degrees]

theorem flatMap_tasks (params : RunParameters) (topology : Topology)
    : (Agenda.tasks params topology).flatMap (Task.calls params.node)
      = calls params topology := by
  rw [Agenda.tasks, List.flatMap_assoc]
  exact flatMap_ofTopology params topology

end Schedule

-----------------------------------------------------------------------------------------
-- Every run follows the schedule
-----------------------------------------------------------------------------------------

namespace Lifecycle

/-- The scheduled calls of a transcript are those of the tasks that were observed. -/
theorem scheduled_transcript (c : Collaborators σ κ) (params : RunParameters)
    (topology : Topology) (s : σ)
    : (transcript c params topology s).filterMap Interaction.scheduled?
      = ((observations c params topology s).map Observation.task).flatMap
          (Task.calls params.node) := by
  rw [transcript_eq, List.filterMap_flatMap, List.flatMap_map]
  simp only [Observation.scheduled_interactions]

/-- A list that ends with its only item of a property is cut by no other item of it. -/
theorem append_eq_concat_of_last {α : Type} {p : α → Prop}
    {before after front : List α} {x last : α}
    (split : front ++ [last] = before ++ x :: after) (only : ∀ y ∈ front, ¬ p y)
    (found : p x)
    : after = [] ∧ front = before ∧ last = x := by
  rcases List.eq_nil_or_concat after with rfl | ⟨rest, final, rfl⟩
  · obtain ⟨same, equal⟩ := List.append_inj' split rfl
    exact ⟨rfl, same, List.singleton_inj.mp equal⟩
  · have longer : front ++ [last] = (before ++ x :: rest) ++ [final] := by simp [split]
    obtain ⟨same, _⟩ := List.append_inj' longer rfl
    exact absurd found (only x (by simp [same]))

/-- Whatever the collaborators answer, a run makes the scheduled calls and no others. If no
control call is an outage it makes all of them and gives a verdict; the first outage is the
last thing that happens, the calls up to it are the beginning of the schedule, and it is the
error that the run ends with.
-/
theorem verify_follows_schedule (c : Collaborators σ κ) (params : RunParameters)
    (topology : Topology) (s : σ)
    : let log := transcript c params topology s
      let calls := log.filterMap Interaction.scheduled?
      let result := (verify c params topology s).1
      ((∀ x ∈ log, x.outage? = none)
        → calls = Schedule.calls params topology ∧ ∃ v, result = .ok v)
      ∧ ∀ before x after e,
          log = before ++ x :: after
          → x.outage? = some e
          → after = []
            ∧ (∀ y ∈ before, y.outage? = none)
            ∧ calls <+: Schedule.calls params topology
            ∧ ∃ operation, result = .error ⟨operation, e⟩ := by
  intro log calls result
  have scheduled := scheduled_transcript c params topology s
  have made := transcript_eq c params topology s
  rcases Task.observeAll_shape c params.node (Agenda.tasks params topology) s with
    ⟨quiet, same⟩ | ⟨front, last, e, split, quiet, down, first⟩
  · have answered : ∀ x ∈ log, x.outage? = none := by
      simp only [log, made]
      exact Observation.interactions_answered params.node quiet
    refine ⟨fun _ => ⟨?_, ?_⟩, fun before x after e split down => ?_⟩
    · exact scheduled.trans (same ▸ Schedule.flatMap_tasks params topology)
    · have none : (observations c params topology s).findSome? Observation.outage? = none :=
        List.findSome?_eq_none_iff.mpr quiet
      simp only [result, verify_eq, none, Except.ok.injEq, exists_eq']
    · have up := answered x (by simp [split])
      simp [up] at down
  · obtain ⟨y, single, cause⟩ := Observation.interactions_of_outage params.node down
    have ends
        : log = front.flatMap (Observation.interactions params.node) ++ [y] := by
      simp only [log, made, observations, split, List.flatMap_append, List.flatMap_cons,
        single, List.flatMap_nil, List.append_nil]
    have answered := Observation.interactions_answered params.node quiet
    refine ⟨fun all => ?_, fun before x after e' cut found => ?_⟩
    · have up := all y (by simp [ends])
      simp [up] at cause
    · obtain ⟨nothing, same, equal⟩ :=
        append_eq_concat_of_last (p := fun x => x.outage? ≠ none) (ends ▸ cut)
          (fun x member => by simp [answered x member]) (by simp [found])
      subst equal same nothing
      have error : e.cause = e' := Option.some.inj (cause.symm.trans found)
      refine ⟨rfl, answered, ?_, e.operation, ?_⟩
      · obtain ⟨rest, whole⟩ := first
        rw [show calls = _ from scheduled, ← Schedule.flatMap_tasks, ← whole,
          List.flatMap_append]
        exact List.prefix_append _ _
      · have found : (observations c params topology s).findSome? Observation.outage? = some e :=
          (congrArg _ split).trans (Observation.findSome?_outage quiet down)
        simp only [result, verify_eq, found, ← error]

end Lifecycle

end Lightpath
