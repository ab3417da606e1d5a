import Lightpath.Proofs.Lifecycle.Settled
import Lightpath.Proofs.Simulation.Rendered

/-!
A run leaves an element as it found it. Every task touches the tables at most under the names that
are rendered for its request, every deletion takes those names away, and every creation is followed
by its deletion, so nothing is left of the names that a run handles.
-/

namespace Lightpath

-----------------------------------------------------------------------------------------
-- States that differ under some names
-----------------------------------------------------------------------------------------

namespace ElementState

/-- A later state of an element that differs from an earlier one at most under some names, in the
requests it has taken, and in sessions that were closed again. -/
structure Confined (names : List String) (earlier later : ElementState)
    : Prop where
  interfaces
    : Keyed.without names later.interfaces = Keyed.without names earlier.interfaces
  connections
    : Keyed.without names later.connections = Keyed.without names earlier.connections
  faults : later.faults = earlier.faults
  openSessions : later.openSessions = earlier.openSessions

/-- A name under which neither table holds anything. -/
structure Lacks (s : ElementState) (name : String)
    : Prop where
  interface : name ∉ s.interfaceNames
  connection : name ∉ s.connectionNames

namespace Confined

variable {names more : List String} {s t u : ElementState}

theorem refl (names : List String) (s : ElementState)
    : Confined names s s :=
  ⟨rfl, rfl, rfl, rfl⟩

theorem trans (first : Confined names s t) (second : Confined names t u)
    : Confined names s u where
  interfaces := second.interfaces.trans first.interfaces
  connections := second.connections.trans first.connections
  faults := second.faults.trans first.faults
  openSessions := second.openSessions.trans first.openSessions

theorem mono (confined : Confined names s t) (subset : names ⊆ more)
    : Confined more s t where
  interfaces := by
    rw [← Keyed.without_of_subset subset, confined.interfaces, Keyed.without_of_subset subset]
  connections := by
    rw [← Keyed.without_of_subset subset, confined.connections, Keyed.without_of_subset subset]
  faults := confined.faults
  openSessions := confined.openSessions

/-- A name outside of those that states differ under stays absent. -/
theorem lacks (confined : Confined names s t) {name : String} (outside : name ∉ names)
    (lacks : s.Lacks name)
    : t.Lacks name := by
  constructor
  · intro member
    have kept := Keyed.mem_keys_without.mpr ⟨member, outside⟩
    rw [confined.interfaces] at kept
    exact lacks.interface (Keyed.mem_keys_without.mp kept).1
  · intro member
    have kept := Keyed.mem_keys_without.mpr ⟨member, outside⟩
    rw [confined.connections] at kept
    exact lacks.connection (Keyed.mem_keys_without.mp kept).1

end Confined

end ElementState

namespace Element

open ElementState

-----------------------------------------------------------------------------------------
-- What one task touches
-----------------------------------------------------------------------------------------

theorem confined_createResource (description : String) (s : ElementState)
    {r : RenderedResource} {names : List String} (member : r.name ∈ names)
    : Confined names s (createResource description s r) := by
  rw [createResource]
  split
  · exact .refl names s
  · split
    · exact ⟨rfl, Keyed.without_insert member _ _, rfl, rfl⟩
    · exact ⟨Keyed.without_insert member _ _, rfl, rfl, rfl⟩

theorem confined_createResources (description : String) {resources : List RenderedResource}
    {names : List String} (subset : resources.map RenderedResource.name ⊆ names)
    (s : ElementState)
    : Confined names s (resources.foldl (createResource description) s) := by
  induction resources generalizing s with
  | nil => exact .refl names s
  | cons r rest ih =>
      obtain ⟨here, later⟩ := List.cons_subset.mp subset
      exact (confined_createResource description s here).trans (ih later _)

/-- Deleting resources leaves out their names from both tables. -/
theorem deleteResources_eq (resources : List RenderedResource) (s : ElementState)
    : resources.foldl deleteResource s
      = { s with
          interfaces := Keyed.without (resources.map RenderedResource.name) s.interfaces
          connections := Keyed.without (resources.map RenderedResource.name) s.connections } := by
  induction resources generalizing s with
  | nil =>
      have whole (pairs : List (String × Json)) : Keyed.without [] pairs = pairs :=
        Keyed.without_eq_self (by simp)
      simp only [List.foldl_nil, List.map_nil, whole]
  | cons r rest ih =>
      rw [List.foldl_cons, ih, List.map_cons, Keyed.without_cons, Keyed.without_cons]
      rfl

theorem confined_deleteResources (resources : List RenderedResource) (s : ElementState)
    : Confined (resources.map RenderedResource.name) s
        (resources.foldl deleteResource s) := by
  rw [deleteResources_eq]
  exact ⟨Keyed.without_of_subset (List.Subset.refl _) _,
    Keyed.without_of_subset (List.Subset.refl _) _, rfl, rfl⟩

theorem lacks_deleteResources {resources : List RenderedResource} (s : ElementState)
    {name : String} (member : name ∈ resources.map RenderedResource.name)
    : (resources.foldl deleteResource s).Lacks name := by
  rw [deleteResources_eq]
  constructor <;> exact fun kept => (Keyed.mem_keys_without.mp kept).2 member

theorem Moves.confined {e : Element} {rpc : String} {request : Json} {s t : ElementState}
    (moves : e.Moves rpc request s t)
    : Confined (e.renderedNames rpc request) s t := by
  have noted (operation : Operation) (names : List String)
      : Confined names s (logged s rpc operation) :=
    ⟨rfl, rfl, rfl, rfl⟩
  cases moves with
  | rests => exact .refl _ s
  | notes operation => exact noted operation _
  | creates _ renders =>
      rw [renderedNames, renders]
      exact (noted .create _).trans (confined_createResources _ (List.Subset.refl _) _)
  | deletes _ renders =>
      rw [renderedNames, renders]
      exact (noted .delete _).trans (confined_deleteResources _ _)

/-- A task touches the tables under the names that are rendered for its request. -/
theorem Effect.confined {e : Element} {task : Task} {s t : ElementState}
    (effect : e.Effect s task t)
    : Confined (e.taskNames task) s t := by
  cases effect with
  | rests => exact .refl _ s
  | visits => exact ⟨rfl, rfl, rfl, Nat.add_sub_add_right s.opened 1 s.closed⟩
  | creates moves | deletes moves => exact moves.confined

variable (e : Element)

/-- A deletion that reaches the element takes away what is rendered for it, unless a fault lets
it survive.
-/
theorem lacks_observe_delete {node : String} {plan : Plan} {s : ElementState}
    (removes : s.faults.surviveDelete = false)
    (answered : ((Task.delete plan).observe e.collaborators node s).1.outage? = none)
    {name : String} (member : name ∈ e.taskNames (.delete plan))
    : ((Task.delete plan).observe e.collaborators node s).2.Lacks name := by
  have online : s.faults.controlOffline = false := by
    by_contra offline
    rw [Bool.not_eq_false] at offline
    simp only [Task.observe, map_run] at answered
    simp only [collaborators, e.invoke_offline offline] at answered
    cases answered
  have state
      : ((Task.delete plan).observe e.collaborators node s).2
        = (e.answer plan.rpc (plan.request .delete) s).2 := by
    simp only [Task.observe, map_run]
    simp only [collaborators, invoke_online e online]
  rw [taskNames, renderedNames, plan.unwrap_request] at member
  rw [state, answer, plan.unwrap_request, plan.operation?_body]
  cases rendered : e.renderer.render plan.rpc (plan.body .delete) with
  | error fault => simp [rendered] at member
  | ok rendering =>
      simp only [rendered] at member
      simp only [delete, removes, Bool.false_eq_true, if_false]
      exact lacks_deleteResources _ member

-----------------------------------------------------------------------------------------
-- What a run leaves
-----------------------------------------------------------------------------------------

/-- Settled tasks touch the tables only under the names they handle, and leave nothing there. -/
theorem observeAll_restores {node : String} {tasks : List Task} (settled : Task.Settled tasks)
    {s : ElementState} (removes : s.faults.surviveDelete = false)
    (answered : ∀ o ∈ (Task.observeAll e.collaborators node tasks s).1, o.outage? = none)
    : Confined (tasks.flatMap e.taskNames) s (Task.observeAll e.collaborators node tasks s).2
      ∧ ∀ name ∈ tasks.flatMap e.taskNames,
          (Task.observeAll e.collaborators node tasks s).2.Lacks name := by
  induction tasks generalizing s with
  | nil => exact ⟨.refl _ s, by simp⟩
  | cons task rest ih =>
      have first : (task.observe e.collaborators node s).1.outage? = none := by
        refine answered _ ?_
        rw [Task.observeAll]
        split <;> exact List.mem_cons_self
      rw [Task.observeAll_cons rest first] at answered ⊢
      obtain ⟨-, later⟩ := List.forall_mem_cons.mp answered
      have here := (e.effect_observe node task s).confined
      obtain ⟨confined, lacks⟩ := ih settled.tail (here.faults ▸ removes) later
      rw [List.flatMap_cons]
      refine ⟨(here.mono (List.subset_append_left _ _)).trans
        (confined.mono (List.subset_append_right _ _)), ?_⟩
      intro name member
      -- What counts of a name is the last task that handles it. That is no creation, since the
      -- deletion that follows handles the same names.
      by_cases again : name ∈ rest.flatMap e.taskNames
      · exact lacks name again
      · have handled : name ∈ e.taskNames task := (List.mem_append.mp member).resolve_right again
        refine confined.lacks again ?_
        cases task with
        | create plan =>
            refine absurd (List.mem_flatMap.mpr ⟨.delete plan, ?_, ?_⟩) again
            · exact settled.1 List.mem_cons_self
            · rw [taskNames, e.renderedNames_request plan .delete .create]
              exact handled
        | delete plan => exact e.lacks_observe_delete removes first handled
        | inspect _ | sample _ | survey _ | confirm _ | note _ => simp [taskNames] at handled

-----------------------------------------------------------------------------------------
-- Runs from like states
-----------------------------------------------------------------------------------------

/-- States with the same tables and faults, whatever was logged and whichever sessions are open. -/
structure Alike (s t : ElementState)
    : Prop where
  interfaces : t.interfaces = s.interfaces
  connections : t.connections = s.connections
  faults : t.faults = s.faults

namespace Alike

variable {s t : ElementState}

theorem createResources (description : String) (resources : List RenderedResource)
    (alike : Alike s t)
    : Alike (resources.foldl (createResource description) s)
        (resources.foldl (createResource description) t) := by
  induction resources generalizing s t with
  | nil => exact alike
  | cons r rest ih =>
      refine ih ?_
      simp only [createResource, alike.interfaces, alike.connections, alike.faults]
      split
      · exact alike
      · split
        · exact ⟨rfl, rfl, rfl⟩
        · exact ⟨rfl, rfl, rfl⟩

theorem deleteResources (resources : List RenderedResource) (alike : Alike s t)
    : Alike (resources.foldl deleteResource s) (resources.foldl deleteResource t) := by
  rw [deleteResources_eq, deleteResources_eq, alike.interfaces, alike.connections]
  exact ⟨rfl, rfl, alike.faults⟩

/-- Like states give one answer to a request and stay alike. -/
theorem answer (e : Element) (alike : Alike s t) (rpc : String) (request : Json)
    : (e.answer rpc request t).1 = (e.answer rpc request s).1
      ∧ Alike (e.answer rpc request s).2 (e.answer rpc request t).2 := by
  simp only [Element.answer]
  split
  · exact ⟨rfl, alike⟩
  · rename_i operation _
    split
    · exact ⟨rfl, alike⟩
    · exact ⟨rfl, alike⟩
    · rename_i rendering _
      have logged
          : Alike { s with requests := s.requests ++ [(rpc, operation)] }
              { t with requests := t.requests ++ [(rpc, operation)] } :=
        ⟨alike.interfaces, alike.connections, alike.faults⟩
      cases operation with
      | create =>
          have rejects : t.faults.rejectCreate = s.faults.rejectCreate := by rw [alike.faults]
          simp only [create, rejects]
          split
          · exact ⟨rfl, logged⟩
          · exact ⟨rfl, createResources _ _ logged⟩
      | delete =>
          have survives : t.faults.surviveDelete = s.faults.surviveDelete := by
            rw [alike.faults]
          simp only [delete, survives]
          split
          · exact ⟨trivial, logged⟩
          · exact ⟨trivial, deleteResources _ logged⟩

theorem invoke (e : Element) (alike : Alike s t) (rpc : String) (request : Json)
    : (e.invoke rpc request t).1 = (e.invoke rpc request s).1
      ∧ Alike (e.invoke rpc request s).2 (e.invoke rpc request t).2 := by
  simp only [Element.invoke, alike.faults]
  split
  · exact ⟨rfl, alike⟩
  · obtain ⟨same, left⟩ := alike.answer e rpc request
    exact ⟨congrArg Except.ok same, left⟩

theorem find (e : Element) (alike : Alike s t) (node : String) (resource : PlannedResource)
    : (e.collaborators.find node resource t).1 = (e.collaborators.find node resource s).1 := by
  cases connection : resource.isConnection <;>
    simp only [Collaborators.find, connection, Bool.false_eq_true, if_false, if_true,
      collaborators, lookup, alike.interfaces, alike.connections, alike.faults]

theorem document (e : Element) (alike : Alike s t) (request : ReadRequest)
    : e.document t request = e.document s request := by
  cases request with
  | deviceConfig => rfl
  | currentPm resource =>
      have monitored : monitors t resource = monitors s resource := by
        cases resource with
        | interface name => rw [monitors, monitors, alike.interfaces]
        | port circuitPack name => rfl
      have drops : t.faults.dropPm = s.faults.dropPm := by rw [alike.faults]
      rw [Element.document, Element.document, monitored, drops]
  | activeAlarms =>
      simp only [Element.document, alarmDocument, interfaceNames, alike.interfaces, alike.faults]

/-- Accesses from like states give the same document and leave like states. -/
theorem access (e : Element) (alike : Alike s t) (node : String) (request : ReadRequest)
    : (Telemetry.access e.collaborators.toSessionSource node request t).1.document?
        = (Telemetry.access e.collaborators.toSessionSource node request s).1.document?
      ∧ Alike (Telemetry.access e.collaborators.toSessionSource node request s).2
          (Telemetry.access e.collaborators.toSessionSource node request t).2 := by
  rw [access_eq, access_eq, alike.faults, alike.document e request]
  split
  · exact ⟨rfl, alike⟩
  · split
    · exact ⟨rfl, alike⟩
    · exact ⟨rfl, alike.interfaces, alike.connections, alike.faults⟩

/-- A task gives the same findings and the same outage from like states, and leaves like states. -/
theorem observe (e : Element) (alike : Alike s t) (node : String) (task : Task)
    : (task.observe e.collaborators node t).1.findings
          = (task.observe e.collaborators node s).1.findings
        ∧ (task.observe e.collaborators node t).1.outage?
          = (task.observe e.collaborators node s).1.outage?
        ∧ Alike (task.observe e.collaborators node s).2
            (task.observe e.collaborators node t).2 := by
  cases task with
  | create plan =>
      obtain ⟨same, left⟩ := alike.invoke e plan.rpc (plan.request .create)
      exact ⟨congrArg (fun a => (Observation.created (κ := Nat) plan a).findings) same,
        congrArg (fun a => (Observation.created (κ := Nat) plan a).outage?) same, left⟩
  | delete plan =>
      obtain ⟨same, left⟩ := alike.invoke e plan.rpc (plan.request .delete)
      exact ⟨congrArg (fun a => (Observation.deleted (κ := Nat) plan a).findings) same,
        congrArg (fun a => (Observation.deleted (κ := Nat) plan a).outage?) same, left⟩
  | inspect resource | confirm resource =>
      have same := alike.find e node resource
      simp only [Task.observe, map_run, same, e.state_find node resource]
      exact ⟨trivial, trivial, alike⟩
  | sample plan =>
      obtain ⟨same, left⟩ := alike.access e node (.currentPm (.interface plan.primary))
      refine ⟨?_, rfl, left⟩
      simp only [Task.observe, map_run, Observation.findings, Observation.sample?, same]
  | survey plan =>
      obtain ⟨same, left⟩ := alike.access e node .activeAlarms
      refine ⟨?_, rfl, left⟩
      simp only [Task.observe, map_run, Observation.findings, Observation.raised, same]
  | note finding => exact ⟨rfl, rfl, alike⟩

theorem observeAll (e : Element) (alike : Alike s t) (node : String) (tasks : List Task)
    : (Task.observeAll e.collaborators node tasks t).1.flatMap Observation.findings
          = (Task.observeAll e.collaborators node tasks s).1.flatMap Observation.findings
        ∧ (Task.observeAll e.collaborators node tasks t).1.findSome? Observation.outage?
          = (Task.observeAll e.collaborators node tasks s).1.findSome? Observation.outage? := by
  induction tasks generalizing s t with
  | nil => exact ⟨rfl, rfl⟩
  | cons task rest ih =>
      obtain ⟨findings, outage, left⟩ := alike.observe e node task
      cases down : (task.observe e.collaborators node s).1.outage? with
      | some fault =>
          rw [Task.observeAll_cons_outage rest (outage.trans down),
            Task.observeAll_cons_outage rest down]
          simp [findings, outage]
      | none =>
          obtain ⟨later, laterOutage⟩ := ih left
          rw [Task.observeAll_cons rest (outage.trans down), Task.observeAll_cons rest down]
          simp only [List.flatMap_cons, List.findSome?_cons, findings, outage, later,
            laterOutage, and_self]

/-- Runs from like states have one result. -/
theorem verify (e : Element) (alike : Alike s t) (params : RunParameters) (topology : Topology)
    : (Lifecycle.verify e.collaborators params topology t).1
      = (Lifecycle.verify e.collaborators params topology s).1 := by
  obtain ⟨findings, outage⟩ :=
    alike.observeAll e params.node (Agenda.tasks params topology)
  simp only [Lifecycle.verify_eq, Lifecycle.observations, findings, outage]

end Alike

-----------------------------------------------------------------------------------------
-- Runs
-----------------------------------------------------------------------------------------

/-- A run that gives a verdict leaves the tables without the names that it handled and otherwise as
they were, unless deleted resources survive; it changes no fault and leaves no session open. From
empty tables it ends with empty tables, and run again it gives the same verdict.
-/
theorem verify_restores_tables {e : Element} {params : RunParameters} {topology : Topology}
    {s s' : ElementState} {v : Verdict} (removes : s.faults.surviveDelete = false)
    (run : Lifecycle.verify e.collaborators params topology s = (.ok v, s'))
    : let handled :=
        e.handledNames (Lifecycle.transcript e.collaborators params topology s)
      s'.interfaces = s.interfaces.filter (fun i => i.1 ∉ handled)
      ∧ s'.connections = s.connections.filter (fun c => c.1 ∉ handled)
      ∧ s'.faults = s.faults
      ∧ s'.openSessions = s.openSessions
      ∧ (s.interfaces = [] → s.connections = [] →
          s'.interfaces = []
          ∧ s'.connections = []
          ∧ (Lifecycle.verify e.collaborators params topology s').1 = .ok v) := by
  intro handled
  have verdict : (Lifecycle.verify e.collaborators params topology s).1 = .ok v := by rw [run]
  obtain ⟨tasks, answered, -⟩ := Lifecycle.observations_of_verdict verdict
  have names : handled = (Agenda.tasks params topology).flatMap e.taskNames := by
    rw [← tasks, ← e.handledNames_observations params.node, ← Lifecycle.transcript_eq]
  have left
      : s' = (Task.observeAll e.collaborators params.node (Agenda.tasks params topology) s).2 := by
    rw [Lifecycle.verify_eq] at run
    exact (congrArg Prod.snd run).symm
  obtain ⟨confined, lacks⟩ :=
    e.observeAll_restores (Agenda.settled_tasks params topology) removes answered
  rw [← left, ← names] at confined lacks
  have interfaces : s'.interfaces = Keyed.without handled s.interfaces := by
    rw [← confined.interfaces]
    exact (Keyed.without_eq_self fun name member => (lacks name member).interface).symm
  have connections : s'.connections = Keyed.without handled s.connections := by
    rw [← confined.connections]
    exact (Keyed.without_eq_self fun name member => (lacks name member).connection).symm
  refine ⟨interfaces, connections, confined.faults, confined.openSessions, ?_⟩
  intro noInterface noConnection
  rw [noInterface] at interfaces
  rw [noConnection] at connections
  -- The second run starts from the tables of the first one, but not from its requests and sessions.
  have again : Alike s s' :=
    ⟨interfaces.trans noInterface.symm, connections.trans noConnection.symm, confined.faults⟩
  exact ⟨interfaces, connections, (again.verify e params topology).trans verdict⟩

/-- An element with one transponder port and its client. -/
def oneTransponder
    : Element :=
  { table := {
      node := "XPDR-A"
      ports := [
        { name := "XPDR1-NETWORK1", xponderText := some "tpdr" },
        { name := "XPDR1-CLIENT1", connectionMap := some "XPDR1-NETWORK1" }] }
    device := .null }

/-- An element that leaves out a data unit and drops its samples has nothing left after a run, which
gives the same verdict a second time.
-/
theorem verify_restores_tables_leaving_out
    : let s : ElementState :=
        { faults := { skipResource := some "XPDR1-NETWORK1-ODU4", dropPm := true } }
      ∃ v s',
        Lifecycle.verify oneTransponder.collaborators { node := "XPDR-A" }
            Lifecycle.oneTransponder s
          = (.ok v, s')
        ∧ "XPDR1-NETWORK1-OTU"
          ∈ oneTransponder.handledNames
              (Lifecycle.transcript oneTransponder.collaborators { node := "XPDR-A" }
                Lifecycle.oneTransponder s)
        ∧ s'.interfaces = []
        ∧ s'.connections = []
        ∧ (Lifecycle.verify oneTransponder.collaborators { node := "XPDR-A" }
            Lifecycle.oneTransponder s').1
          = .ok v := by
  intro s
  obtain ⟨v, s', run⟩
      : ∃ v s',
          Lifecycle.verify oneTransponder.collaborators { node := "XPDR-A" }
              Lifecycle.oneTransponder s
            = (.ok v, s') :=
    ⟨_, _, verify_online _ rfl rfl _⟩
  obtain ⟨-, -, -, -, emptied⟩ := verify_restores_tables rfl run
  exact ⟨v, s', run, by decide +kernel, emptied rfl rfl⟩

end Element

end Lightpath
