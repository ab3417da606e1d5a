import Lightpath.Proofs.Keyed
import Lightpath.Proofs.Lifecycle.ObservedRun
import Lightpath.Simulation.Element

/-!
An element that can be reached, with any other faults: it answers every control call and keeps its
faults whatever is asked of it, so the findings of a run are those of its tasks one after the
other. What a task can do to the state is said once, as an effect; what every task keeps is read off
that.
-/

namespace Lightpath

namespace ElementState

/-- The configuration kept under a name, among the cross-connections or the interfaces. -/
def kept (s : ElementState) (isConnection : Bool) (name : String)
    : Option Json :=
  (if isConnection then s.connections else s.interfaces).lookup name

/-- The answer to a look-up when the element can be reached. -/
def sought (s : ElementState) (isConnection : Bool) (name : String)
    : Lookup :=
  match s.kept isConnection name with
  | some config => .present config
  | none => .absent 404

/-- The state after one session was opened and closed. -/
def visited (s : ElementState)
    : ElementState :=
  { s with
    opened := s.opened + 1
    closed := s.closed + 1
    sessions := (s.sessions ++ [true]).set s.sessions.length false }

end ElementState

namespace Element

-----------------------------------------------------------------------------------------
-- The tables
-----------------------------------------------------------------------------------------

/-- The configuration under which an element with some faults keeps a resource. -/
def heldUnder (faults : Faults) (description : String) (r : RenderedResource)
    : Json :=
  if r.isConnection then r.config else stored faults description r

/-- The configuration under which an element without faults keeps a resource. -/
def held (description : String) (r : RenderedResource)
    : Json :=
  if r.isConnection then r.config else stored {} description r

/-- A resource that is created is kept unless it is left out, and nothing else changes. -/
theorem kept_createResource (description : String) (s : ElementState) (r : RenderedResource)
    (isConnection : Bool) (name : String)
    : (createResource description s r).kept isConnection name
      = if (isConnection = r.isConnection ∧ name = r.name) ∧ s.faults.skipResource ≠ some r.name
          then some (heldUnder s.faults description r)
        else s.kept isConnection name := by
  rw [createResource]
  by_cases skipped : s.faults.skipResource = some r.name
  · rw [if_pos skipped, if_neg fun both => both.2 skipped]
  · rw [if_neg skipped]
    cases connection : r.isConnection <;> cases isConnection <;>
      by_cases same : name = r.name <;>
        simp [ElementState.kept, heldUnder, connection, same, skipped, Keyed.lookup_insert]

theorem faults_createResource (description : String) (s : ElementState) (r : RenderedResource)
    : (createResource description s r).faults = s.faults := by
  rw [createResource]
  split
  · rfl
  · split <;> rfl

theorem faults_createResources (description : String) (resources : List RenderedResource)
    (s : ElementState)
    : (resources.foldl (createResource description) s).faults = s.faults := by
  induction resources generalizing s with
  | nil => rfl
  | cons r rest ih => rw [List.foldl_cons, ih, faults_createResource]

/-- Resources with names of their own are kept after their creation unless they are left out. -/
theorem kept_createResources (description : String) {resources : List RenderedResource}
    {s : ElementState}
    (distinct
      : resources.Pairwise fun a b => a.isConnection = b.isConnection → a.name ≠ b.name)
    : ∀ r ∈ resources, s.faults.skipResource ≠ some r.name →
        (resources.foldl (createResource description) s).kept r.isConnection r.name
        = some (heldUnder s.faults description r) := by
  induction resources using List.reverseRecOn with
  | nil => simp
  | append_singleton resources last ih =>
      obtain ⟨earlier, -, apart⟩ := List.pairwise_append.mp distinct
      have stays := faults_createResources description resources s
      intro r member made
      rw [List.foldl_append, List.foldl_cons, List.foldl_nil, kept_createResource, stays]
      rcases List.mem_append.mp member with before | atLast
      · have other : ¬ (r.isConnection = last.isConnection ∧ r.name = last.name) :=
          fun same => apart r before last (by simp) same.1 same.2
        rw [if_neg fun both => other both.1]
        exact ih earlier r before made
      · obtain rfl := List.mem_singleton.mp atLast
        exact if_pos ⟨⟨rfl, rfl⟩, made⟩

theorem kept_deleteResources (resources : List RenderedResource) (s : ElementState)
    (isConnection : Bool) (name : String)
    : (resources.foldl deleteResource s).kept isConnection name
      = if name ∈ resources.map RenderedResource.name then none
        else s.kept isConnection name := by
  induction resources generalizing s with
  | nil => simp
  | cons r rest ih =>
      rw [List.foldl_cons, ih]
      cases isConnection <;> by_cases same : name = r.name <;>
        simp [deleteResource, ElementState.kept, Keyed.lookup_erase, same]

theorem faults_deleteResources (resources : List RenderedResource) (s : ElementState)
    : (resources.foldl deleteResource s).faults = s.faults := by
  induction resources generalizing s with
  | nil => rfl
  | cons r rest ih => rw [List.foldl_cons, ih, deleteResource]

variable (e : Element)

-----------------------------------------------------------------------------------------
-- Calls
-----------------------------------------------------------------------------------------

/-- An element opens a session on its own node, answers the read and closes the session again,
unless it refuses sessions.
-/
theorem access_eq (node : String) (request : ReadRequest) (s : ElementState)
    : Telemetry.access e.collaborators.toSessionSource node request s
      = if s.faults.sessionsOffline = true then
          (.refused (.unavailable node "NETCONF session refused"), s)
        else if node ≠ e.node then (.refused (.status node 404), s)
        else (.made s.sessions.length (e.document s request) (.ok ()), s.visited) := by
  let opened := { s with opened := s.opened + 1, sessions := s.sessions ++ [true] }
  have reading
      : e.read s.sessions.length request opened = (e.document s request, opened) := by
    cases request <;> simp [opened, read, isOpen, document, monitors, alarmDocument,
      ElementState.interfaceNames]
  have closing : close s.sessions.length opened = (.ok (), s.visited) := by
    simp [opened, close, isOpen, ElementState.visited]
  by_cases refused : s.faults.sessionsOffline = true
  · simp only [Telemetry.access, collaborators, bind, StateT.bind, openSession, refused, if_true]
    rfl
  · by_cases other : node ≠ e.node
    · simp only [Telemetry.access, collaborators, bind, StateT.bind, openSession, if_neg refused,
        if_pos other]
      rfl
    · simp only [Telemetry.access, collaborators, bind, StateT.bind, openSession, if_neg refused,
        if_neg other]
      rw [reading]
      dsimp only
      rw [closing]
      rfl

/-- A look-up changes nothing. -/
theorem state_find (node : String) (resource : PlannedResource) (s : ElementState)
    : (e.collaborators.find node resource s).2 = s := by
  rw [Collaborators.find]
  split <;> rfl

/-- The state after a request was taken. -/
def logged (s : ElementState) (rpc : String) (operation : Operation)
    : ElementState :=
  { s with requests := s.requests ++ [(rpc, operation)] }

/-- Where a request can take an element: nowhere if it is not understood or not rendered, to a note
of it if a fault is in the way, else to the creation or the deletion of what is rendered.
-/
inductive Moves (e : Element) (rpc : String) (request : Json) (s : ElementState)
    : ElementState → Prop
  | rests
    : Moves e rpc request s s
  | notes (operation : Operation)
    : Moves e rpc request s (logged s rpc operation)
  | creates {rendering : Rendering} (accepts : s.faults.rejectCreate = false)
    (renders : e.renderer.render rpc (request.unwrap "input") = .ok rendering)
    : Moves e rpc request s
        (rendering.resources.foldl (createResource rendering.description)
          (logged s rpc .create))
  | deletes {rendering : Rendering} (removes : s.faults.surviveDelete = false)
    (renders : e.renderer.render rpc (request.unwrap "input") = .ok rendering)
    : Moves e rpc request s (rendering.resources.foldl deleteResource (logged s rpc .delete))

/-- Where a task can take an element: where its request does, or past a session. -/
inductive Effect (e : Element) (s : ElementState)
    : Task → ElementState → Prop
  | rests {task : Task}
    : Effect e s task s
  | visits {task : Task}
    : Effect e s task s.visited
  | creates {plan : Plan} {t : ElementState}
    (moves : e.Moves plan.rpc (plan.request .create) s t)
    : Effect e s (.create plan) t
  | deletes {plan : Plan} {t : ElementState}
    (moves : e.Moves plan.rpc (plan.request .delete) s t)
    : Effect e s (.delete plan) t

theorem moves_answer (rpc : String) (request : Json) (s : ElementState)
    : e.Moves rpc request s (e.answer rpc request s).2 := by
  simp only [answer]
  split
  · exact .rests
  · rename_i operation _
    split
    · exact .rests
    · exact .rests
    · rename_i rendering renders
      cases operation with
      | create =>
          simp only [create]
          split
          · exact .notes .create
          · rename_i accepts
            exact .creates (Bool.not_eq_true _ ▸ accepts) renders
      | delete =>
          simp only [delete]
          split
          · exact .notes .delete
          · rename_i removes
            exact .deletes (Bool.not_eq_true _ ▸ removes) renders

theorem effect_observe (node : String) (task : Task) (s : ElementState)
    : e.Effect s task (task.observe e.collaborators node s).2 := by
  have invoked (rpc : String) (request : Json)
      : e.Moves rpc request s (e.invoke rpc request s).2 := by
    rw [invoke]
    split
    · exact .rests
    · exact e.moves_answer rpc request s
  cases task with
  | create plan => exact .creates (invoked _ _)
  | delete plan => exact .deletes (invoked _ _)
  | inspect resource | confirm resource =>
      rw [Task.observe, map_run, e.state_find node resource s]
      exact .rests
  | sample plan | survey plan =>
      rw [Task.observe, map_run, access_eq]
      split
      · exact .rests
      · split
        · exact .rests
        · exact .visits
  | note finding => exact .rests

theorem Moves.faults {e : Element} {rpc : String} {request : Json} {s t : ElementState}
    (moves : e.Moves rpc request s t)
    : t.faults = s.faults := by
  cases moves with
  | rests | notes _ => rfl
  | creates _ _ => exact faults_createResources _ _ _
  | deletes _ _ => exact faults_deleteResources _ _

/-- No task sets a fault or takes one away. -/
theorem Effect.faults {e : Element} {task : Task} {s t : ElementState}
    (effect : e.Effect s task t)
    : t.faults = s.faults := by
  cases effect with
  | rests | visits => rfl
  | creates moves | deletes moves => exact moves.faults

theorem faults_answer (rpc : String) (request : Json) (s : ElementState)
    : (e.answer rpc request s).2.faults = s.faults :=
  (e.moves_answer rpc request s).faults

theorem faults_observe (node : String) (task : Task) (s : ElementState)
    : (task.observe e.collaborators node s).2.faults = s.faults :=
  (e.effect_observe node task s).faults

theorem invoke_offline {s : ElementState} (offline : s.faults.controlOffline = true)
    (rpc : String) (request : Json)
    : e.invoke rpc request s = (.error e.unreachable, s) := by
  simp [invoke, offline]

section Online

variable {s : ElementState} (online : s.faults.controlOffline = false)
include online

theorem invoke_online (rpc : String) (request : Json)
    : e.invoke rpc request s
      = (.ok (e.answer rpc request s).1, (e.answer rpc request s).2) := by
  simp [invoke, online]

theorem lookup_online (table : ElementState → List (String × Json)) (node name : String)
    : e.lookup table node name s
      = (.ok (if node ≠ e.node then .absent 409
          else match (table s).lookup name with
            | some config => .present config
            | none => .absent 404), s) := by
  simp only [lookup, online, Bool.false_eq_true, if_false]
  split
  · rfl
  · cases (table s).lookup name <;> rfl

/-- A look-up on the element's own node tells what is kept. -/
theorem find_online (resource : PlannedResource)
    : e.collaborators.find e.node resource s
      = (.ok (s.sought resource.isConnection resource.name), s) := by
  cases connection : resource.isConnection
  · simp only [Collaborators.find, connection, Bool.false_eq_true, if_false, collaborators,
      lookup_online e online, ne_eq, not_true_eq_false, ElementState.sought, ElementState.kept]
  · simp only [Collaborators.find, connection, if_true, if_false, collaborators,
      lookup_online e online, ne_eq, not_true_eq_false, ElementState.sought, ElementState.kept]

/-- Every task is answered without an outage. -/
theorem answered_online (node : String) (task : Task)
    : (task.observe e.collaborators node s).1.outage? = none := by
  cases task with
  | create plan | delete plan =>
      simp only [Task.observe, map_run]
      simp only [collaborators, invoke_online e online]
      rfl
  | inspect resource | confirm resource =>
      rw [Task.observe, map_run, Collaborators.find]
      cases connection : resource.isConnection <;>
        simp only [Bool.false_eq_true, if_false, if_true, collaborators,
          lookup_online e online] <;> rfl
  | sample plan | survey plan => rfl
  | note finding => rfl

theorem observe_create (plan : Plan)
    : (Task.create plan).observe e.collaborators e.node s
      = (.created plan (.ok (e.answer plan.rpc (plan.request .create) s).1),
        (e.answer plan.rpc (plan.request .create) s).2) := by
  simp only [Task.observe, map_run]
  simp only [collaborators, invoke_online e online]

theorem observe_delete (plan : Plan)
    : (Task.delete plan).observe e.collaborators e.node s
      = (.deleted plan (.ok (e.answer plan.rpc (plan.request .delete) s).1),
        (e.answer plan.rpc (plan.request .delete) s).2) := by
  simp only [Task.observe, map_run]
  simp only [collaborators, invoke_online e online]

end Online

-----------------------------------------------------------------------------------------
-- Runs
-----------------------------------------------------------------------------------------

/-- The findings of tasks that the element is put to from a state. -/
def findings (tasks : List Task) (s : ElementState)
    : List Finding :=
  (Task.observeAll e.collaborators e.node tasks s).1.flatMap Observation.findings

/-- The state in which tasks leave the element. -/
def after (tasks : List Task) (s : ElementState)
    : ElementState :=
  (Task.observeAll e.collaborators e.node tasks s).2

section Runs

variable {s : ElementState} (online : s.faults.controlOffline = false)
include online

theorem findings_cons (task : Task) (rest : List Task)
    : e.findings (task :: rest) s
      = (task.observe e.collaborators e.node s).1.findings
        ++ e.findings rest (task.observe e.collaborators e.node s).2 := by
  have answered := answered_online e online e.node task
  rw [findings, Task.observeAll_cons rest answered, List.flatMap_cons, findings]

theorem after_cons (task : Task) (rest : List Task)
    : e.after (task :: rest) s = e.after rest (task.observe e.collaborators e.node s).2 := by
  have answered := answered_online e online e.node task
  rw [after, Task.observeAll_cons rest answered, after]

theorem online_observe (task : Task)
    : (task.observe e.collaborators e.node s).2.faults.controlOffline = false := by
  rw [faults_observe, online]

theorem faults_after (tasks : List Task)
    : (e.after tasks s).faults = s.faults := by
  induction tasks generalizing s with
  | nil => rfl
  | cons task rest ih =>
      rw [after_cons e online, ih (online_observe e online task), faults_observe]

/-- The findings of tasks in two parts are those of the parts. -/
theorem findings_append (tasks others : List Task)
    : e.findings (tasks ++ others) s
      = e.findings tasks s ++ e.findings others (e.after tasks s) := by
  induction tasks generalizing s with
  | nil => rfl
  | cons task rest ih =>
      rw [List.cons_append, findings_cons e online, findings_cons e online, after_cons e online,
        ih (online_observe e online task), List.append_assoc]

/-- Tasks that leave the element as it is give their findings in that one state. -/
theorem findings_resting {tasks : List Task}
    (rests : ∀ t ∈ tasks, (t.observe e.collaborators e.node s).2 = s)
    : e.findings tasks s
        = tasks.flatMap (fun t => (t.observe e.collaborators e.node s).1.findings)
      ∧ e.after tasks s = s := by
  induction tasks with
  | nil => exact ⟨rfl, rfl⟩
  | cons task rest ih =>
      have here := rests task List.mem_cons_self
      have others := ih fun t member => rests t (List.mem_cons_of_mem _ member)
      rw [findings_cons e online, after_cons e online, here, others.1, others.2]
      exact ⟨rfl, rfl⟩

/-- No task meets an outage. -/
theorem no_outage (tasks : List Task)
    : (Task.observeAll e.collaborators e.node tasks s).1.findSome? Observation.outage? = none := by
  induction tasks generalizing s with
  | nil => rfl
  | cons task rest ih =>
      have answered := answered_online e online e.node task
      rw [Task.observeAll_cons rest answered, List.findSome?_cons, answered]
      exact ih (online_observe e online task)

/-- A run on an element that can be reached gives a verdict, with the findings of its tasks. -/
theorem verify_online {params : RunParameters} (named : params.node = e.node)
    (topology : Topology)
    : Lifecycle.verify e.collaborators params topology s
      = (.ok (.ofFindings (e.findings (Agenda.tasks params topology) s)),
        e.after (Agenda.tasks params topology) s) := by
  rw [Lifecycle.verify_eq, Lifecycle.observations, named, no_outage e online]
  rfl

end Runs

end Element

end Lightpath
