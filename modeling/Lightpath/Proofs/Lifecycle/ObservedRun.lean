import Lightpath.Proofs.Lifecycle.Observation

/-!
A run is what its observations say. What findings cost a verdict and the laws of the run monad come
first, then one law for each task, and from these, by induction on the tasks, the outcome and the
verdict of a whole run. The interactions that recording collaborators write down are those of the
observations.
-/

namespace Lightpath

-----------------------------------------------------------------------------------------
-- Verdicts with their findings
-----------------------------------------------------------------------------------------

namespace Verdict

/-- The verdict with more findings, recorded one after the other. -/
def recordAll (v : Verdict) (findings : List Finding)
    : Verdict :=
  findings.foldl record v

/-- The verdict of some findings. -/
def ofFindings (findings : List Finding)
    : Verdict :=
  recordAll {} findings

/-- A finding costs the flag of its check and no other. -/
theorem holds_record (v : Verdict) (f : Finding) (check : Check)
    : (v.record f).holds check = (v.holds check && decide (f.check ≠ check)) := by
  obtain ⟨lost, _, _, _⟩ := f
  cases lost <;> cases check <;> simp [record, lose, holds]

theorem recordAll_append (v : Verdict) (findings more : List Finding)
    : v.recordAll (findings ++ more) = (v.recordAll findings).recordAll more :=
  List.foldl_append

/-- Findings cost the flags of their checks, by induction on them. -/
theorem holds_recordAll (v : Verdict) (findings : List Finding) (check : Check)
    : (v.recordAll findings).holds check
      = (v.holds check && findings.all fun f => f.check ≠ check) := by
  induction findings generalizing v with
  | nil => simp [recordAll]
  | cons f rest ih =>
      change ((v.record f).recordAll rest).holds check = _
      rw [ih, holds_record, List.all_cons, Bool.and_assoc]

theorem findings_recordAll (v : Verdict) (findings : List Finding)
    : (v.recordAll findings).findings = v.findings ++ findings := by
  induction findings generalizing v with
  | nil => simp [recordAll]
  | cons f rest ih =>
      change ((v.record f).recordAll rest).findings = _
      simp [ih, record]

/-- A check holds exactly if no finding speaks against it. -/
theorem holds_ofFindings (findings : List Finding) (check : Check)
    : (ofFindings findings).holds check = true ↔ ∀ f ∈ findings, f.check ≠ check := by
  have start : ({} : Verdict).holds check = true := by cases check <;> rfl
  rw [ofFindings, holds_recordAll, start]
  simp

theorem lost_ofFindings (findings : List Finding) (check : Check)
    : (ofFindings findings).holds check = false ↔ ∃ f ∈ findings, f.check = check := by
  rw [← Bool.not_eq_true, holds_ofFindings]
  simp

@[simp]
theorem findings_ofFindings (findings : List Finding)
    : (ofFindings findings).findings = findings :=
  findings_recordAll {} findings

/-- All checks hold exactly if there is no finding. -/
theorem passed_ofFindings (findings : List Finding)
    : (ofFindings findings).passed = true ↔ findings = [] := by
  rw [passed, List.all_eq_true]
  constructor
  · intro all
    refine List.eq_nil_iff_forall_not_mem.mpr fun f member => ?_
    have holds := all f.check (by cases f.check <;> decide)
    exact (holds_ofFindings findings f.check).mp holds f member rfl
  · rintro rfl check -
    exact (holds_ofFindings [] check).mpr (by simp)

end Verdict

variable {σ κ α β : Type}

-----------------------------------------------------------------------------------------
-- Parts of a run
-----------------------------------------------------------------------------------------

/-- A function of the answer of an action leaves the state to the action. -/
theorem map_run (f : α → β) (act : StateM σ α) (s : σ)
    : (f <$> act) s = (f (act s).1, (act s).2) :=
  rfl

namespace Lifecycle

/-- A sequence of two parts ends where the first one ends in an error. -/
theorem run_bind (m : RunM σ α) (f : α → RunM σ β) (w : Verdict × σ)
    : (m >>= f) w
      = match m w with
        | (.ok a, w') => f a w'
        | (.error e, w') => (.error e, w') := by
  change ExceptT.bindCont f (m w).1 (m w).2 = _
  rcases m w with ⟨_ | _, _⟩ <;> rfl

theorem run_call (act : StateM σ α) (v : Verdict) (s : σ)
    : (call act : RunM σ α) (v, s) = (.ok (act s).1, (v, (act s).2)) :=
  rfl

/-- Findings recorded one by one are recorded all, by induction on them. -/
theorem run_notes (findings : List Finding) (v : Verdict) (s : σ)
    : (findings.forM note : RunM σ Unit) (v, s) = (.ok (), (v.recordAll findings, s)) := by
  induction findings generalizing v with
  | nil => rfl
  | cons finding rest ih =>
      rw [List.forM_eq_forM, List.forM_cons, run_bind]
      simp only [note]
      rw [← List.forM_eq_forM, ih]
      rfl

/-- An answer is taken as it is unless it is an outage, which ends the run. -/
theorem run_answered (operation : String) (answer : Except TransportError α) (w : Verdict × σ)
    : (answered operation answer : RunM σ (Option α)) w
      = match TransportError.outage? answer with
        | some e => (.error ⟨operation, e⟩, w)
        | none => (.ok answer.toOption, w) := by
  cases answer with
  | ok a => rfl
  | error e =>
      cases unavailable : e.isUnavailable <;>
        simp [answered, TransportError.outage?, unavailable] <;> rfl

/-- A request answered: its answer, or the end of the run. -/
theorem run_invoke (c : Collaborators σ κ) (plan : Plan) (operation : Operation) (v : Verdict)
    (s : σ)
    : invoke c plan operation (v, s)
      = let r := c.invoke plan.rpc (plan.request operation) s
        match TransportError.outage? r.1 with
        | some e => (.error ⟨plan.rpc, e⟩, (v, r.2))
        | none => (.ok r.1.toOption, (v, r.2)) := by
  rw [invoke, run_bind, run_call]
  exact run_answered _ _ _

/-- A resource looked up: the answer, or the end of the run. -/
theorem run_lookup (c : Collaborators σ κ) (node : String) (resource : PlannedResource)
    (v : Verdict) (s : σ)
    : lookup c node resource (v, s)
      = let r := c.find node resource s
        match TransportError.outage? r.1 with
        | some e => (.error ⟨"lookup of " ++ resource.name, e⟩, (v, r.2))
        | none => (.ok r.1.toOption, (v, r.2)) := by
  have found
      : (if resource.isConnection then c.connection else c.interface) node resource.name
        = c.find node resource := by
    cases connection : resource.isConnection <;> simp [Collaborators.find, connection]
  rw [lookup, run_bind, run_call]
  simp only [found]
  exact run_answered _ _ _

/-- Findings drawn from a reported answer are recorded unless the answer is an outage. -/
theorem run_reported {m : RunM σ (Option α)} {operation : String}
    {answer : Except TransportError α} {v : Verdict} {s s' : σ}
    (findings : Option α → List Finding)
    (reported
      : m (v, s)
        = match TransportError.outage? answer with
          | some e => (.error ⟨operation, e⟩, (v, s'))
          | none => (.ok answer.toOption, (v, s')))
    : (m >>= fun a => (findings a).forM note) (v, s)
      = match (TransportError.outage? answer).map (RunError.mk operation) with
        | some e => (.error e, (v, s'))
        | none => (.ok (), (v.recordAll (findings answer.toOption), s')) := by
  rw [run_bind, reported]
  cases TransportError.outage? answer with
  | some e => rfl
  | none => exact run_notes _ _ _

end Lifecycle

-----------------------------------------------------------------------------------------
-- Steps as tasks
-----------------------------------------------------------------------------------------

namespace Telemetry

theorem read_eq (source : SessionSource σ κ) (node : String) (request : ReadRequest)
    : read source node request = Access.document? <$> access source node request := by
  funext s
  simp only [read, access, bind, StateT.bind, Functor.map, StateT.map]
  rcases source.openSession node s with ⟨_ | _, _⟩ <;> rfl

theorem sample_eq (source : SessionSource σ κ) (node : String) (plan : Plan)
    : sample source node (.interface plan.primary)
      = Observation.sample? plan
          <$> access source node (.currentPm (.interface plan.primary)) := by
  rw [sample, read_eq]
  rfl

theorem hasAlarm_eq (source : SessionSource σ κ) (node : String) (plan : Plan)
    : hasAlarm source node (.interface plan.primary)
      = Observation.raised plan <$> access source node .activeAlarms := by
  rw [hasAlarm, alarms, read_eq]
  rfl

end Telemetry

/-- An access through recording collaborators makes the interactions of the access. -/
theorem Telemetry.access_recorded (c : Collaborators σ κ) (node : String)
    (request : ReadRequest) (s : σ) (log : List (Interaction κ))
    : access c.recorded.toSessionSource node request (s, log)
      = let r := access c.toSessionSource node request s
        (r.1, (r.2, log ++ r.1.interactions node request)) := by
  simp only [access, Collaborators.recorded, Collaborators.recording, bind, StateT.bind]
  rcases c.openSession node s with ⟨_ | _, _⟩
  · rfl
  · change (_, (_, ((log ++ [_]) ++ [_]) ++ [_])) = (_, (_, log ++ [_, _, _]))
    simp only [List.append_assoc, List.singleton_append]
    rfl

namespace Task

theorem observe_task (c : Collaborators σ κ) (node : String) (task : Task) (s : σ)
    : (task.observe c node s).1.task = task := by
  cases task <;> rfl

/-- A task as a part of a run. -/
def perform (c : Collaborators σ κ) (node : String)
    : Task → RunM σ Unit
  | .create plan => do
      (Lifecycle.creationFindings plan (← Lifecycle.invoke c plan .create)).forM Lifecycle.note
  | .inspect resource => do
      (Lifecycle.presenceFindings resource (← Lifecycle.lookup c node resource)).forM
        Lifecycle.note
  | .sample plan => do
      let sample ← Lifecycle.call
        (Telemetry.sample c.toSessionSource node (.interface plan.primary))
      (Lifecycle.sampleFindings plan sample).forM Lifecycle.note
  | .survey plan => do
      let raised ← Lifecycle.call
        (Telemetry.hasAlarm c.toSessionSource node (.interface plan.primary))
      (Lifecycle.alarmFindings plan raised).forM Lifecycle.note
  | .delete plan => do
      (Lifecycle.deletionFindings plan (← Lifecycle.invoke c plan .delete)).forM Lifecycle.note
  | .confirm resource => do
      (Lifecycle.absenceFindings resource (← Lifecycle.lookup c node resource)).forM
        Lifecycle.note
  | .note finding => Lifecycle.note finding

/-- A task carried out within a run gives the findings of its observation, or ends the run with
the observation's outage.
-/
theorem perform_run (c : Collaborators σ κ) (node : String) (task : Task) (v : Verdict) (s : σ)
    : task.perform c node (v, s)
      = let r := task.observe c node s
        match r.1.outage? with
        | some e => (.error e, (v, r.2))
        | none => (.ok (), (v.recordAll r.1.findings, r.2)) := by
  cases task with
  | create plan | delete plan => exact Lifecycle.run_reported _ (Lifecycle.run_invoke c plan _ v s)
  | inspect resource | confirm resource =>
      exact Lifecycle.run_reported _ (Lifecycle.run_lookup c node resource v s)
  | sample plan =>
      rw [perform, Lifecycle.run_bind, Lifecycle.run_call, Telemetry.sample_eq]
      exact Lifecycle.run_notes _ _ _
  | survey plan =>
      rw [perform, Lifecycle.run_bind, Lifecycle.run_call, Telemetry.hasAlarm_eq]
      exact Lifecycle.run_notes _ _ _
  | note finding => rfl

end Task

/-- A step is carried out by carrying out its tasks. -/
theorem Lifecycle.perform_eq_tasks (c : Collaborators σ κ) (node : String) (step : Step)
    : perform c node step = step.tasks.forM (Task.perform c node) := by
  cases step with
  | bringUp plan =>
      simp only [perform, bringUp, Step.tasks, Task.perform, List.forM_eq_forM,
        List.forM_cons, List.forM_append, List.forM_map, List.forM_nil, bind_assoc,
        bind_pure_unit]
  | tearDown plan =>
      simp only [perform, tearDown, Step.tasks, Task.perform, List.forM_eq_forM,
        List.forM_cons, List.forM_map, bind_assoc]
  | note finding =>
      simp only [perform, Step.tasks, Task.perform, List.forM_eq_forM, List.forM_cons,
        List.forM_nil, bind_pure_unit]

-----------------------------------------------------------------------------------------
-- Runs as observations
-----------------------------------------------------------------------------------------

namespace Task

/-- A first task that meets an outage is the last one. -/
theorem observeAll_cons_outage {c : Collaborators σ κ} {node : String} {task : Task}
    {s : σ} {e : RunError} (rest : List Task)
    (outage : (task.observe c node s).1.outage? = some e)
    : observeAll c node (task :: rest) s
      = ([(task.observe c node s).1], (task.observe c node s).2) := by
  simp [observeAll, outage]

/-- A first task without an outage is followed by the rest. -/
theorem observeAll_cons {c : Collaborators σ κ} {node : String} {task : Task}
    {s : σ} (rest : List Task) (answered : (task.observe c node s).1.outage? = none)
    : observeAll c node (task :: rest) s
      = ((task.observe c node s).1
            :: (observeAll c node rest (task.observe c node s).2).1,
          (observeAll c node rest (task.observe c node s).2).2) := by
  simp [observeAll, answered]

/-- Tasks carried out within a run give the findings of their observations, or end the run with the
only outage among them.
-/
theorem performAll_run (c : Collaborators σ κ) (node : String) (tasks : List Task)
    (v : Verdict) (s : σ)
    : tasks.forM (Task.perform c node) (v, s)
      = let r := observeAll c node tasks s
        match r.1.findSome? Observation.outage? with
        | some e => (.error e, (v.recordAll (r.1.dropLast.flatMap Observation.findings), r.2))
        | none => (.ok (), (v.recordAll (r.1.flatMap Observation.findings), r.2)) := by
  induction tasks generalizing v s with
  | nil => rfl
  | cons task rest ih =>
      rw [List.forM_eq_forM, List.forM_cons, Lifecycle.run_bind, perform_run]
      cases outage : (task.observe c node s).1.outage? with
      | some e =>
          rw [observeAll_cons_outage rest outage]
          simp [outage, Verdict.recordAll]
      | none =>
          rw [observeAll_cons rest outage]
          simp only [← List.forM_eq_forM, ih, List.findSome?_cons, outage]
          cases later : (observeAll c node rest (task.observe c node s).2).1 with
          | nil => simp [Verdict.recordAll]
          | cons o os =>
              cases List.findSome? Observation.outage? (o :: os) <;>
                simp [Verdict.recordAll_append]

/-- Either all tasks are observed and none meets an outage, or the observations answer the first
tasks and end at their only outage.
-/
theorem observeAll_shape (c : Collaborators σ κ) (node : String) (tasks : List Task) (s : σ)
    : let os := (observeAll c node tasks s).1
      ((∀ o ∈ os, o.outage? = none) ∧ os.map Observation.task = tasks)
      ∨ ∃ front last e,
          os = front ++ [last]
          ∧ (∀ o ∈ front, o.outage? = none)
          ∧ last.outage? = some e
          ∧ os.map Observation.task <+: tasks := by
  induction tasks generalizing s with
  | nil => exact Or.inl (by simp [observeAll])
  | cons task rest ih =>
      have answers : (task.observe c node s).1.task = task := observe_task c node task s
      cases outage : (task.observe c node s).1.outage? with
      | some e =>
          refine Or.inr ⟨[], (task.observe c node s).1, e, ?_⟩
          rw [observeAll_cons_outage rest outage]
          simp [outage, answers]
      | none =>
          rw [observeAll_cons rest outage]
          rcases ih (task.observe c node s).2 with
            ⟨quiet, same⟩ | ⟨front, last, e, split, quiet, down, first⟩
          · exact Or.inl ⟨by simpa [outage] using quiet, by simp [answers, same]⟩
          · refine Or.inr ⟨(task.observe c node s).1 :: front, last, e, ?_⟩
            refine ⟨by simp [split], by simpa [outage] using quiet, down, ?_⟩
            simpa [answers] using first

/-- Every observation was made by its task from some state. -/
theorem exists_state_of_observed {c : Collaborators σ κ} {node : String} {tasks : List Task}
    {s : σ} {o : Observation κ} (seen : o ∈ (observeAll c node tasks s).1)
    : ∃ t, o = (o.task.observe c node t).1 := by
  induction tasks generalizing s with
  | nil => simp [observeAll] at seen
  | cons task rest ih =>
      have own : (task.observe c node s).1
          = ((task.observe c node s).1.task.observe c node s).1 := by
        rw [observe_task]
      cases outage : (task.observe c node s).1.outage? with
      | some e =>
          rw [observeAll_cons_outage rest outage] at seen
          obtain rfl := List.mem_singleton.mp seen
          exact ⟨s, own⟩
      | none =>
          rw [observeAll_cons rest outage] at seen
          rcases List.mem_cons.mp seen with rfl | later
          · exact ⟨s, own⟩
          · exact ih later

theorem observe_recorded (c : Collaborators σ κ) (node : String) (task : Task) (s : σ)
    (log : List (Interaction κ))
    : task.observe c.recorded node (s, log)
      = let r := task.observe c node s
        (r.1, (r.2, log ++ r.1.interactions node)) := by
  cases task with
  | create plan | delete plan => rfl
  | inspect resource | confirm resource =>
      cases connection : resource.isConnection <;>
        simp only [observe, Collaborators.find, connection, map_run, Observation.interactions,
          Observation.lookupInteraction] <;> rfl
  | sample plan | survey plan =>
      simp only [observe, map_run, Telemetry.access_recorded]
      rfl
  | note finding =>
      change _ = (Observation.noted finding, (s, log ++ []))
      rw [List.append_nil]
      rfl

/-- Tasks observed through recording collaborators make the interactions of their observations. -/
theorem observeAll_recorded (c : Collaborators σ κ) (node : String) (tasks : List Task) (s : σ)
    (log : List (Interaction κ))
    : observeAll c.recorded node tasks (s, log)
      = let r := observeAll c node tasks s
        (r.1, (r.2, log ++ r.1.flatMap (Observation.interactions node))) := by
  induction tasks generalizing s log with
  | nil => simp [observeAll]
  | cons task rest ih =>
      have recorded := observe_recorded c node task s log
      cases outage : (task.observe c node s).1.outage? with
      | some e =>
          rw [observeAll_cons_outage rest outage, observeAll_cons_outage (e := e) rest]
          · simp [recorded]
          · simpa [recorded] using outage
      | none =>
          rw [observeAll_cons rest outage, observeAll_cons rest]
          · simp [recorded, ih]
          · simpa [recorded] using outage

end Task

/-- An outage after observations without one is the first outage. -/
theorem Observation.findSome?_outage {front : List (Observation κ)} {last : Observation κ}
    {e : RunError} (quiet : ∀ o ∈ front, o.outage? = none) (down : last.outage? = some e)
    : (front ++ [last]).findSome? outage? = some e := by
  rw [List.findSome?_append, List.findSome?_eq_none_iff.mpr quiet]
  simp [down]

namespace Lifecycle

/-- What a list of steps leads to is what its observations say. -/
theorem performAll_eq (c : Collaborators σ κ) (node : String) (steps : List Step) (s : σ)
    : performAll c node steps s
      = let r := Task.observeAll c node (steps.flatMap Step.tasks) s
        match r.1.findSome? Observation.outage? with
        | some e => (.error e, .ofFindings (r.1.dropLast.flatMap Observation.findings), r.2)
        | none => (.ok (), .ofFindings (r.1.flatMap Observation.findings), r.2) := by
  have tasks
      : (steps.forM (perform c node) : RunM σ Unit)
        = (steps.flatMap Step.tasks).forM (Task.perform c node) := by
    induction steps with
    | nil => rfl
    | cons step rest ih =>
        simp only [List.forM_eq_forM, List.forM_cons, List.flatMap_cons, List.forM_append,
          perform_eq_tasks] at ih ⊢
        rw [ih]
  have run := Task.performAll_run c node (steps.flatMap Step.tasks) {} s
  rw [← tasks] at run
  exact run

/-- A run gives the findings of its observations, or the outage among them. -/
theorem verify_eq (c : Collaborators σ κ) (params : RunParameters) (topology : Topology) (s : σ)
    : verify c params topology s
      = (match (observations c params topology s).findSome? Observation.outage? with
          | some e => .error e
          | none =>
              .ok (.ofFindings ((observations c params topology s).flatMap Observation.findings)),
        (Task.observeAll c params.node (Agenda.tasks params topology) s).2) := by
  simp only [verify, performAll_eq, observations, Agenda.tasks]
  cases List.findSome? Observation.outage? _ <;> rfl

/-- Recording leaves the answer of a run and the state of its collaborators as they are, and
writes down the interactions of the observations.
-/
theorem verify_recorded (c : Collaborators σ κ) (params : RunParameters) (topology : Topology)
    (s : σ) (log : List (Interaction κ))
    : verify c.recorded params topology (s, log)
      = let r := verify c params topology s
        let os := observations c params topology s
        (r.1, (r.2, log ++ os.flatMap (Observation.interactions params.node))) := by
  simp only [verify_eq, observations, Task.observeAll_recorded]

theorem transcript_eq (c : Collaborators σ κ) (params : RunParameters) (topology : Topology)
    (s : σ)
    : transcript c params topology s
      = (observations c params topology s).flatMap
          (Observation.interactions params.node) := by
  simp [transcript, verify_recorded]

/-- A run that gives a verdict has carried out all its tasks without an outage, and the verdict is
that of the findings of its observations.
-/
theorem observations_of_verdict {c : Collaborators σ κ} {params : RunParameters}
    {topology : Topology} {s : σ} {v : Verdict}
    (given : (verify c params topology s).1 = .ok v)
    : (observations c params topology s).map Observation.task = Agenda.tasks params topology
      ∧ (∀ o ∈ observations c params topology s, o.outage? = none)
      ∧ v = .ofFindings ((observations c params topology s).flatMap Observation.findings) := by
  rw [verify_eq] at given
  rcases Task.observeAll_shape c params.node (Agenda.tasks params topology) s with
    ⟨quiet, same⟩ | ⟨front, last, e, split, quiet, down, first⟩
  · have none : (observations c params topology s).findSome? Observation.outage? = none :=
      List.findSome?_eq_none_iff.mpr quiet
    rw [none] at given
    exact ⟨same, quiet, by cases given; rfl⟩
  · have found : (observations c params topology s).findSome? Observation.outage? = some e :=
      (congrArg _ split).trans (Observation.findSome?_outage quiet down)
    simp [found] at given

/-- All checks of the verdict of a run hold exactly if it has no finding. -/
theorem passed_iff_of_verdict {c : Collaborators σ κ} {params : RunParameters}
    {topology : Topology} {s : σ} {v : Verdict}
    (given : (verify c params topology s).1 = .ok v)
    : v.passed = true ↔ v.findings = [] := by
  obtain ⟨-, -, same⟩ := observations_of_verdict given
  rw [same, Verdict.passed_ofFindings, Verdict.findings_ofFindings]

end Lifecycle

end Lightpath
