import Lightpath.Proofs.Simulation.KeptOut
import Lightpath.Proofs.Simulation.Telemetry

/-!
Steps of plans that an element carries, under any faults that leave it reachable. A plan that is
brought up loses a check exactly if a fault concerns it, whatever other services have left in the
tables; tearing it down loses at most the check of deletions.
-/

namespace Lightpath

/-- A plan that an element renders as it expects, and by which faults can be told. -/
structure Element.Carries (e : Element) (plan : Plan)
    : Prop where
  telling : plan.Telling
  realized : ∃ rendering, e.Renders plan rendering ∧ rendering.Realizes plan

/-- A step for a plan that an element carries. -/
def Step.Carried (e : Element)
    : Step → Prop
  | .bringUp plan => e.Carries plan
  | .tearDown plan => e.Carries plan
  | .note _ => False

/-- Faults that leave a check alone while a plan is brought up. -/
def Faults.Spares (f : Faults) (plan : Plan)
    : Check → Prop
  | .create => ∀ p ∈ plan.resources, ¬ f.KeepsOut p.name
  | .config => ∀ p ∈ plan.resources, ¬ f.KeepsOut p.name ∧ ¬ f.Misstates p
  | .pm => f.sessionsOffline = false ∧ f.dropPm = false ∧ ¬ f.KeepsOut plan.primary
  | .alarm => f.sessionsOffline = false ∧ f.dropAlarms = false ∧ ¬ f.KeepsOut plan.primary
  | .delete => True

namespace Element

variable {e : Element}

-----------------------------------------------------------------------------------------
-- Tasks without a finding against a check
-----------------------------------------------------------------------------------------

/-- Tasks from a state that have no finding against a check. -/
def Clears (e : Element) (check : Check) (tasks : List Task) (s : ElementState)
    : Prop :=
  ∀ f ∈ e.findings tasks s, f.check ≠ check

section Clears

variable {s : ElementState} (online : s.faults.controlOffline = false) (check : Check)
include online

theorem clears_cons (task : Task) (rest : List Task)
    : e.Clears check (task :: rest) s
      ↔ (task.observe e.collaborators e.node s).1.Clears check
        ∧ e.Clears check rest (task.observe e.collaborators e.node s).2 := by
  rw [Clears, findings_cons e online, List.forall_mem_append]
  exact Iff.rfl

theorem clears_append (tasks others : List Task)
    : e.Clears check (tasks ++ others) s
      ↔ e.Clears check tasks s ∧ e.Clears check others (e.after tasks s) := by
  rw [Clears, findings_append e online, List.forall_mem_append]
  exact Iff.rfl

theorem clears_resting {tasks : List Task}
    (rests : ∀ t ∈ tasks, (t.observe e.collaborators e.node s).2 = s)
    : e.Clears check tasks s
      ↔ ∀ t ∈ tasks, (t.observe e.collaborators e.node s).1.Clears check := by
  rw [Clears, (findings_resting e online rests).1]
  simp only [List.mem_flatMap, Observation.Clears]
  constructor
  · intro all t member f within
    exact all f ⟨t, member, within⟩
  · rintro all f ⟨t, member, within⟩
    exact all t member f within

/-- A look-up after a creation tells whether the resource is kept, and as expected. -/
theorem inspect_clears (p : PlannedResource)
    : ((Task.inspect p).observe e.collaborators e.node s).1.Clears check
      ↔ (check = .config → ∃ config,
          s.kept p.isConnection p.name = some config ∧ Json.isSubset p.expected config = true)
        ∧ (check = .create → s.kept p.isConnection p.name ≠ none) := by
  rw [Task.observe, map_run, find_online e online, Observation.clears_inspected]
  cases found : s.kept p.isConnection p.name <;> simp [ElementState.sought, found]

/-- A look-up after a deletion tells whether the resource is gone. -/
theorem confirm_clears (p : PlannedResource)
    : ((Task.confirm p).observe e.collaborators e.node s).1.Clears check
      ↔ (check = .delete → s.kept p.isConnection p.name = none) := by
  rw [Task.observe, map_run, find_online e online, Observation.clears_confirmed]
  cases found : s.kept p.isConnection p.name <;> simp [ElementState.sought, found]

end Clears

/-- A sample is given of an interface that is kept, unless a fault is in its way. -/
theorem sample_clears (check : Check) (plan : Plan) (s : ElementState)
    : ((Task.sample plan).observe e.collaborators e.node s).1.Clears check
      ↔ (check = .pm →
          s.faults.sessionsOffline = false
          ∧ s.faults.dropPm = false
          ∧ s.kept false plan.primary ≠ none) := by
  have document
      : e.document s (.currentPm (.interface plan.primary))
        = if s.faults.dropPm = false ∧ s.kept false plan.primary ≠ none then
            .ok (sampleDocument (.interface plan.primary))
          else .error (.status (ResourceId.interface plan.primary).text 404) := by
    have monitored
        : monitors s (.interface plan.primary) = (s.kept false plan.primary).isSome := rfl
    rw [Element.document, monitored]
    cases s.faults.dropPm <;> cases s.kept false plan.primary <;> simp
  obtain ⟨sample, found⟩ := Option.isSome_iff_exists.mp (find?_sampleDocument plan.primary)
  rw [Task.observe, map_run, access_eq, Observation.clears_sampled]
  refine imp_congr_right fun _ => ?_
  by_cases refused : s.faults.sessionsOffline = true
  · simp [refused, Access.document?]
  · rw [if_neg refused, if_neg (not_not.mpr rfl), document]
    by_cases given : s.faults.dropPm = false ∧ s.kept false plan.primary ≠ none
    · simp [given, refused, found, Access.document?, Except.toOption]
    · simp [given, Access.document?, Except.toOption]

/-- An alarm is raised on an interface that is kept, unless a fault is in its way. -/
theorem survey_clears (check : Check) (plan : Plan) (s : ElementState)
    : ((Task.survey plan).observe e.collaborators e.node s).1.Clears check
      ↔ (check = .alarm →
          s.faults.sessionsOffline = false
          ∧ s.faults.dropAlarms = false
          ∧ s.kept false plan.primary ≠ none) := by
  have listed : plan.primary ∈ s.interfaceNames ↔ s.kept false plan.primary ≠ none := by
    rw [ElementState.interfaceNames, ← Keyed.isSome_lookup, ← Option.isSome_iff_ne_none]
    exact Iff.rfl
  have alarms := list?_alarmDocument s plan.primary
  rw [listed] at alarms
  rw [Task.observe, map_run, access_eq, Observation.clears_surveyed, ← alarms]
  refine imp_congr_right fun _ => ?_
  by_cases refused : s.faults.sessionsOffline = true
  · simp [refused, Access.document?]
  · rw [if_neg refused, if_neg (not_not.mpr rfl)]
    simp only [Access.document?, Element.document, Except.toOption, Option.some.injEq,
      exists_and_left, exists_eq_left', refused, true_and, List.any_eq_true]
    cases Alarm.list? (alarmDocument s) <;> simp

/-- Reading samples and alarms changes neither what is kept nor the faults. -/
theorem kept_observe_sample (plan : Plan) (s : ElementState) (isConnection : Bool) (name : String)
    : ((Task.sample plan).observe e.collaborators e.node s).2.kept isConnection name
      = s.kept isConnection name := by
  rw [Task.observe, map_run, access_eq]
  split
  · rfl
  · split <;> rfl

theorem telemetry_clears {s : ElementState} (online : s.faults.controlOffline = false)
    (check : Check) (plan : Plan)
    : e.Clears check [.sample plan, .survey plan] s
      ↔ (check = .pm →
          s.faults.sessionsOffline = false
          ∧ s.faults.dropPm = false
          ∧ s.kept false plan.primary ≠ none)
        ∧ (check = .alarm →
          s.faults.sessionsOffline = false
          ∧ s.faults.dropAlarms = false
          ∧ s.kept false plan.primary ≠ none) := by
  have visited := online_observe e online (.sample plan)
  have nothing : ∀ t, e.Clears check [] t := fun t f member => absurd member List.not_mem_nil
  rw [clears_cons online, clears_cons visited, sample_clears, survey_clears, faults_observe,
    kept_observe_sample]
  simp only [nothing, and_true]

-----------------------------------------------------------------------------------------
-- Steps for one plan
-----------------------------------------------------------------------------------------

section Steps

variable {plan : Plan} (carries : e.Carries plan) {s : ElementState}
  (online : s.faults.controlOffline = false) (bars : s.Bars)
include carries

/-- A creation is answered as planned exactly if the element does not reject it. -/
theorem lists_answer_create
    : (e.answer plan.rpc (plan.request .create) s).1.Lists plan
      ↔ s.faults.rejectCreate = false := by
  obtain ⟨-, rendering, renders, realizes⟩ := carries
  cases rejects : s.faults.rejectCreate with
  | false =>
      rw [answer_accepted renders rejects]
      refine iff_of_true ?_ rfl
      exact (Lifecycle.creationFault?_eq_none plan _).mp (creation_accepted renders realizes)
  | true =>
      rw [answer_rejected renders rejects]
      refine iff_of_false ?_ (by simp)
      rintro ⟨succeeded, -⟩
      exact not_succeeded_failure _ succeeded

include bars

theorem kept_created_iff {p : PlannedResource} (member : p ∈ plan.resources)
    : (e.answer plan.rpc (plan.request .create) s).2.kept p.isConnection p.name ≠ none
      ↔ ¬ s.faults.KeepsOut p.name := by
  obtain ⟨telling, rendering, renders, realizes⟩ := carries
  obtain ⟨out, inside⟩ := kept_answer_create renders realizes telling bars member
  constructor
  · exact mt out
  · intro created
    obtain ⟨config, kept, -⟩ := inside created
    simp [kept]

theorem covered_created_iff {p : PlannedResource} (member : p ∈ plan.resources)
    : (∃ config,
        (e.answer plan.rpc (plan.request .create) s).2.kept p.isConnection p.name = some config
        ∧ Json.isSubset p.expected config = true)
      ↔ ¬ s.faults.KeepsOut p.name ∧ ¬ s.faults.Misstates p := by
  have kept := kept_created_iff carries bars member
  obtain ⟨telling, rendering, renders, realizes⟩ := carries
  obtain ⟨-, inside⟩ := kept_answer_create renders realizes telling bars member
  constructor
  · rintro ⟨config, found, subset⟩
    have created := kept.mp (by simp [found])
    obtain ⟨other, foundOther, iff⟩ := inside created
    rw [found] at foundOther
    cases foundOther
    exact ⟨created, iff.mp subset⟩
  · rintro ⟨created, right⟩
    obtain ⟨config, found, iff⟩ := inside created
    exact ⟨config, found, iff.mpr right⟩

theorem primary_created_iff
    : (e.answer plan.rpc (plan.request .create) s).2.kept false plan.primary ≠ none
      ↔ ¬ s.faults.KeepsOut plan.primary := by
  obtain ⟨-, rendering, -, realizes⟩ := id carries
  obtain ⟨p, member, isPrimary, isInterface⟩ := realizes.monitored
  rw [← isPrimary, ← isInterface]
  exact kept_created_iff carries bars member

include online

/-- A plan is brought up without a finding against a check exactly if the faults spare it. -/
theorem bringUp_clears (check : Check)
    : e.Clears check (Step.bringUp plan).tasks s ↔ s.faults.Spares plan check := by
  let created := (e.answer plan.rpc (plan.request .create) s).2
  have faults : created.faults = s.faults := e.faults_answer _ _ s
  have reached : created.faults.controlOffline = false := by rw [faults, online]
  have rests
      : ∀ t ∈ plan.resources.map Task.inspect,
          (t.observe e.collaborators e.node created).2 = created := by
    intro t member
    obtain ⟨p, -, rfl⟩ := List.mem_map.mp member
    exact e.state_find e.node p created
  have rested := (findings_resting e reached rests).2
  have answered
      : (Observation.created (κ := Nat) plan
            (.ok (e.answer plan.rpc (plan.request .create) s).1)).Clears check
        ↔ (check = .create → s.faults.rejectCreate = false) := by
    rw [Observation.clears_created]
    simp only [Except.ok.injEq, exists_eq_left', lists_answer_create carries]
  have inspected
      : e.Clears check (plan.resources.map .inspect) created
        ↔ (check = .config →
            ∀ p ∈ plan.resources, ¬ s.faults.KeepsOut p.name ∧ ¬ s.faults.Misstates p)
          ∧ (check = .create → ∀ p ∈ plan.resources, ¬ s.faults.KeepsOut p.name) := by
    rw [clears_resting reached check rests, List.forall_mem_map]
    constructor
    · intro each
      constructor
      · intro isConfig p member
        obtain ⟨covered, -⟩ := (inspect_clears reached check p).mp (each p member)
        exact (covered_created_iff carries bars member).mp (covered isConfig)
      · intro isCreate p member
        obtain ⟨-, kept⟩ := (inspect_clears reached check p).mp (each p member)
        exact (kept_created_iff carries bars member).mp (kept isCreate)
    · rintro ⟨configs, creates⟩ p member
      refine (inspect_clears reached check p).mpr ⟨fun isConfig => ?_, fun isCreate => ?_⟩
      · exact (covered_created_iff carries bars member).mpr (configs isConfig p member)
      · exact (kept_created_iff carries bars member).mpr (creates isCreate p member)
  -- A rejection keeps out every resource, so the answer tells nothing that the look-ups do not.
  have accepts
      : (∀ p ∈ plan.resources, ¬ s.faults.KeepsOut p.name) → s.faults.rejectCreate = false := by
    intro none
    obtain ⟨p, member, -⟩ := carries.telling.diverse ""
    exact Bool.eq_false_iff.mpr fun rejects => none p member (Or.inl rejects)
  rw [Step.tasks, clears_cons online, observe_create e online, clears_append reached, rested,
    answered, inspected, telemetry_clears reached, faults, primary_created_iff carries bars]
  cases check with
  | create => simpa [Faults.Spares] using accepts
  | config | pm | alarm | delete => simp [Faults.Spares]

/-- A plan is torn down without a finding against a check other than that of deletions, and without
any if nothing survives its deletion or nothing is created.
-/
theorem tearDown_clears (check : Check)
    (removes
      : check = .delete → s.faults.surviveDelete = false ∨ s.faults.rejectCreate = true)
    : e.Clears check (Step.tearDown plan).tasks s := by
  obtain ⟨-, rendering, renders, realizes⟩ := carries
  let torn := (e.answer plan.rpc (plan.request .delete) s).2
  have faults : torn.faults = s.faults := e.faults_answer _ _ s
  have reached : torn.faults.controlOffline = false := by rw [faults, online]
  have rests
      : ∀ t ∈ plan.resources.map Task.confirm,
          (t.observe e.collaborators e.node torn).2 = torn := by
    intro t member
    obtain ⟨p, -, rfl⟩ := List.mem_map.mp member
    exact e.state_find e.node p torn
  rw [Step.tasks, clears_cons online, observe_delete e online, clears_resting reached check rests,
    List.forall_mem_map, Observation.clears_deleted]
  constructor
  · intro _
    exact ⟨_, rfl, by rw [answer_torn_down renders]; exact deleted_succeeded⟩
  · intro p member
    rw [confirm_clears reached]
    intro isDelete
    -- Nothing is there to be deleted if creations are rejected, whoever shares the names.
    rcases removes isDelete with gone | rejects
    · simp only [torn, answer_torn_down renders, gone, Bool.false_eq_true, if_false]
      exact realizes.kept_deleted _ member
    · refine (e.moves_answer _ _ s).bars bars _ _ (Or.inl ?_)
      rw [faults_answer, rejects]

end Steps

-----------------------------------------------------------------------------------------
-- All steps
-----------------------------------------------------------------------------------------

/-- Steps that the element carries have no finding against a check exactly if the faults spare every
plan that is brought up.
-/
theorem steps_clear {s : ElementState} (online : s.faults.controlOffline = false) (bars : s.Bars)
    {steps : List Step} (carried : ∀ step ∈ steps, step.Carried e) (check : Check)
    (removes
      : check = .delete → s.faults.surviveDelete = false ∨ s.faults.rejectCreate = true)
    : e.Clears check (steps.flatMap Step.tasks) s
      ↔ ∀ plan, .bringUp plan ∈ steps → s.faults.Spares plan check := by
  -- Earlier steps may leave resources behind. What carries the induction is that nothing is kept
  -- that the faults keep out.
  induction steps generalizing s with
  | nil => exact iff_of_true (fun f member => absurd member List.not_mem_nil) (by simp)
  | cons step rest ih =>
      obtain ⟨here, later⟩ := List.forall_mem_cons.mp carried
      have stays := faults_after e online step.tasks
      have others :=
        ih (by rw [stays, online]) (e.bars_after online bars _) later (by rwa [stays])
      rw [List.flatMap_cons, clears_append online, others, stays]
      cases step with
      | bringUp plan =>
          rw [bringUp_clears here online bars]
          simp
      | tearDown plan =>
          have cleared := tearDown_clears here online bars check removes
          simp [cleared]
      | note finding => exact here.elim

end Element

end Lightpath
