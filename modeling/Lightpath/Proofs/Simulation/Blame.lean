import Lightpath.Proofs.Lifecycle.Settled
import Lightpath.Proofs.Simulation.CarriedAgenda

/-!
Which flags of a verdict an element's faults cost. A run loses a check exactly if a fault concerns
one of its plans; what survives a deletion is found by the look-ups that follow it.
-/

namespace Lightpath

namespace Element

variable {e : Element}

-----------------------------------------------------------------------------------------
-- Resources that survive
-----------------------------------------------------------------------------------------

section Survivors

variable {s : ElementState} (online : s.faults.controlOffline = false) (bars : s.Bars)
include online bars

omit bars in
/-- What is kept although it was deleted is found by a later look-up. -/
theorem not_clears_of_kept {tasks : List Task} (survives : s.faults.surviveDelete = true)
    {p : PlannedResource} (kept : s.kept p.isConnection p.name ≠ none)
    (later : Task.confirm p ∈ tasks)
    : ¬ e.Clears .delete tasks s := by
  intro clears
  induction tasks generalizing s with
  | nil => simp at later
  | cons task rest ih =>
      obtain ⟨here, others⟩ := (clears_cons online .delete task rest).mp clears
      rcases List.mem_cons.mp later with rfl | inRest
      · exact kept ((confirm_clears online .delete p).mp here rfl)
      · have stays := e.faults_observe e.node task s
        exact ih (online_observe e online task) (by rw [stays, survives])
          ((e.effect_observe e.node task s).kept survives kept) inRest others

/-- Settled tasks that create a plan have a finding against the check of deletions if deleted
resources survive and any are created.
-/
theorem not_clears_of_survivors {tasks : List Task} (settled : Task.Settled tasks)
    (survives : s.faults.surviveDelete = true) (accepts : s.faults.rejectCreate = false)
    {plan : Plan} (carries : e.Carries plan) (member : Task.create plan ∈ tasks)
    : ¬ e.Clears .delete tasks s := by
  intro clears
  induction tasks generalizing s with
  | nil => simp at member
  | cons task rest ih =>
      obtain ⟨-, others⟩ := (clears_cons online .delete task rest).mp clears
      have stays := e.faults_observe e.node task s
      rcases List.mem_cons.mp member with rfl | inRest
      · -- A left-out name is not that of every resource: one is created, and found once deleted.
        obtain ⟨p, planned, made⟩
            : ∃ p ∈ plan.resources, s.faults.skipResource ≠ some p.name := by
          obtain ⟨p, planned, other⟩ := carries.telling.diverse (s.faults.skipResource.getD "")
          refine ⟨p, planned, fun skipped => other ?_⟩
          rw [skipped, Option.getD_some]
        have created : ¬ s.faults.KeepsOut p.name := by
          rintro (rejects | skipped)
          · simp [accepts] at rejects
          · exact made skipped
        have kept := (kept_created_iff carries bars planned).mpr created
        rw [observe_create e online] at others
        have confirmed : Task.confirm p ∈ rest :=
          settled.1 (List.mem_cons_of_mem _ (List.mem_map_of_mem planned))
        refine not_clears_of_kept ?_ ?_ kept confirmed others
        · rw [faults_answer, online]
        · rw [faults_answer, survives]
      · exact ih (online_observe e online task) ((e.effect_observe e.node task s).bars bars) settled.tail
          (by rw [stays, survives]) (by rw [stays, accepts]) inRest others

end Survivors

end Element

-----------------------------------------------------------------------------------------
-- The flags of a verdict under faults
-----------------------------------------------------------------------------------------

/-- The plans that an agenda brings up, in order. -/
def Agenda.plans (params : RunParameters) (topology : Topology)
    : List Plan :=
  (ofTopology params topology).filterMap fun
    | .bringUp plan => some plan
    | .tearDown _ => none
    | .note _ => none

theorem Agenda.mem_plans {params : RunParameters} {topology : Topology} {plan : Plan}
    : plan ∈ plans params topology ↔ .bringUp plan ∈ ofTopology params topology := by
  rw [plans, List.mem_filterMap]
  constructor
  · rintro ⟨step, member, isPlan⟩
    cases step with
    | bringUp other =>
        cases isPlan
        exact member
    | tearDown _ | note _ => cases isPlan
  · exact fun member => ⟨_, member, rfl⟩

/-- A verdict that blames the faults of an element on the right flags, given the plans of the run. -/
structure Verdict.Blames (v : Verdict) (f : Faults) (plans : List Plan)
    : Prop where
  /-- Creations are lost to a rejection and to the name of a planned resource being left out. -/
  creations
    : v.holds .create = true
      ↔ f.rejectCreate = false
        ∧ ∀ plan ∈ plans, ∀ p ∈ plan.resources, f.skipResource ≠ some p.name
  /-- Configurations are lost with creations, and to the state of a planned interface. -/
  configurations
    : v.holds .config = true
      ↔ v.holds .create = true
        ∧ ∀ plan ∈ plans, ∀ p ∈ plan.resources,
            p.isConnection = false → f.wrongState ≠ some p.name
  /-- Samples are lost to a rejection, to faults of telemetry, and to a monitored interface being
  left out.
  -/
  samples
    : v.holds .pm = true
      ↔ f.rejectCreate = false
        ∧ f.dropPm = false
        ∧ f.sessionsOffline = false
        ∧ ∀ plan ∈ plans, f.skipResource ≠ some plan.primary
  /-- Alarms are lost as samples are. -/
  alarms
    : v.holds .alarm = true
      ↔ f.rejectCreate = false
        ∧ f.dropAlarms = false
        ∧ f.sessionsOffline = false
        ∧ ∀ plan ∈ plans, f.skipResource ≠ some plan.primary
  /-- Deletions are lost to what survives them, if anything was created. -/
  deletions : v.holds .delete = true ↔ f.surviveDelete = false ∨ f.rejectCreate = true

theorem Faults.not_keepsOut_iff (f : Faults) (name : String)
    : ¬ f.KeepsOut name ↔ f.rejectCreate = false ∧ f.skipResource ≠ some name := by
  rw [KeepsOut, not_or, Bool.not_eq_true]

theorem Verdict.blames_of_spares {v : Verdict} {f : Faults} {plans : List Plan}
    (filled : ∃ plan ∈ plans, plan.resources ≠ [])
    (spares
      : ∀ check, check ≠ .delete →
          (v.holds check = true ↔ ∀ plan ∈ plans, f.Spares plan check))
    (deletions : v.holds .delete = true ↔ f.surviveDelete = false ∨ f.rejectCreate = true)
    : v.Blames f plans := by
  obtain ⟨one, isPlan, resources⟩ := filled
  obtain ⟨resource, planned⟩ := List.exists_mem_of_ne_nil _ resources
  have telemetry (dropped : Bool)
      : (∀ plan ∈ plans,
          f.sessionsOffline = false ∧ dropped = false ∧ ¬ f.KeepsOut plan.primary)
        ↔ f.rejectCreate = false
          ∧ dropped = false
          ∧ f.sessionsOffline = false
          ∧ ∀ plan ∈ plans, f.skipResource ≠ some plan.primary := by
    simp only [Faults.not_keepsOut_iff]
    constructor
    · intro all
      obtain ⟨offered, given, accepts, -⟩ := all one isPlan
      refine ⟨accepts, given, offered, ?_⟩
      intro plan member
      exact (all plan member).2.2.2
    · rintro ⟨accepts, given, offered, made⟩ plan member
      exact ⟨offered, given, accepts, made plan member⟩
  refine ⟨?_, ?_, ?_, ?_, deletions⟩
  · rw [spares .create (by decide)]
    simp only [Faults.Spares, Faults.not_keepsOut_iff]
    constructor
    · intro all
      refine ⟨(all one isPlan resource planned).1, ?_⟩
      intro plan member p inPlan
      exact (all plan member p inPlan).2
    · rintro ⟨accepts, made⟩ plan member p inPlan
      exact ⟨accepts, made plan member p inPlan⟩
  · rw [spares .config (by decide), spares .create (by decide)]
    simp only [Faults.Spares, Faults.Misstates, not_and]
    constructor
    · intro all
      refine ⟨?_, ?_⟩ <;> intro plan member p inPlan
      · exact (all plan member p inPlan).1
      · exact (all plan member p inPlan).2
    · rintro ⟨made, right⟩ plan member p inPlan
      exact ⟨made plan member p inPlan, right plan member p inPlan⟩
  · rw [spares .pm (by decide)]
    exact telemetry f.dropPm
  · rw [spares .alarm (by decide)]
    exact telemetry f.dropAlarms

namespace Element

section Verdicts

variable {e : Element} {params : RunParameters} {topology : Topology}

/-- A run without a finding that brings anything up was made for the node of the element: it refuses
sessions on any other.
-/
theorem named_of_quiet {s s' : ElementState} {v : Verdict}
    (run : Lifecycle.verify e.collaborators params topology s = (.ok v, s'))
    (quiet : v.findings = []) {plan : Plan}
    (member : .bringUp plan ∈ Agenda.ofTopology params topology)
    : params.node = e.node := by
  by_contra other
  have verdict : (Lifecycle.verify e.collaborators params topology s).1 = .ok v := by rw [run]
  obtain ⟨tasks, -, found⟩ := Lifecycle.observations_of_verdict verdict
  have sampled : Task.sample plan ∈ Agenda.tasks params topology :=
    List.mem_flatMap.mpr ⟨_, member, by simp [Step.tasks]⟩
  rw [← tasks] at sampled
  obtain ⟨o, seen, isSample⟩ := List.mem_map.mp sampled
  obtain ⟨t, made⟩ := Task.exists_state_of_observed seen
  have none : o.findings = [] := by
    rw [found, Verdict.findings_ofFindings] at quiet
    exact List.flatMap_eq_nil_iff.mp quiet o seen
  rw [made, isSample, Task.observe, map_run, access_eq] at none
  by_cases refused : t.faults.sessionsOffline = true
  · rw [if_pos refused] at none
    cases none
  · rw [if_neg refused, if_pos other] at none
    cases none

variable (carried : ∀ step ∈ Agenda.ofTopology params topology, step.Carried e)
  {plan : Plan} (member : .bringUp plan ∈ Agenda.ofTopology params topology)
include carried member

/-- A run against an element that cannot be reached ends at its first request. -/
theorem verify_offline {s : ElementState} (offline : s.faults.controlOffline = true)
    : ∃ operation,
        Lifecycle.verify e.collaborators params topology s
          = (.error ⟨operation, e.unreachable⟩, s) := by
  cases agenda : Agenda.ofTopology params topology with
  | nil => simp [agenda] at member
  | cons step rest =>
      have here : step.Carried e := carried step (by simp [agenda])
      have down
          : ∃ task others operation,
              step.tasks = task :: others
              ∧ (task.observe e.collaborators params.node s).1.outage?
                = some ⟨operation, e.unreachable⟩
              ∧ (task.observe e.collaborators params.node s).2 = s := by
        cases step with
        | bringUp plan =>
            refine ⟨.create plan, _, plan.rpc, rfl, ?_⟩
            simp only [Task.observe, map_run]
            simp only [collaborators, e.invoke_offline offline]
            exact ⟨rfl, trivial⟩
        | tearDown plan =>
            refine ⟨.delete plan, _, plan.rpc, rfl, ?_⟩
            simp only [Task.observe, map_run]
            simp only [collaborators, e.invoke_offline offline]
            exact ⟨rfl, trivial⟩
        | note finding => exact here.elim
      obtain ⟨task, others, operation, tasks, outage, stays⟩ := down
      refine ⟨operation, ?_⟩
      rw [Lifecycle.verify_eq, Lifecycle.observations, Agenda.tasks, agenda, List.flatMap_cons,
        tasks, List.cons_append, Task.observeAll_cons_outage _ outage]
      simp [outage, stays]

/-- A run against an element that can be reached blames its faults on the right flags. -/
theorem verify_blames (named : params.node = e.node) {f : Faults}
    (online : f.controlOffline = false)
    : ∃ v s',
        Lifecycle.verify e.collaborators params topology { faults := f } = (.ok v, s')
        ∧ v.Blames f (Agenda.plans params topology) := by
  let s : ElementState := { faults := f }
  have bars : s.Bars := fun isConnection name _ => by cases isConnection <;> rfl
  have flags (check : Check)
      : (Verdict.ofFindings (e.findings (Agenda.tasks params topology) s)).holds check = true
        ↔ e.Clears check (Agenda.tasks params topology) s :=
    Verdict.holds_ofFindings _ check
  have clears (check : Check)
      (removes : check = .delete → f.surviveDelete = false ∨ f.rejectCreate = true)
      : e.Clears check (Agenda.tasks params topology) s
        ↔ ∀ plan ∈ Agenda.plans params topology, f.Spares plan check := by
    simp only [Agenda.mem_plans]
    exact steps_clear online bars carried check removes
  have carries : e.Carries plan := carried _ member
  refine ⟨_, _, verify_online e online named topology, Verdict.blames_of_spares ?_ ?_ ?_⟩
  · obtain ⟨p, planned, -⟩ := carries.telling.diverse ""
    exact ⟨plan, Agenda.mem_plans.mpr member, List.ne_nil_of_mem planned⟩
  · intro check other
    rw [flags]
    exact clears check fun isDelete => absurd isDelete other
  · rw [flags]
    constructor
    · intro cleared
      by_contra kept
      rw [not_or, Bool.not_eq_false, Bool.not_eq_true] at kept
      have created : Task.create plan ∈ Agenda.tasks params topology :=
        List.mem_flatMap.mpr ⟨_, member, List.mem_cons_self⟩
      exact not_clears_of_survivors online bars (Agenda.settled_tasks params topology) kept.1
        kept.2 carries created cleared
    · intro removes
      exact (clears .delete fun _ => removes).mpr fun _ _ => trivial

end Verdicts

/-- Where a run against an element without faults has no finding, on a clean topology with any port,
a run with faults blames them on exactly the right flags; if the element cannot be reached, the run
ends before any request is taken.
-/
theorem verify_blames_faults {e : Element} {params : RunParameters} {v₀ : Verdict}
    {s₀ : ElementState} (clean : (Reconstruction.ofTable e.table).isClean = true)
    (filled : (Reconstruction.ofTable e.table).topology.records ≠ [])
    (run
      : Lifecycle.verify e.collaborators params (Reconstruction.ofTable e.table).topology {}
        = (.ok v₀, s₀))
    (quiet : v₀.findings = []) (f : Faults)
    : (f.controlOffline = true →
        ∃ operation s',
          Lifecycle.verify e.collaborators params (Reconstruction.ofTable e.table).topology
              { faults := f }
            = (.error ⟨operation, e.unreachable⟩, s')
          ∧ s'.requests = [])
      ∧ (f.controlOffline = false →
        ∃ v s',
          Lifecycle.verify e.collaborators params (Reconstruction.ofTable e.table).topology
              { faults := f }
            = (.ok v, s')
          ∧ v.Blames f (Agenda.plans params (Reconstruction.ofTable e.table).topology)) := by
  obtain ⟨plan, member⟩
      : ∃ plan,
          .bringUp plan ∈ Agenda.ofTopology params (Reconstruction.ofTable e.table).topology :=
    exists_bringUp_of_clean clean filled
  have named : params.node = e.node := named_of_quiet run quiet member
  have serves
      : ∀ record ∈ (Reconstruction.ofTable e.table).topology.networks,
          ∀ rate ∈ params.exercisedRates record.port, e.Serves record rate := by
    rw [verify_online e rfl named] at run
    cases run
    rw [Verdict.findings_ofFindings] at quiet
    exact (agenda_passesIff named clean {} rfl).mp quiet
  have carried := carried_ofTopology clean named serves
  constructor
  · intro offline
    obtain ⟨operation, ended⟩ := verify_offline (s := { faults := f }) carried member offline
    exact ⟨operation, _, ended, rfl⟩
  · exact verify_blames carried member named

/-- An element with one degree and one shared-risk-group port. -/
def oneDegree
    : Element :=
  { table := {
      node := "ROADM-A"
      ports := [{ name := "DEG1-TTP-TXRX" }, { name := "SRG1-PP1-TXRX" }] }
    device := .null }

/-- Dropped alarms and surviving resources cost the run on a degree the checks of alarms and deletions
and no other.
-/
theorem verify_blames_faults_degree
    : let f : Faults := { dropAlarms := true, surviveDelete := true }
      ∃ v s',
        Lifecycle.verify oneDegree.collaborators { node := "ROADM-A" }
            (Reconstruction.ofTable oneDegree.table).topology { faults := f }
          = (.ok v, s')
        ∧ v.flags = [true, true, true, false, false] := by
  intro f
  have clean : (Reconstruction.ofTable oneDegree.table).isClean = true := by decide
  have filled : (Reconstruction.ofTable oneDegree.table).topology.records ≠ [] := by decide
  have noNetwork : (Reconstruction.ofTable oneDegree.table).topology.networks = [] := by decide
  have named : ({ node := "ROADM-A" } : RunParameters).node = oneDegree.node := rfl
  have run :=
    verify_online oneDegree (s := {}) rfl named (Reconstruction.ofTable oneDegree.table).topology
  have quiet := (agenda_passesIff named clean {} rfl).mpr (by simp [noNetwork])
  rw [← Verdict.findings_ofFindings (oneDegree.findings _ _)] at quiet
  obtain ⟨-, reached⟩ := verify_blames_faults clean filled run quiet f
  obtain ⟨v, s', ended, blames⟩ := reached rfl
  have creations : v.holds .create = true := blames.creations.mpr (by simp [f])
  have configurations : v.holds .config = true :=
    blames.configurations.mpr ⟨creations, by simp [f]⟩
  have samples : v.holds .pm = true := blames.samples.mpr (by simp [f])
  have alarms : v.holds .alarm = false :=
    Bool.eq_false_iff.mpr fun holds => by simpa [f] using blames.alarms.mp holds
  have deletions : v.holds .delete = false :=
    Bool.eq_false_iff.mpr fun holds => by simpa [f] using blames.deletions.mp holds
  refine ⟨v, s', ended, ?_⟩
  simp only [Verdict.flags, Check.all, List.map_cons, List.map_nil, creations, configurations,
    samples, alarms, deletions]

end Element

end Lightpath
