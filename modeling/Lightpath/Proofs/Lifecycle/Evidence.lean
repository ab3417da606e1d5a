import Lightpath.Proofs.Json.Covering
import Lightpath.Proofs.Lifecycle.ObservedRun
import Lightpath.Proofs.Lifecycle.PassedOver

/-!
What a verdict says of a run. Each check is lost by certain answers and by nothing else, so
the five flags of a verdict tell what was observed, and a port that was passed over.
-/

namespace Lightpath

variable {σ κ : Type}

-----------------------------------------------------------------------------------------
-- Answers to requests
-----------------------------------------------------------------------------------------

namespace RpcResponse

/-- A request that was carried out: by its status, and by the flag in its output, which may be
wrapped.
-/
def Succeeded (r : RpcResponse)
    : Prop :=
  200 ≤ r.status ∧ r.status < 300 ∧ r.output.unwrapOutput.get? "success" = some (.bool true)

/-- A request that was carried out and whose output lists the planned resources in its first entry
of the node. What later entries of the same node list does not count.
-/
def Lists (plan : Plan) (r : RpcResponse)
    : Prop :=
  r.Succeeded
  ∧ ∃ entries entry,
      r.output.unwrapOutput.field? "node-interface" = some entries
      ∧ entries.asList.find? (fun e => e.textField? "node-id" = some plan.node) = some entry
      ∧ Json.isSubset plan.expectedEntry entry = true

end RpcResponse

namespace Lifecycle

/-- Nothing speaks against the success of a request exactly if it was carried out. -/
theorem failure?_eq_none (r : RpcResponse)
    : failure? r = none ↔ r.Succeeded := by
  have flag
      : Json.isSubset (Json.ofMembers [("success", .bool true)]) r.output.unwrapOutput = true
        ↔ r.output.unwrapOutput.get? "success" = some (.bool true) := by
    rw [Json.ofMembers, Json.isSubset_object]
    simp only [Keyed.ofList, Keyed.insert, List.foldl_cons, List.foldl_nil,
      List.forall_mem_cons, List.not_mem_nil, false_implies, implies_true, and_true,
      Json.covers_bool]
    exact ⟨fun ⟨_, found, same⟩ => found.trans (congrArg _ same.symm),
      fun found => ⟨_, found, rfl⟩⟩
  have status : r.isSuccess = true ↔ 200 ≤ r.status ∧ r.status < 300 := by
    simp [RpcResponse.isSuccess]
  rw [RpcResponse.Succeeded, ← flag, ← and_assoc, ← status]
  unfold failure?
  cases success : r.isSuccess <;>
    cases subset
          : Json.isSubset (Json.ofMembers [("success", .bool true)]) r.output.unwrapOutput <;>
      simp [subset]

/-- Nothing speaks against a creation exactly if the output lists the planned resources. -/
theorem creationFault?_eq_none (plan : Plan) (r : RpcResponse)
    : creationFault? plan r = none ↔ r.Lists plan := by
  rw [RpcResponse.Lists, ← failure?_eq_none]
  unfold creationFault? createdEntry?
  cases failed : failure? r with
  | some detail => simp
  | none =>
      cases found : r.output.unwrapOutput.field? "node-interface" with
      | none => simp
      | some entries =>
          cases first
                : entries.asList.find?
                    (fun e => decide (e.textField? "node-id" = some plan.node)) with
          | none => simp [first]
          | some entry => simp [first, Json.isSubset]

end Lifecycle

-----------------------------------------------------------------------------------------
-- Which answers cost which check
-----------------------------------------------------------------------------------------

namespace Observation

/-- An observation without a finding against a check. -/
def Clears (check : Check) (o : Observation κ)
    : Prop :=
  ∀ f ∈ o.findings, f.check ≠ check

/-- A creation costs the check of creations unless its answer lists the planned resources. -/
theorem clears_created (check : Check) (plan : Plan)
    (answer : Except TransportError RpcResponse)
    : (created plan answer : Observation κ).Clears check
      ↔ (check = .create → ∃ r, answer = .ok r ∧ r.Lists plan) := by
  cases answer with
  | error e => simp [Clears, findings, Lifecycle.creationFindings, Except.toOption, eq_comm]
  | ok r =>
      simp only [Clears, findings, Lifecycle.creationFindings, Except.toOption,
        Except.ok.injEq, exists_eq_left', ← Lifecycle.creationFault?_eq_none]
      cases Lifecycle.creationFault? plan r <;> simp [eq_comm]

/-- A deletion costs the check of deletions unless it was carried out. -/
theorem clears_deleted (check : Check) (plan : Plan)
    (answer : Except TransportError RpcResponse)
    : (deleted plan answer : Observation κ).Clears check
      ↔ (check = .delete → ∃ r, answer = .ok r ∧ r.Succeeded) := by
  cases answer with
  | error e => simp [Clears, findings, Lifecycle.deletionFindings, Except.toOption, eq_comm]
  | ok r =>
      simp only [Clears, findings, Lifecycle.deletionFindings, Except.toOption,
        Except.ok.injEq, exists_eq_left', ← Lifecycle.failure?_eq_none]
      cases Lifecycle.failure? r <;> simp [eq_comm]

/-- A look-up after a creation costs the check of configurations unless it finds what is
expected, and that of creations if it finds nothing.
-/
theorem clears_inspected (check : Check) (resource : PlannedResource)
    (answer : Except TransportError Lookup)
    : (inspected resource answer : Observation κ).Clears check
      ↔ (check = .config
          → ∃ config,
              answer = .ok (.present config) ∧ Json.isSubset resource.expected config = true)
        ∧ (check = .create → ∀ status, answer ≠ .ok (.absent status)) := by
  rcases answer with e | config | status
  · cases check <;> simp [Clears, findings, Lifecycle.presenceFindings, Except.toOption]
  · cases mismatch : Json.mismatch? resource.expected config <;>
      cases check <;>
        simp [Clears, findings, Lifecycle.presenceFindings, Except.toOption, Json.isSubset,
          mismatch]
  · cases check <;> simp [Clears, findings, Lifecycle.presenceFindings, Except.toOption]

/-- A look-up after a deletion costs the check of deletions unless it finds nothing, with one of
the statuses for that.
-/
theorem clears_confirmed (check : Check) (resource : PlannedResource)
    (answer : Except TransportError Lookup)
    : (confirmed resource answer : Observation κ).Clears check
      ↔ (check = .delete → ∃ status ∈ [404, 409, 503], answer = .ok (.absent status)) := by
  rcases answer with e | config | status
  · simp [Clears, findings, Lifecycle.absenceFindings, Except.toOption, eq_comm]
  · simp [Clears, findings, Lifecycle.absenceFindings, Except.toOption, eq_comm]
  · have known
        : (∃ st ∈ [404, 409, 503], Except.ok (ε := TransportError) (Lookup.absent status)
              = .ok (.absent st))
          ↔ absentStatuses.contains status = true := by
      simp [absentStatuses]
    simp only [known, Clears, findings, Lifecycle.absenceFindings, Except.toOption]
    cases absentStatuses.contains status <;> simp [eq_comm]

/-- An access for a sample costs the check of samples unless it gave one. -/
theorem clears_sampled (check : Check) (plan : Plan) (access : Access κ)
    : (sampled plan access).Clears check
      ↔ (check = .pm
          → ∃ document sample,
              access.document? = some document
              ∧ PmSample.find? document (.interface plan.primary) = some sample) := by
  have given
      : (∃ document sample,
            access.document? = some document
            ∧ PmSample.find? document (.interface plan.primary) = some sample)
        ↔ (sample? plan access).isSome = true := by
    cases found : access.document? <;> simp [sample?, found, Option.isSome_iff_exists]
  rw [given]
  simp only [Clears, findings, Lifecycle.sampleFindings]
  cases (sample? plan access).isSome <;> simp [eq_comm]

/-- An access for the alarms costs the check of alarms unless one of them is on the interface.
-/
theorem clears_surveyed (check : Check) (plan : Plan) (access : Access κ)
    : (surveyed plan access).Clears check
      ↔ (check = .alarm
          → ∃ document alarms alarm,
              access.document? = some document
              ∧ Alarm.list? document = some alarms
              ∧ alarm ∈ alarms
              ∧ alarm.concerns (.interface plan.primary) = true) := by
  have given
      : (∃ document alarms alarm,
            access.document? = some document
            ∧ Alarm.list? document = some alarms
            ∧ alarm ∈ alarms
            ∧ alarm.concerns (.interface plan.primary) = true)
        ↔ raised plan access = true := by
    cases found : access.document? with
    | none => simp [raised, found]
    | some document =>
        cases listed : Alarm.list? document <;> simp [raised, found, listed]
  rw [given]
  simp only [Clears, findings, Lifecycle.alarmFindings]
  cases raised plan access <;> simp [eq_comm]

/-- A fact of all observations is a fact of each sort of them. -/
theorem forall_mem_iff (seen : List (Observation κ)) (p : Observation κ → Prop)
    : (∀ o ∈ seen, p o)
      ↔ (∀ plan answer, created plan answer ∈ seen → p (created plan answer))
        ∧ (∀ resource answer,
            inspected resource answer ∈ seen → p (inspected resource answer))
        ∧ (∀ plan access, sampled plan access ∈ seen → p (sampled plan access))
        ∧ (∀ plan access, surveyed plan access ∈ seen → p (surveyed plan access))
        ∧ (∀ plan answer, deleted plan answer ∈ seen → p (deleted plan answer))
        ∧ (∀ resource answer,
            confirmed resource answer ∈ seen → p (confirmed resource answer))
        ∧ (∀ finding, noted finding ∈ seen → p (noted finding)) := by
  constructor
  · intro all
    exact ⟨fun _ _ => all _, fun _ _ => all _, fun _ _ => all _, fun _ _ => all _,
      fun _ _ => all _, fun _ _ => all _, fun _ => all _⟩
  · rintro ⟨create, inspect, sample, survey, delete, confirm, note⟩ o member
    cases o with
    | created plan answer => exact create plan answer member
    | inspected resource answer => exact inspect resource answer member
    | sampled plan access => exact sample plan access member
    | surveyed plan access => exact survey plan access member
    | deleted plan answer => exact delete plan answer member
    | confirmed resource answer => exact confirm resource answer member
    | noted finding => exact note finding member

end Observation

-----------------------------------------------------------------------------------------
-- The flags of a verdict
-----------------------------------------------------------------------------------------

/-- A verdict whose flags tell what was observed in a run, and what the topology leaves out. -/
structure Verdict.Tells (v : Verdict) (params : RunParameters) (topology : Topology)
    (seen : List (Observation κ))
    : Prop where
  /-- Every port has a partner, no client is past the capacity, every creation lists what was
  planned, and no look-up before the deletion finds nothing.
  -/
  creations
    : v.holds .create = true
      ↔ ((∀ record ∈ topology.networks, record.clients ≠ [])
          ∧ (∀ record ∈ topology.degrees, record.riskGroups ≠ [])
          ∧ ∀ record ∈ topology.networks,
              ∀ kind,
                (PortClass.ofNetwork record).clientKind? = some kind
                → ∀ rate ∈ params.exercisedRates record.port,
                    record.clients.length ≤ kind.capacity rate)
        ∧ (∀ plan answer,
            .created plan answer ∈ seen → ∃ r, answer = .ok r ∧ r.Lists plan)
        ∧ ∀ resource status, .inspected resource (.ok (.absent status)) ∉ seen
  /-- Every look-up before the deletion finds what is expected. -/
  configurations
    : v.holds .config = true
      ↔ ∀ resource answer,
          .inspected resource answer ∈ seen
          → ∃ config,
              answer = .ok (.present config) ∧ Json.isSubset resource.expected config = true
  /-- Every read for a sample gives one of the monitored interface. -/
  samples
    : v.holds .pm = true
      ↔ ∀ plan access,
          .sampled plan access ∈ seen
          → ∃ document sample,
              access.document? = some document
              ∧ PmSample.find? document (.interface plan.primary) = some sample
  /-- Every read of the alarms gives one on the monitored interface. -/
  alarms
    : v.holds .alarm = true
      ↔ ∀ plan access,
          .surveyed plan access ∈ seen
          → ∃ document alarms alarm,
              access.document? = some document
              ∧ Alarm.list? document = some alarms
              ∧ alarm ∈ alarms
              ∧ alarm.concerns (.interface plan.primary) = true
  /-- Every deletion is carried out, and every look-up after it finds nothing. -/
  deletions
    : v.holds .delete = true
      ↔ (∀ plan answer, .deleted plan answer ∈ seen → ∃ r, answer = .ok r ∧ r.Succeeded)
        ∧ ∀ resource answer,
            .confirmed resource answer ∈ seen
            → ∃ status ∈ [404, 409, 503], answer = .ok (.absent status)
  /-- A flag is lost exactly by a finding against its check. -/
  losses : ∀ check, v.holds check = false ↔ ∃ finding ∈ v.findings, finding.check = check

/-- A check holds exactly if no observation costs it. -/
theorem Verdict.holds_iff_clears (seen : List (Observation κ)) (check : Check)
    : (ofFindings (seen.flatMap Observation.findings)).holds check = true
      ↔ ∀ o ∈ seen, o.Clears check := by
  simp only [holds_ofFindings, List.mem_flatMap, Observation.Clears]
  exact ⟨fun all o member f within => all f ⟨o, member, within⟩,
    fun all f ⟨o, member, within⟩ => all o member f within⟩

namespace Lifecycle

/-- The verdict of a run tells exactly what was observed: one observation for each task of the
agenda, made of the interactions in the transcript.
-/
theorem verdict_tells_observations {c : Collaborators σ κ} {params : RunParameters}
    {topology : Topology} {s : σ} {v : Verdict}
    (given : (verify c params topology s).1 = .ok v)
    : let seen := observations c params topology s
      seen.map Observation.task = Agenda.tasks params topology
      ∧ transcript c params topology s
        = seen.flatMap (Observation.interactions params.node)
      ∧ v.Tells params topology seen := by
  obtain ⟨tasks, _, found⟩ := observations_of_verdict given
  refine ⟨tasks, transcript_eq c params topology s, ?_⟩
  have noted (finding : Finding)
      : Observation.noted finding ∈ observations c params topology s
        ↔ Task.note finding ∈ Agenda.tasks params topology := by
    rw [← tasks, List.mem_map]
    refine ⟨fun member => ⟨_, member, rfl⟩, fun ⟨o, member, same⟩ => ?_⟩
    cases o <;> simp only [Observation.task, reduceCtorEq, Task.note.injEq] at same
    exact same ▸ member
  have note (check : Check) (other : check ≠ .create) (finding : Finding)
      (member : Observation.noted finding ∈ observations c params topology s)
      : (Observation.noted finding : Observation κ).Clears check := by
    have create := Agenda.check_of_note ((noted finding).mp member)
    simpa [Observation.Clears, Observation.findings, create] using Ne.symm other
  have clears (check : Check)
      : v.holds check = true ↔ ∀ o ∈ observations c params topology s, o.Clears check := by
    rw [found]
    exact Verdict.holds_iff_clears _ check
  simp only [Observation.forall_mem_iff, Observation.clears_created,
    Observation.clears_inspected, Observation.clears_sampled, Observation.clears_surveyed,
    Observation.clears_deleted, Observation.clears_confirmed] at clears
  refine ⟨?_, ?_, ?_, ?_, ?_, ?_⟩
  · rw [clears .create, ← Agenda.forall_note_not_mem params topology]
    simp only [forall_const, reduceCtorEq, false_implies, implies_true, true_and, ← noted]
    constructor
    · rintro ⟨created, inspected, none⟩
      refine ⟨fun finding member => ?_, created,
        fun resource status member => inspected resource _ member status rfl⟩
      have create := Agenda.check_of_note ((noted finding).mp member)
      exact none finding member finding (by simp [Observation.findings]) create
    · rintro ⟨none, created, inspected⟩
      refine ⟨created, fun resource answer member status same => ?_,
        fun finding member => absurd member (none finding)⟩
      exact inspected resource status (same ▸ member)
  · rw [clears .config]
    simp only [forall_const, reduceCtorEq, false_implies, implies_true, true_and, and_true]
    exact and_iff_left (note .config (by decide))
  · rw [clears .pm]
    simp only [forall_const, reduceCtorEq, false_implies, implies_true, true_and, and_true]
    exact and_iff_left (note .pm (by decide))
  · rw [clears .alarm]
    simp only [forall_const, reduceCtorEq, false_implies, implies_true, true_and, and_true]
    exact and_iff_left (note .alarm (by decide))
  · rw [clears .delete]
    simp only [forall_const, reduceCtorEq, false_implies, implies_true, true_and, and_true]
    rw [← and_assoc]
    exact and_iff_left (note .delete (by decide))
  · intro check
    rw [found, Verdict.findings_ofFindings]
    exact Verdict.lost_ofFindings _ check

/-- Collaborators that fail every request, find nothing and open no session. -/
def refusing
    : Collaborators Unit Empty :=
  { invoke := fun _ _ => pure (.ok ⟨500, .null⟩)
    interface := fun _ _ => pure (.ok (.absent 404))
    connection := fun _ _ => pure (.ok (.absent 404))
    openSession := fun node => pure (.error (.unavailable node "refused"))
    read := fun session _ => session.elim
    close := fun session => session.elim }

/-- A topology of one transponder with one client. -/
def oneTransponder
    : Topology :=
  ⟨[.network {
    port := { name := "XPDR1-NETWORK1" }
    kind := none
    clients := [{ name := "XPDR1-CLIENT1" }] }]⟩

/-- The run of one transponder against refusing collaborators gives a verdict without any check,
which tells so.
-/
theorem verdict_tells_observations_refusing
    : ∃ v,
        (verify refusing { node := "XPDR-A" } oneTransponder ()).1 = .ok v
        ∧ v.flags = [false, false, false, false, false]
        ∧ v.Tells { node := "XPDR-A" } oneTransponder
            (observations refusing { node := "XPDR-A" } oneTransponder ()) := by
  have flags
      : (verify refusing { node := "XPDR-A" } oneTransponder ()).1.toOption.map Verdict.flags
        = some [false, false, false, false, false] := by
    decide +kernel
  cases given : (verify refusing { node := "XPDR-A" } oneTransponder ()).1 with
  | error e => simp [given, Except.toOption] at flags
  | ok v =>
      refine ⟨v, rfl, ?_, (verdict_tells_observations given).2.2⟩
      simpa [given, Except.toOption] using flags

end Lifecycle

end Lightpath
