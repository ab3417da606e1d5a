import Lightpath.Model.DescriptorFile
import Lightpath.Proofs.Keyed

/-!
Histories of a registry. A registration is said once more as a program that works on the registry in
place, one checklist at a time, and that keeps what it did before an error. It is proved equal to
the functions on registries, which check a whole batch before they touch anything: an error leaves
nothing behind, and a registry only grows, whatever calls are made on it.
-/

namespace Lightpath

namespace Registry

-----------------------------------------------------------------------------------------
-- One checklist at a time
-----------------------------------------------------------------------------------------

/-- The registry with a table for a version, an empty one if there was none. -/
def openTable (r : Registry) (version : ModelVersion)
    : Registry :=
  ⟨Keyed.insert version.text (r.table version) r.tables⟩

/-- The registry with one checklist in the table of a version. -/
def place (version : ModelVersion) (r : Registry) (c : Checklist)
    : Registry :=
  ⟨Keyed.insert version.text (putChecklist (r.table version) c) r.tables⟩

theorem table_insert (r : Registry) (version other : ModelVersion) (lists : List Checklist)
    : (⟨Keyed.insert version.text lists r.tables⟩ : Registry).table other
      = if other = version then lists else r.table other := by
  have texts : other.text = version.text ↔ other = version := by
    cases other
    cases version
    simp
  rw [table, Keyed.lookup_insert, table]
  simp only [texts]
  split <;> rfl

/-- In a table the checklist put last is found for its role, and nothing changes for others. -/
theorem find?_putChecklist (lists : List Checklist) (c : Checklist) (role : StructuralRole)
    : (putChecklist lists c).find? (fun old => old.role = role)
      = if role = c.role then some c else lists.find? fun old => old.role = role := by
  rw [putChecklist, List.find?_append]
  by_cases same : role = c.role
  · have gone : (lists.filter fun old => old.role ≠ c.role).find? (fun old => old.role = role)
        = none := by
      refine List.find?_eq_none.mpr ?_
      intro old member
      simpa [same] using (List.mem_filter.mp member).2
    rw [gone]
    simp [same]
  · have kept : (lists.filter fun old => old.role ≠ c.role).find? (fun old => old.role = role)
        = lists.find? fun old => old.role = role := by
      rw [List.find?_filter]
      congr 1
      funext old
      by_cases asked : old.role = role <;> simp [asked, same]
    rw [kept]
    simp [same, Ne.symm same]

theorem checklist?_openTable (r : Registry) (version : ModelVersion)
    : (r.openTable version).checklist? = r.checklist? := by
  funext other role
  rw [checklist?, openTable, table_insert, checklist?]
  split
  · rename_i same
    rw [same]
  · rfl

/-- A placed checklist is found for its version and role, and nothing changes elsewhere. -/
theorem checklist?_place (version : ModelVersion) (r : Registry) (c : Checklist)
    (other : ModelVersion) (role : StructuralRole)
    : (r.place version c).checklist? other role
      = if (other, role) = (version, c.role) then some c else r.checklist? other role := by
  rw [checklist?, place, table_insert, checklist?]
  by_cases same : other = version
  · rw [if_pos same, find?_putChecklist, same]
    simp only [Prod.mk.injEq, true_and]
  · have apart : (other, role) ≠ (version, c.role) := fun both => same (congrArg Prod.fst both)
    rw [if_neg same, if_neg apart]

/-- A descriptor is inserted by opening its table and placing its checklists there in turn. -/
theorem insert_eq (r : Registry) (d : Descriptor)
    : r.insert d = d.checklists.foldl (place d.version) (r.openTable d.version) := by
  rw [insert, openTable]
  generalize r.table d.version = lists
  induction d.checklists generalizing lists with
  | nil => rfl
  | cons c rest ih =>
      have opened
          : (⟨Keyed.insert d.version.text lists r.tables⟩ : Registry).table d.version = lists := by
        rw [table_insert, if_pos rfl]
      rw [List.foldl_cons, List.foldl_cons, ih, place, opened, Keyed.insert_insert]

-----------------------------------------------------------------------------------------
-- Whole batches
-----------------------------------------------------------------------------------------

/-- A batch can be registered: none of its pairs is in the registry, and no two of them are the
same.
-/
def Free (r : Registry) (batch : List Descriptor)
    : Prop :=
  (∀ pair ∈ pairs batch, r.checklist? pair.1 pair.2 = none) ∧ (pairs batch).Nodup

/-- There is no conflict exactly if all pairs are new, to the registry and to those seen, and
different.
-/
theorem conflict?_eq_none {r : Registry} {seen : List (ModelVersion × StructuralRole)}
    {asked : List (ModelVersion × StructuralRole)}
    : r.conflict? seen asked = none
      ↔ (∀ pair ∈ asked, r.checklist? pair.1 pair.2 = none ∧ pair ∉ seen) ∧ asked.Nodup := by
  induction asked generalizing seen with
  | nil => simp [conflict?]
  | cons pair rest ih =>
      rw [conflict?]
      split
      · rename_i taken
        refine iff_of_false nofun ?_
        rintro ⟨free, -⟩
        obtain ⟨absent, unseen⟩ := free pair List.mem_cons_self
        rcases taken with present | before
        · simp [absent] at present
        · exact unseen before
      · rename_i new
        obtain ⟨absent, unseen⟩ := not_or.mp new
        rw [Option.isSome_iff_ne_none, not_not] at absent
        rw [ih, List.forall_mem_cons, List.nodup_cons]
        constructor
        · rintro ⟨free, different⟩
          refine ⟨⟨⟨absent, unseen⟩, fun other later => ?_⟩, fun again => ?_, different⟩
          · obtain ⟨otherAbsent, otherUnseen⟩ := free other later
            exact ⟨otherAbsent, fun before => otherUnseen (List.mem_cons_of_mem _ before)⟩
          · exact (free pair again).2 List.mem_cons_self
        · rintro ⟨⟨-, free⟩, once, different⟩
          refine ⟨fun other later => ⟨(free other later).1, fun before => ?_⟩, different⟩
          rcases List.mem_cons.mp before with rfl | before
          · exact once later
          · exact (free other later).2 before

/-- A batch is taken as a whole exactly if it can be registered. -/
theorem registerAll_eq_ok_iff {r later : Registry} {batch : List Descriptor}
    : r.registerAll batch = .ok later ↔ r.Free batch ∧ later = batch.foldl insert r := by
  have free : r.Free batch ↔ r.conflict? [] (pairs batch) = none := by
    rw [conflict?_eq_none, Free]
    simp
  rw [free, registerAll]
  cases r.conflict? [] (pairs batch) with
  | none => simp [eq_comm]
  | some pair => simp

/-- The checklists that a batch brings, each with its version, in order. -/
def entries (batch : List Descriptor)
    : List (ModelVersion × Checklist) :=
  batch.flatMap fun d => d.checklists.map fun c => (d.version, c)

theorem pairs_eq (batch : List Descriptor)
    : pairs batch = (entries batch).map fun e => (e.1, e.2.role) := by
  rw [pairs, entries, List.map_flatMap]
  simp only [List.map_map]
  rfl

/-- The registry with some checklists placed in turn. -/
def placeAll (brought : List (ModelVersion × Checklist)) (r : Registry)
    : Registry :=
  brought.foldl (fun r e => r.place e.1 e.2) r

theorem placeAll_congr (brought : List (ModelVersion × Checklist)) {r s : Registry}
    (same : r.checklist? = s.checklist?)
    : (placeAll brought r).checklist? = (placeAll brought s).checklist? := by
  induction brought generalizing r s with
  | nil => exact same
  | cons e rest ih =>
      refine ih ?_
      funext version role
      rw [checklist?_place, checklist?_place, same]

/-- Inserting a batch makes the same checklists known as placing them one by one. -/
theorem checklist?_insertAll (batch : List Descriptor) (r : Registry)
    : (batch.foldl insert r).checklist? = (placeAll (entries batch) r).checklist? := by
  induction batch generalizing r with
  | nil => rfl
  | cons d rest ih =>
      have opened := placeAll_congr (entries [d]) (checklist?_openTable r d.version)
      have first : r.insert d = placeAll (entries [d]) (r.openTable d.version) := by
        simp [insert_eq, placeAll, entries, List.foldl_map]
      calc
        ((d :: rest).foldl insert r).checklist?
          = (placeAll (entries rest) (r.insert d)).checklist? := ih (r.insert d)
        _ = (placeAll (entries rest) (placeAll (entries [d]) r)).checklist? :=
            placeAll_congr _ (first ▸ opened)
        _ = (placeAll (entries (d :: rest)) r).checklist? := by
            simp [placeAll, entries, List.foldl_append]

/-- Of checklists for different pairs, each is found once all are placed, and other pairs keep
what they had. Induction from the first: what is placed later is for other pairs.
-/
theorem checklist?_placeAll {brought : List (ModelVersion × Checklist)}
    (different : (brought.map fun e => (e.1, e.2.role)).Nodup) (r : Registry)
    : (∀ e ∈ brought, (placeAll brought r).checklist? e.1 e.2.role = some e.2)
      ∧ ∀ version role, (version, role) ∉ brought.map (fun e => (e.1, e.2.role)) →
          (placeAll brought r).checklist? version role = r.checklist? version role := by
  induction brought generalizing r with
  | nil => exact ⟨nofun, fun _ _ _ => rfl⟩
  | cons e rest ih =>
      obtain ⟨once, different⟩ := List.nodup_cons.mp different
      obtain ⟨found, kept⟩ := ih different (r.place e.1 e.2)
      refine ⟨?_, ?_⟩
      · intro other member
        rcases List.mem_cons.mp member with rfl | later
        · refine (kept other.1 other.2.role once).trans ?_
          rw [checklist?_place, if_pos rfl]
        · exact found other later
      · intro version role apart
        obtain ⟨here, later⟩ := not_or.mp (mt List.mem_cons.mpr apart)
        refine (kept version role later).trans ?_
        rw [checklist?_place, if_neg here]

/-- A registry has come from another by a batch: it has the checklists of the batch, and for other
pairs what was there before.
-/
structure Gained (r : Registry) (batch : List Descriptor) (later : Registry)
    : Prop where
  brought : ∀ d ∈ batch, ∀ c ∈ d.checklists, later.checklist? d.version c.role = some c
  kept
    : ∀ version role, (version, role) ∉ pairs batch →
        later.checklist? version role = r.checklist? version role

theorem gained_inserted {batch : List Descriptor} (different : (pairs batch).Nodup) (r : Registry)
    : r.Gained batch (batch.foldl insert r) := by
  have same := checklist?_insertAll batch r
  rw [pairs_eq] at different
  obtain ⟨found, kept⟩ := checklist?_placeAll different r
  refine ⟨?_, ?_⟩
  · intro d inBatch c listed
    have member : (d.version, c) ∈ entries batch :=
      List.mem_flatMap.mpr ⟨d, inBatch, List.mem_map_of_mem listed⟩
    rw [same]
    exact found (d.version, c) member
  · intro version role apart
    rw [pairs_eq] at apart
    rw [same]
    exact kept version role apart

/-- A checklist that is known stays known when a batch is gained whose pairs were free. -/
theorem Gained.checklist?_stays {r later : Registry} {batch : List Descriptor}
    (gained : r.Gained batch later) (free : r.Free batch) {version : ModelVersion}
    {role : StructuralRole} {c : Checklist} (known : r.checklist? version role = some c)
    : later.checklist? version role = some c := by
  have apart : (version, role) ∉ pairs batch := by
    intro brought
    simp [free.1 _ brought] at known
  rw [gained.kept version role apart, known]

end Registry

-----------------------------------------------------------------------------------------
-- Registration in place
-----------------------------------------------------------------------------------------

/-- A program that works on a registry in place. What it changed before an error stays changed. -/
abbrev RegistryM :=
  ExceptT RegistryError (StateM Registry)

namespace RegistryM

/-- Goes over the pairs of a batch and stops at the first that is registered or was seen before. -/
def reserve (seen : List (ModelVersion × StructuralRole))
    : List (ModelVersion × StructuralRole) → RegistryM Unit
  | [] => pure ()
  | pair :: rest => do
      let r ← get
      if (r.checklist? pair.1 pair.2).isSome || seen.contains pair then
        throw (.duplicateChecklist pair.1 pair.2)
      else reserve (pair :: seen) rest

/-- Opens the table of a descriptor and puts its checklists there one by one. -/
def insert (d : Descriptor)
    : RegistryM Unit := do
  modify fun r => r.openTable d.version
  d.checklists.forM fun c => modify fun r => r.place d.version c

/-- Goes over a whole batch, then inserts its descriptors one by one. -/
def registerAll (batch : List Descriptor)
    : RegistryM Unit := do
  reserve [] (Registry.pairs batch)
  batch.forM insert

/-- Registers the descriptors of a file and gives their number. -/
def load (ending : String)
    : Option String → RegistryM Nat
  | none => throw .missingFile
  | some text =>
      match Registry.descriptorsIn? ending text with
      | none => throw .unreadableDescriptor
      | some batch => do
          registerAll batch
          pure batch.length

/-- A program that went through, or that stopped, after which its follow-up is left out. -/
theorem run_bind {α β : Type} (m : RegistryM α) (f : α → RegistryM β) (r : Registry)
    : (m >>= f) r
      = match m r with
        | (.ok a, later) => f a later
        | (.error e, later) => (.error e, later) := by
  change ExceptT.bindCont f (m r).1 (m r).2 = _
  rcases m r with ⟨answer | answer, later⟩ <;> rfl

theorem run_modify (f : Registry → Registry) (r : Registry)
    : (modify f : RegistryM Unit) r = (.ok (), f r) :=
  rfl

/-- Changes made for each item in turn add up, and none of them fails. -/
theorem run_forM {α : Type} {step : α → RegistryM Unit} {change : Registry → α → Registry}
    (each : ∀ a r, step a r = (.ok (), change r a)) (items : List α) (r : Registry)
    : (items.forM step) r = (.ok (), items.foldl change r) := by
  induction items generalizing r with
  | nil => rfl
  | cons a rest ih =>
      change (step a >>= fun _ => rest.forM step) r = _
      rw [run_bind, each]
      exact ih (change r a)

theorem run_insert (d : Descriptor) (r : Registry)
    : insert d r = (.ok (), r.insert d) := by
  rw [insert, run_bind, run_modify]
  refine (run_forM (fun c r => run_modify (fun r => r.place d.version c) r) _ _).trans ?_
  rw [Registry.insert_eq]

/-- Going over pairs changes nothing and stops at the first conflict. -/
theorem run_reserve (seen asked : List (ModelVersion × StructuralRole)) (r : Registry)
    : reserve seen asked r
      = match r.conflict? seen asked with
        | none => (.ok (), r)
        | some pair => (.error (.duplicateChecklist pair.1 pair.2), r) := by
  induction asked generalizing seen with
  | nil => rfl
  | cons pair rest ih =>
      have looked : (get : RegistryM Registry) r = (.ok r, r) := rfl
      rw [reserve, run_bind, looked, Registry.conflict?]
      simp only [Bool.or_eq_true, List.contains_iff_mem]
      split
      · rfl
      · exact ih (pair :: seen)

/-- A registration in place gives the registry of the function, and on an error the one that it
started from.
-/
theorem run_registerAll (batch : List Descriptor) (r : Registry)
    : registerAll batch r
      = match r.registerAll batch with
        | .ok later => (.ok (), later)
        | .error e => (.error e, r) := by
  rw [registerAll, run_bind, run_reserve, Registry.registerAll]
  cases r.conflict? [] (Registry.pairs batch) with
  | none => exact run_forM run_insert batch r
  | some pair => rfl

theorem run_load (ending : String) (text : Option String) (r : Registry)
    : load ending text r
      = match r.load ending text with
        | .ok (later, number) => (.ok number, later)
        | .error e => (.error e, r) := by
  cases text with
  | none => rfl
  | some text =>
      rw [load, Registry.load]
      cases Registry.descriptorsIn? ending text with
      | none => rfl
      | some batch =>
          simp only
          rw [run_bind, run_registerAll]
          cases r.registerAll batch <;> rfl

end RegistryM

-----------------------------------------------------------------------------------------
-- Histories
-----------------------------------------------------------------------------------------

/-- A call that can change a registry. -/
inductive RegistryCall where
  | register (d : Descriptor)
  | registerAll (batch : List Descriptor)
  | load (ending : String) (text : Option String)
deriving DecidableEq, Repr

namespace RegistryCall

/-- The descriptors that a call brings; a file that is missing or cannot be read brings none. -/
def batch?
    : RegistryCall → Option (List Descriptor)
  | .register d => some [d]
  | .registerAll batch => some batch
  | .load ending text => text.bind (Registry.descriptorsIn? ending)

/-- The registry that a call gives, or the error that it ends with. -/
def answer (r : Registry)
    : RegistryCall → Except RegistryError Registry
  | .register d => r.register d
  | .registerAll batch => r.registerAll batch
  | .load ending text => (r.load ending text).map Prod.fst

/-- The call carried out on a registry in place. -/
def perform
    : RegistryCall → RegistryM Unit
  | .register d => RegistryM.registerAll [d]
  | .registerAll batch => RegistryM.registerAll batch
  | .load ending text => do
      let _ ← RegistryM.load ending text
      pure ()

theorem answer_of_batch {call : RegistryCall} {batch : List Descriptor}
    (brings : call.batch? = some batch) (r : Registry)
    : call.answer r = r.registerAll batch := by
  cases call with
  | register d =>
      cases brings
      rfl
  | registerAll other =>
      cases brings
      rfl
  | load ending text =>
      obtain ⟨content, rfl, readable⟩ := Option.bind_eq_some_iff.mp brings
      rw [answer, Registry.load, readable]
      simp only
      cases r.registerAll batch <;> rfl

theorem answer_of_no_batch {call : RegistryCall} (empty : call.batch? = none) (r : Registry)
    : ∃ e, call.answer r = .error e := by
  cases call with
  | register d => cases empty
  | registerAll batch => cases empty
  | load ending text =>
      cases text with
      | none => exact ⟨.missingFile, rfl⟩
      | some content =>
          have unreadable : Registry.descriptorsIn? ending content = none := empty
          refine ⟨.unreadableDescriptor, ?_⟩
          rw [answer, Registry.load, unreadable]
          rfl

/-- A call in place leaves the registry of its answer, and on an error the one it started from. -/
theorem perform_eq (call : RegistryCall) (r : Registry)
    : call.perform r
      = match call.answer r with
        | .ok later => (.ok (), later)
        | .error e => (.error e, r) := by
  cases call with
  | register d => exact RegistryM.run_registerAll [d] r
  | registerAll batch => exact RegistryM.run_registerAll batch r
  | load ending text =>
      rw [perform, RegistryM.run_bind, RegistryM.run_load, answer]
      cases r.load ending text <;> rfl

end RegistryCall

namespace Registry

/-- The registry after some calls, each carried out in place on what the ones before left. -/
def after (r : Registry) (history : List RegistryCall)
    : Registry :=
  history.foldl (fun r call => (call.perform r).2) r

/-- A call that goes through brings a batch that is free, and the registry gains it. -/
theorem gained_of_performed {call : RegistryCall} {r later : Registry}
    (performed : call.perform r = (.ok (), later))
    : call.answer r = .ok later
      ∧ ∃ batch, call.batch? = some batch ∧ r.Free batch ∧ r.Gained batch later := by
  rw [RegistryCall.perform_eq] at performed
  cases answered : call.answer r with
  | error e =>
      rw [answered] at performed
      cases performed
  | ok other =>
      rw [answered] at performed
      cases performed
      refine ⟨rfl, ?_⟩
      cases brings : call.batch? with
      | none =>
          obtain ⟨e, failed⟩ := RegistryCall.answer_of_no_batch brings r
          simp [failed] at answered
      | some batch =>
          rw [RegistryCall.answer_of_batch brings, registerAll_eq_ok_iff] at answered
          obtain ⟨free, rfl⟩ := answered
          exact ⟨batch, rfl, free, gained_inserted free.2 r⟩

/-- A call that fails leaves the registry as it was. -/
theorem unchanged_of_failed {call : RegistryCall} {r later : Registry} {e : RegistryError}
    (failed : call.perform r = (.error e, later))
    : call.answer r = .error e ∧ later = r := by
  rw [RegistryCall.perform_eq] at failed
  cases answered : call.answer r with
  | ok other =>
      rw [answered] at failed
      cases failed
  | error other =>
      rw [answered] at failed
      cases failed
      exact ⟨rfl, rfl⟩

/-- A checklist that is known stays known through one call, whatever comes of it. -/
theorem checklist?_performed {r : Registry} {version : ModelVersion} {role : StructuralRole}
    {c : Checklist} (known : r.checklist? version role = some c) (call : RegistryCall)
    : (call.perform r).2.checklist? version role = some c := by
  rcases performed : call.perform r with ⟨_ | _, later⟩
  · rw [(unchanged_of_failed performed).2]
    exact known
  · obtain ⟨-, batch, -, free, gained⟩ := gained_of_performed performed
    exact gained.checklist?_stays free known

/-- A checklist that is known stays known for ever. -/
theorem checklist?_after {r : Registry} {version : ModelVersion} {role : StructuralRole}
    {c : Checklist} (known : r.checklist? version role = some c) (history : List RegistryCall)
    : (r.after history).checklist? version role = some c := by
  induction history generalizing r with
  | nil => exact known
  | cons call rest ih => exact ih (checklist?_performed known call)

/-- Through any history a registry only grows, a whole batch at a time. A call that brings a batch
goes through exactly if the batch is free, and a call whose file cannot be read fails. A call that
goes through makes the checklists of its batch known and changes no other, a call that fails
leaves the whole registry as it was, and a checklist that was known at the start is known still.
-/
theorem history_only_appends (r : Registry) (history : List RegistryCall) (call : RegistryCall)
    : let now := r.after history
      (∀ batch, call.batch? = some batch →
        ((∃ later, call.perform now = (.ok (), later)) ↔ now.Free batch))
      ∧ (call.batch? = none → ∃ e, call.perform now = (.error e, now))
      ∧ (∀ later, call.perform now = (.ok (), later) →
          call.answer now = .ok later
          ∧ ∃ batch, call.batch? = some batch ∧ now.Gained batch later)
      ∧ (∀ e later, call.perform now = (.error e, later) →
          call.answer now = .error e ∧ later = now)
      ∧ ∀ version role c, r.checklist? version role = some c →
          now.checklist? version role = some c := by
  intro now
  refine ⟨?free, ?unreadable, ?gained, fun e later failed => unchanged_of_failed failed,
    fun version role c known => checklist?_after known history⟩
  case free =>
    intro batch brings
    have answered := RegistryCall.answer_of_batch brings now
    constructor
    · rintro ⟨later, performed⟩
      obtain ⟨given, -⟩ := gained_of_performed performed
      exact (registerAll_eq_ok_iff.mp (answered.symm.trans given)).1
    · intro free
      have taken := registerAll_eq_ok_iff.mpr ⟨free, rfl⟩
      exact ⟨batch.foldl insert now, by rw [RegistryCall.perform_eq, answered, taken]⟩
  case unreadable =>
    intro brings
    obtain ⟨e, failed⟩ := RegistryCall.answer_of_no_batch brings now
    exact ⟨e, by rw [RegistryCall.perform_eq, failed]⟩
  case gained =>
    intro later performed
    obtain ⟨answered, batch, brings, -, gained⟩ := gained_of_performed performed
    exact ⟨answered, batch, brings, gained⟩

end Registry

end Lightpath
