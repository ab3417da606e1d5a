import Lightpath.Model.Builtin
import Lightpath.Model.Report
import Lightpath.Proofs.Model.Registration
import Mathlib.Data.List.Basic

/-!
Which versions a registry knows, and of which it asks anything. A descriptor that goes through makes
its version known even if it brings no checklist, so a version can be known without a checklist for
any role. A device of such a version has no part that is checked, and is valid whatever it holds.
-/

namespace Lightpath

namespace Registry

/-- A registry asks something of a version: there is a checklist for one of its roles. -/
def Asks (r : Registry) (version : ModelVersion)
    : Prop :=
  ∃ role, (r.checklist? version role).isSome

-----------------------------------------------------------------------------------------
-- One descriptor
-----------------------------------------------------------------------------------------

/-- Something is asked of a version exactly if its table is not empty. -/
theorem asks_iff {r : Registry} {version : ModelVersion}
    : r.Asks version ↔ r.table version ≠ [] := by
  constructor
  · intro asks empty
    obtain ⟨role, found⟩ := asks
    rw [checklist?, empty] at found
    cases found
  · intro some
    obtain ⟨c, listed⟩ := List.exists_mem_of_ne_nil _ some
    exact ⟨c.role, List.find?_isSome.mpr ⟨c, listed, decide_eq_true rfl⟩⟩

theorem foldl_putChecklist_eq_nil_iff {brought table : List Checklist}
    : brought.foldl putChecklist table = [] ↔ table = [] ∧ brought = [] := by
  induction brought generalizing table with
  | nil => simp
  | cons c rest ih => simp [ih, putChecklist]

/-- A descriptor makes its version known, whatever it brings. -/
theorem contains_insert {r : Registry} {d : Descriptor} {version : ModelVersion}
    : (r.insert d).contains version = true
      ↔ r.contains version = true ∨ d.version = version := by
  have texts : version.text = d.version.text ↔ d.version = version := by
    cases version
    cases d.version
    simp [eq_comm]
  rw [contains, insert, Keyed.contains, Keyed.lookup_insert, contains, Keyed.contains]
  by_cases same : d.version = version
  · simp [same]
  · simp [same, texts]

/-- A descriptor asks something of its version if it brings a checklist. -/
theorem asks_insert {r : Registry} {d : Descriptor} {version : ModelVersion}
    : (r.insert d).Asks version
      ↔ r.Asks version ∨ (d.version = version ∧ d.checklists ≠ []) := by
  rw [asks_iff, asks_iff, insert, table_insert]
  by_cases same : version = d.version
  · subst same
    simp only [if_true, ne_eq, foldl_putChecklist_eq_nil_iff, true_and]
    exact not_and_or
  · simp [same, Ne.symm same]

-----------------------------------------------------------------------------------------
-- Many descriptors
-----------------------------------------------------------------------------------------

theorem contains_insertAll {batch : List Descriptor} {r : Registry} {version : ModelVersion}
    : (batch.foldl insert r).contains version = true
      ↔ r.contains version = true ∨ ∃ d ∈ batch, d.version = version := by
  induction batch generalizing r with
  | nil => simp
  | cons d rest ih =>
      rw [List.foldl_cons, ih, contains_insert, List.exists_mem_cons_iff, or_assoc]

theorem asks_insertAll {batch : List Descriptor} {r : Registry} {version : ModelVersion}
    : (batch.foldl insert r).Asks version
      ↔ r.Asks version ∨ ∃ d ∈ batch, d.version = version ∧ d.checklists ≠ [] := by
  induction batch generalizing r with
  | nil => simp
  | cons d rest ih =>
      rw [List.foldl_cons, ih, asks_insert, List.exists_mem_cons_iff, or_assoc]

theorem not_contains_empty (version : ModelVersion)
    : ¬ ({} : Registry).contains version = true :=
  nofun

theorem not_asks_empty (version : ModelVersion)
    : ¬ ({} : Registry).Asks version := by
  rw [asks_iff, not_not]
  rfl

/-- Each version in use has checklists. -/
theorem contains_builtin_iff {version : ModelVersion}
    : builtin.contains version = true ↔ builtin.Asks version := by
  have brings
      : ∀ d ∈ [Builtin.version121, Builtin.version221, Builtin.version71], d.checklists ≠ [] := by
    simp [Builtin.version121, Builtin.version221, Builtin.version71]
  rw [builtin, contains_insertAll, asks_insertAll, iff_false_intro (not_contains_empty version),
    iff_false_intro (not_asks_empty version)]
  refine or_congr_right (exists_congr fun d => and_congr_right fun member => ?_)
  exact (and_iff_left (brings d member)).symm

theorem contains_iff_asks {start : Registry} (origin : start = {} ∨ start = builtin)
    {version : ModelVersion}
    : start.contains version = true ↔ start.Asks version := by
  rcases origin with rfl | rfl
  · exact iff_of_false (not_contains_empty version) (not_asks_empty version)
  · exact contains_builtin_iff

end Registry

-----------------------------------------------------------------------------------------
-- Histories
-----------------------------------------------------------------------------------------

/-- The descriptors that a call brings into a registry: those of its batch if it goes through. -/
def RegistryCall.taken (r : Registry) (call : RegistryCall)
    : List Descriptor :=
  match call.answer r with
  | .ok _ => call.batch?.getD []
  | .error _ => []

/-- A call inserts what is taken of it. -/
theorem RegistryCall.perform_inserts (r : Registry) (call : RegistryCall)
    : (call.perform r).2 = (call.taken r).foldl Registry.insert r := by
  rw [perform_eq, taken]
  cases answered : call.answer r with
  | error e => rfl
  | ok later =>
      cases brings : call.batch? with
      | none =>
          obtain ⟨e, failed⟩ := answer_of_no_batch brings r
          simp [failed] at answered
      | some batch =>
          rw [answer_of_batch brings] at answered
          exact (Registry.registerAll_eq_ok_iff.mp answered).2

namespace Registry

/-- The descriptors that go through in a history, in order. -/
def taken (r : Registry)
    : List RegistryCall → List Descriptor
  | [] => []
  | call :: rest => call.taken r ++ taken (call.perform r).2 rest

/-- A history inserts what is taken of its calls. -/
theorem after_eq (r : Registry) (history : List RegistryCall)
    : r.after history = (r.taken history).foldl insert r := by
  induction history generalizing r with
  | nil => rfl
  | cons call rest ih =>
      rw [taken, List.foldl_append, ← RegistryCall.perform_inserts]
      exact ih (call.perform r).2

theorem contains_after_iff {start : Registry} {history : List RegistryCall}
    {version : ModelVersion}
    : (start.after history).contains version = true
      ↔ start.contains version = true ∨ ∃ d ∈ start.taken history, d.version = version := by
  rw [after_eq, contains_insertAll]

theorem asks_after_iff {start : Registry} (origin : start = {} ∨ start = builtin)
    {history : List RegistryCall} {version : ModelVersion}
    : (start.after history).Asks version
      ↔ start.contains version = true
        ∨ ∃ d ∈ start.taken history, d.version = version ∧ d.checklists ≠ [] := by
  rw [after_eq, asks_insertAll, contains_iff_asks origin]

/-- A version is made known for nothing: it was not known before, descriptors of it go through,
and none of them brings a checklist.
-/
def NamedInVain (r : Registry) (history : List RegistryCall) (version : ModelVersion)
    : Prop :=
  r.contains version = false
  ∧ (∃ d ∈ r.taken history, d.version = version)
  ∧ ∀ d ∈ r.taken history, d.version = version → d.checklists = []

/-- The known versions are those of which something is asked, but for those named in vain. -/
theorem contains_iff_asks_after_iff {start : Registry} (origin : start = {} ∨ start = builtin)
    {history : List RegistryCall} {version : ModelVersion}
    : ((start.after history).contains version = true ↔ (start.after history).Asks version)
      ↔ ¬ start.NamedInVain history version := by
  rw [contains_after_iff, asks_after_iff origin, NamedInVain]
  constructor
  · intro same vain
    obtain ⟨new, named, empty⟩ := vain
    rcases same.mp (Or.inr named) with old | ⟨d, member, names, brings⟩
    · simp [new] at old
    · exact brings (empty d member names)
  · intro useful
    constructor
    · intro named
      rcases named with old | named
      · exact Or.inl old
      · by_contra nothing
        obtain ⟨new, empty⟩ := not_or.mp nothing
        refine useful ⟨Bool.eq_false_iff.mpr new, named, ?_⟩
        intro d member names
        by_contra brings
        exact empty ⟨d, member, names, brings⟩
    · intro brought
      rcases brought with old | ⟨d, member, names, -⟩
      · exact Or.inl old
      · exact Or.inr ⟨d, member, names⟩

end Registry

-----------------------------------------------------------------------------------------
-- Devices of which nothing is asked
-----------------------------------------------------------------------------------------

/-- A checker of a version is made exactly if the registry knows it. -/
theorem Checker.ofRegistry_eq_ok_iff {r : Registry} {version : ModelVersion} {c : Checker}
    : Checker.ofRegistry r version = .ok c ↔ r.contains version = true ∧ c = ⟨r, version⟩ := by
  rw [Checker.ofRegistry]
  cases r.contains version <;> simp [eq_comm]

/-- Where nothing is asked of a version, no part of a device is checked. -/
theorem Checker.results_of_not_asks {c : Checker} (silent : ¬ c.registry.Asks c.version)
    (document : Json) (category : Option DeviceCategory)
    : (c.checkDevice document category).results = [] := by
  have unlisted : ∀ role, c.checklists role = none := by
    intro role
    by_contra listed
    exact silent ⟨role, Option.isSome_iff_ne_none.mpr listed⟩
  have unchecked : ∀ device tree, c.checkTree? device tree = none := by
    intro device tree
    rw [checkTree?, unlisted]
  rw [checkDevice, List.map_eq_nil_iff, List.filterMap_eq_nil_iff]
  exact fun tree _ => unchecked _ tree

namespace Registry

/-- After any history that starts from nothing or from the versions in use, a version is known if
it was at the start or a descriptor of it went through, but something is asked of it only if one of
these brought a checklist. The two differ exactly for the versions that were named in vain. A
checker is made for every known version, and where nothing is asked it finds a device valid as soon
as its category is known.
-/
theorem history_asks_of_named_versions {start : Registry} (origin : start = {} ∨ start = builtin)
    (history : List RegistryCall) (version : ModelVersion)
    : let now := start.after history
      (now.contains version = true
        ↔ start.contains version = true ∨ ∃ d ∈ start.taken history, d.version = version)
      ∧ (now.Asks version
        ↔ start.contains version = true
          ∨ ∃ d ∈ start.taken history, d.version = version ∧ d.checklists ≠ [])
      ∧ ((now.contains version = true ↔ now.Asks version)
        ↔ ¬ start.NamedInVain history version)
      ∧ ((∃ c, Checker.ofRegistry now version = .ok c) ↔ now.contains version = true)
      ∧ ∀ c, Checker.ofRegistry now version = .ok c → ¬ now.Asks version →
          ∀ document category,
            let report := c.checkDevice document category
            report.results = [] ∧ (report.isValid = true ↔ report.category.isSome) := by
  intro now
  refine ⟨contains_after_iff, asks_after_iff origin, contains_iff_asks_after_iff origin, ?_, ?_⟩
  · simp [Checker.ofRegistry_eq_ok_iff, now]
  · intro c made silent document category report
    obtain ⟨-, rfl⟩ := Checker.ofRegistry_eq_ok_iff.mp made
    have results : report.results = [] := Checker.results_of_not_asks silent document category
    refine ⟨results, ?_⟩
    rw [ConformanceReport.isValid, results]
    simp

/-- A history that names one version without a checklist and another one with a checklist. -/
def mixedHistory
    : List RegistryCall :=
  [.register { version := .ofTag "9.1" },
    .register { version := .ofTag "9.2", checklists := [⟨.shelf, []⟩] }]

/-- Of the versions in the history one is named in vain and the other is not. -/
theorem history_asks_of_named_versions_mixed
    : (builtin = {} ∨ builtin = builtin)
      ∧ builtin.NamedInVain mixedHistory (.ofTag "9.1")
      ∧ ¬ ((builtin.after mixedHistory).contains (.ofTag "9.1") = true
          ↔ (builtin.after mixedHistory).Asks (.ofTag "9.1"))
      ∧ (builtin.after mixedHistory).Asks (.ofTag "9.2") := by
  have vain : builtin.NamedInVain mixedHistory (.ofTag "9.1") := by
    rw [NamedInVain]
    decide +kernel
  obtain ⟨-, -, differ, -⟩ :=
    history_asks_of_named_versions (Or.inr rfl) mixedHistory (.ofTag "9.1")
  obtain ⟨-, asked, -⟩ :=
    history_asks_of_named_versions (Or.inr rfl) mixedHistory (.ofTag "9.2")
  exact ⟨Or.inr rfl, vain, fun same => differ.mp same vain, asked.mpr (by decide +kernel)⟩

/-- A version that is registered without a checklist is known, and an empty device passes for it. -/
theorem history_knows_version_without_checklist
    : let now := ({} : Registry).after [.register { version := .ofTag "9.1" }]
      now.contains (.ofTag "9.1") = true
      ∧ (∀ role, now.checklist? (.ofTag "9.1") role = none)
      ∧ ∃ c,
          Checker.ofRegistry now (.ofTag "9.1") = .ok c
          ∧ (c.checkDevice (.object []) (some .xponder)).isValid = true := by
  refine ⟨by decide +kernel, ?_, _, rfl, by decide +kernel⟩
  intro role
  rfl

end Registry

end Lightpath
