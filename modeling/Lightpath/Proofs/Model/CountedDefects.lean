import Lightpath.Proofs.Model.Conforming

/-!
Flags and defects of a conformance check never disagree: whatever is found not valid has a defect
that counts, and a defect that counts is held against whatever it was found in. This is carried
from the single leaf to a value, from there to a subtree, and from the subtrees to the report.
-/

namespace Lightpath

/-- A flag is down exactly if one of the defects beside it counts. -/
def FlagTells (valid : Bool) (defects : List StructuralDefect)
    : Prop :=
  valid = false ↔ ∃ d ∈ defects, d.severity = .error

/-- The flag of an outcome tells its defects. -/
def Outcome.Coherent (o : Outcome)
    : Prop :=
  FlagTells o.valid o.defects

-----------------------------------------------------------------------------------------
-- Findings put together
-----------------------------------------------------------------------------------------

namespace FlagTells

theorem append {valid more : Bool} {defects others : List StructuralDefect}
    (first : FlagTells valid defects) (second : FlagTells more others)
    : FlagTells (valid && more) (defects ++ others) := by
  unfold FlagTells at first second ⊢
  rw [Bool.and_eq_false_iff, first, second]
  simp only [List.mem_append, or_and_right, exists_or]

/-- A flag that is down as soon as one of many is tells the defects of all of them. -/
theorem all {α : Type} {valid : α → Bool} {defects : α → List StructuralDefect} {items : List α}
    (each : ∀ a ∈ items, FlagTells (valid a) (defects a))
    : FlagTells (items.all valid) (items.flatMap defects) := by
  induction items with
  | nil => simp [FlagTells]
  | cons first rest ih =>
      obtain ⟨here, later⟩ := List.forall_mem_cons.mp each
      rw [List.all_cons, List.flatMap_cons]
      exact here.append (ih later)

end FlagTells

namespace Outcome

theorem coherent_pass
    : pass.Coherent := by
  simp [Coherent, FlagTells, pass]

theorem coherent_fault {d : StructuralDefect} (counts : d.severity = .error)
    : (fault d).Coherent := by
  simp [Coherent, FlagTells, fault, counts]

theorem Coherent.append {a b : Outcome} (first : a.Coherent) (second : b.Coherent)
    : (a ++ b).Coherent :=
  FlagTells.append first second

theorem all_eq (outcomes : List Outcome)
    : all outcomes = ⟨outcomes.all Outcome.valid, outcomes.flatMap Outcome.defects⟩ := by
  induction outcomes with
  | nil => rfl
  | cons first rest ih =>
      rw [List.all_cons, List.flatMap_cons]
      show append first (all rest) = _
      rw [ih]
      rfl

theorem coherent_all {outcomes : List Outcome} (each : ∀ o ∈ outcomes, o.Coherent)
    : (all outcomes).Coherent := by
  rw [all_eq]
  exact FlagTells.all each

/-- A softened outcome is valid and nothing in it counts, whatever it was before. -/
theorem coherent_soften (o : Outcome)
    : o.soften.Coherent := by
  simp [Coherent, FlagTells, soften, StructuralDefect.soften]

end Outcome

namespace Conformance

variable {lists : Checklists}

-----------------------------------------------------------------------------------------
-- Parts of an instance
-----------------------------------------------------------------------------------------

theorem coherent_checkLeaf (role : StructuralRole) (path : String)
    (members : List (String × Json)) (rule : LeafRule)
    : (checkLeaf role path members rule).Coherent := by
  unfold checkLeaf
  split
  · exact Outcome.coherent_pass
  · split
    · exact Outcome.coherent_pass
    · exact Outcome.coherent_fault rfl

/-- The outcome of an attribute is coherent if the check of its value is. -/
theorem coherent_checkAttribute (role : StructuralRole) (path : String)
    {checks : List (String × PendingCheck)} {a : Attribute}
    (parts : ∀ check, checks.lookup a.name = some check →
      ∀ inner below, (check inner below).Coherent)
    : (checkAttribute role path checks a).Coherent := by
  unfold checkAttribute
  cases found : checks.lookup a.name with
  | none =>
      cases soft : a.soft with
      | true => simp [Outcome.Coherent, FlagTells, StructuralDefect.soften]
      | false => exact Outcome.coherent_fault rfl
  | some check =>
      cases a.nested with
      | none => exact Outcome.coherent_pass
      | some inner =>
          cases soft : a.soft with
          | true => exact Outcome.coherent_soften _
          | false => exact parts check found inner _

/-- The outcome of an object is coherent if the checks of its members are. -/
theorem coherent_checkObject (members : List (String × Json))
    {checks : List (String × PendingCheck)}
    (parts : ∀ name check, checks.lookup name = some check →
      ∀ inner below, (check inner below).Coherent)
    (role : StructuralRole) (path : String)
    : (checkObject lists members checks role path).Coherent := by
  unfold checkObject
  cases lists role with
  | none => exact Outcome.coherent_pass
  | some checklist =>
      refine Outcome.Coherent.append (Outcome.coherent_all ?_) (Outcome.coherent_all ?_)
      · refine List.forall_mem_map.mpr ?_
        exact fun a _ => coherent_checkAttribute role path (parts a.name)
      · refine List.forall_mem_map.mpr ?_
        exact fun rule _ => coherent_checkLeaf role path members rule

theorem coherent_refuse (role : StructuralRole) (path : String)
    : (refuse lists role path).Coherent := by
  unfold refuse
  split
  · exact Outcome.coherent_pass
  · exact Outcome.coherent_fault rfl

-----------------------------------------------------------------------------------------
-- Whole values
-----------------------------------------------------------------------------------------

/-- The outcome of a single instance is coherent if that of the value is. -/
theorem coherent_checkInstance {v : Json} {role : StructuralRole} {path : String}
    (whole : (checkValue lists v role path).Coherent)
    : (checkInstance lists role v path).Coherent := by
  unfold checkInstance
  split
  · exact whole
  · exact coherent_refuse role path

/-- The check of a value is coherent for every role. Induction on the document: a soft attribute
drops the flag of its subtree and takes the weight from its defects in one step.
-/
theorem coherent_checkValue (v : Json)
    : ∀ role path, (checkValue lists v role path).Coherent := by
  induction v using Json.induction with
  | plain v single scalar =>
      intro role path
      cases v with
      | object members => cases single
      | array items => cases scalar
      | null | bool _ | number _ | string _ => exact Outcome.coherent_fault rfl
  | array items ih =>
      intro role path
      rw [checkValue, checkItems_eq]
      refine Outcome.coherent_all ?_
      intro outcome member
      obtain ⟨i, inside, rfl⟩ := List.mem_mapIdx.mp member
      rw [List.getElem_map]
      have item := List.getElem_mem (l := items) (by simpa using inside)
      exact coherent_checkInstance (ih _ item role _)
  | object members ih =>
      intro role path
      refine coherent_checkObject members ?_ role path
      intro name check found inner below
      rw [lookup_checkMembers, Option.map_eq_some_iff] at found
      obtain ⟨part, held, rfl⟩ := found
      exact ih (name, part) (Keyed.mem_of_lookup held) inner below

end Conformance

namespace Checker

-----------------------------------------------------------------------------------------
-- Subtrees and the report
-----------------------------------------------------------------------------------------

/-- The defects that a subtree brings into a report; a subtree that is not checked brings none. -/
def contribution (c : Checker) (device : Json) (tree : DeviceTree)
    : List StructuralDefect :=
  ((c.checkTree? device tree).map TreeCheck.defects).getD []

/-- The check of a subtree is about that subtree, and its flag tells its defects. -/
theorem checkTree?_coherent {c : Checker} {device : Json} {tree : DeviceTree} {check : TreeCheck}
    (checked : c.checkTree? device tree = some check)
    : check.result.tree = tree ∧ FlagTells check.result.valid check.defects := by
  unfold checkTree? at checked
  split at checked
  · cases checked
  · split at checked
    · cases checked
      exact ⟨rfl, by simp [FlagTells]⟩
    · rename_i v _
      cases checked
      exact ⟨rfl, Conformance.coherent_checkValue v tree.role tree.key⟩

/-- The defects of the checks of some subtrees are what those subtrees contribute. -/
theorem flatMap_contribution (c : Checker) (device : Json) (trees : List DeviceTree)
    : (trees.filterMap (c.checkTree? device)).flatMap TreeCheck.defects
      = trees.flatMap (c.contribution device) := by
  induction trees with
  | nil => rfl
  | cons tree rest ih =>
      rw [List.filterMap_cons, List.flatMap_cons, ← ih, contribution]
      cases c.checkTree? device tree <;> rfl

/-- The result of a subtree in a report is down exactly if the subtree contributed a defect that
counts.
-/
theorem result_tells_contribution {c : Checker} {document : Json}
    {category : Option DeviceCategory} {result : TreeResult}
    (listed : result ∈ (c.checkDevice document category).results)
    : FlagTells result.valid (c.contribution (deviceRoot document) result.tree) := by
  obtain ⟨check, member, rfl⟩ := List.mem_map.mp listed
  obtain ⟨tree, -, checked⟩ := List.mem_filterMap.mp member
  obtain ⟨rfl, tells⟩ := checkTree?_coherent checked
  rw [contribution, checked]
  exact tells

/-- The flag of a report tells its defects: first whether the category is known, then what the
subtrees have.
-/
theorem isValid_tells_defects (c : Checker) (document : Json)
    (category : Option DeviceCategory)
    : let report := c.checkDevice document category
      FlagTells report.isValid report.defects := by
  intro report
  have opening
      : FlagTells report.category.isSome
          (if report.category.isNone then [unknownCategory] else []) := by
    cases report.category <;> simp [FlagTells, unknownCategory]
  have trees
      : ∀ check ∈ (DeviceTree.required report.category).filterMap
            (c.checkTree? (deviceRoot document)),
          FlagTells check.result.valid check.defects := by
    intro check member
    obtain ⟨tree, -, checked⟩ := List.mem_filterMap.mp member
    exact (checkTree?_coherent checked).2
  have whole := opening.append (FlagTells.all trees)
  rw [ConformanceReport.isValid]
  simpa only [report, checkDevice, List.all_map, Function.comp_def] using whole

/-- The flags of a checker never disagree with its defects. A part is found not valid exactly if a
defect that counts was found in it, and so is a subtree. A report holds what its subtrees
contribute, after the missing category if it is not known; the result of a subtree is down exactly
if the subtree contributed a defect that counts, and the report is valid exactly if it has none.
-/
theorem flags_tell_errors (c : Checker)
    : (∀ role v path,
        let outcome := c.checkRole role v path
        outcome.valid = false ↔ ∃ d ∈ outcome.defects, d.severity = .error)
      ∧ (∀ device tree check, c.checkTree? device tree = some check →
          (check.result.valid = false ↔ ∃ d ∈ check.defects, d.severity = .error))
      ∧ ∀ document category,
          let report := c.checkDevice document category
          let device := deviceRoot document
          report.defects
            = (if report.category.isNone then [unknownCategory] else [])
              ++ (DeviceTree.required report.category).flatMap (c.contribution device)
          ∧ (∀ result ∈ report.results,
              result.valid = false
              ↔ ∃ d ∈ c.contribution device result.tree, d.severity = .error)
          ∧ (report.isValid = true ↔ report.errors = []) := by
  refine ⟨?roles, ?trees, ?reports⟩
  case roles =>
    intro role v path
    exact Conformance.coherent_checkInstance (Conformance.coherent_checkValue v role path)
  case trees => exact fun device tree check checked => (checkTree?_coherent checked).2
  case reports =>
    intro document category report device
    refine ⟨?contents, fun result listed => result_tells_contribution listed, ?verdict⟩
    case contents =>
      rw [← flatMap_contribution]
      rfl
    case verdict =>
      have tells : FlagTells report.isValid report.defects :=
        isValid_tells_defects c document category
      rw [FlagTells] at tells
      rw [← Bool.not_eq_false, tells, ConformanceReport.errors, List.filter_eq_nil_iff]
      simp [StructuralDefect.isError]

end Checker

end Lightpath
