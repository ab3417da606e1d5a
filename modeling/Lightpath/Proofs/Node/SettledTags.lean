import Lightpath.Proofs.Model.Registration
import Mathlib.Data.List.DropRight
import Mathlib.Data.List.Infix
import Mathlib.Data.List.TakeWhile
import Mathlib.Logic.Function.Iterate

/-!
Version tags that are in their normal form. Blanks, a mark and a zero patch are each dropped once,
in this order, so that what is left can have more of them; then reading it again gives another
version. One pass is enough for the numbers of versions with up to three parts, and for any tag some
number of passes is.
-/

namespace Lightpath

-----------------------------------------------------------------------------------------
-- Trimming
-----------------------------------------------------------------------------------------

namespace Text

theorem trimChars_eq (cs : List Char)
    : trimChars cs = (cs.dropWhile isBlank).rdropWhile isBlank :=
  rfl

theorem trimChars_isInfix (cs : List Char)
    : trimChars cs <:+: cs := by
  have back : trimChars cs <+: cs.dropWhile isBlank := List.rdropWhile_prefix isBlank _
  exact back.isInfix.trans (List.dropWhile_suffix isBlank).isInfix

/-- Nothing is trimmed exactly if neither end is blank. -/
theorem trimChars_eq_self_iff {cs : List Char}
    : trimChars cs = cs
      ↔ (∀ c ∈ cs.head?, isBlank c = false) ∧ ∀ c ∈ cs.getLast?, isBlank c = false := by
  have front : cs.dropWhile isBlank = cs ↔ ∀ c ∈ cs.head?, isBlank c = false := by
    cases cs with
    | nil => simp
    | cons c rest => simp [List.dropWhile_eq_self_iff]
  have back : cs.rdropWhile isBlank = cs ↔ ∀ c ∈ cs.getLast?, isBlank c = false := by
    rw [List.rdropWhile_eq_self_iff]
    cases cs with
    | nil => simp
    | cons c rest => simp [List.getLast?_eq_some_getLast]
  rw [← front, ← back]
  constructor
  · intro same
    have kept : trimChars cs <+: cs.dropWhile isBlank := List.rdropWhile_prefix isBlank _
    have shorter := kept.length_le
    have whole : cs.dropWhile isBlank = cs := by
      refine (List.dropWhile_suffix isBlank).eq_of_length_le ?_
      rwa [same] at shorter
    rw [trimChars_eq, whole] at same
    exact ⟨whole, same⟩
  · intro whole
    rw [trimChars_eq, whole.1, whole.2]

/-- Blanks around a text without blanks are all that is trimmed. -/
theorem trimChars_around {before body after : List Char} (front : ∀ c ∈ before, isBlank c = true)
    (back : ∀ c ∈ after, isBlank c = true) (plain : ∀ c ∈ body, isBlank c = false)
    : trimChars (before ++ body ++ after) = body := by
  have whole : trimChars body = body := by
    rw [trimChars_eq_self_iff]
    exact ⟨fun c first => plain c (List.mem_of_mem_head? first),
      fun c last => plain c (List.mem_of_mem_getLast? last)⟩
  cases body with
  | nil =>
      have blank : ∀ c ∈ before ++ [] ++ after, isBlank c = true := by
        simpa [or_imp, forall_and] using And.intro front back
      rw [trimChars_eq, List.dropWhile_eq_nil_iff.mpr blank]
      rfl
  | cons c rest =>
      have first : isBlank c ≠ true := by simp [plain c List.mem_cons_self]
      rw [trimChars_eq, List.append_assoc, List.dropWhile_append_of_pos front, List.cons_append,
        List.dropWhile_cons_of_neg first, ← List.cons_append, List.rdropWhile,
        List.reverse_append, List.dropWhile_append_of_pos (by simpa using back)]
      rw [trimChars_eq, List.dropWhile_cons_of_neg first] at whole
      exact whole

end Text

namespace ModelVersion

open Text

-----------------------------------------------------------------------------------------
-- Marks and zero patches
-----------------------------------------------------------------------------------------

theorem dropMark_isSuffix (cs : List Char)
    : dropMark cs <:+ cs := by
  unfold dropMark
  split
  · exact List.suffix_cons _ _
  · exact List.suffix_cons _ _
  · exact List.suffix_rfl

theorem dropMark_eq_self_iff {cs : List Char}
    : dropMark cs = cs ↔ ∀ c ∈ cs.head?, c ≠ 'v' ∧ c ≠ 'V' := by
  unfold dropMark
  split
  · simp
  · simp
  · rename_i small capital
    refine iff_of_true rfl ?_
    intro c first
    cases cs with
    | nil => cases first
    | cons d rest =>
        cases first
        exact ⟨fun same => small rest (same ▸ rfl), fun same => capital rest (same ▸ rfl)⟩

/-- The text ends in a zero patch of a number that has a point without it. -/
def HasZeroPatch (cs : List Char)
    : Prop :=
  ∃ number, '.' ∈ number ∧ cs = number ++ ['.', '0']

theorem dropZeroPatch_append {number : List Char} (point : '.' ∈ number)
    : dropZeroPatch (number ++ ['.', '0']) = number := by
  simp [dropZeroPatch, point]

theorem dropZeroPatch_of_not {cs : List Char} (none : ¬ HasZeroPatch cs)
    : dropZeroPatch cs = cs := by
  unfold dropZeroPatch
  split
  · rename_i rest turned
    have whole : cs = rest.reverse ++ ['.', '0'] := by
      rw [← List.reverse_reverse cs, turned]
      simp
    split
    · rename_i point
      exact absurd ⟨rest.reverse, List.mem_reverse.mpr point, whole⟩ none
    · rfl
  · rfl

theorem dropZeroPatch_isPrefix (cs : List Char)
    : dropZeroPatch cs <+: cs := by
  by_cases patch : HasZeroPatch cs
  · obtain ⟨number, point, rfl⟩ := patch
    rw [dropZeroPatch_append point]
    exact List.prefix_append _ _
  · rw [dropZeroPatch_of_not patch]

theorem dropZeroPatch_eq_self_iff {cs : List Char}
    : dropZeroPatch cs = cs ↔ ¬ HasZeroPatch cs := by
  constructor
  · intro same patch
    obtain ⟨number, point, rfl⟩ := patch
    rw [dropZeroPatch_append point] at same
    have lengths := congrArg List.length same
    simp at lengths
  · exact dropZeroPatch_of_not

-----------------------------------------------------------------------------------------
-- Normal forms
-----------------------------------------------------------------------------------------

/-- The characters that are kept of a tag. -/
def normal (cs : List Char)
    : List Char :=
  dropZeroPatch (dropMark (trimChars cs))

theorem toList_ofTag (tag : String)
    : (ofTag tag).text.toList = normal tag.toList :=
  String.toList_ofList

/-- A text of which nothing is dropped: no end is blank, there is no mark at its head and no zero
patch at its end.
-/
structure Settled (cs : List Char)
    : Prop where
  front : ∀ c ∈ cs.head?, isBlank c = false ∧ c ≠ 'v' ∧ c ≠ 'V'
  back : ∀ c ∈ cs.getLast?, isBlank c = false
  patch : ¬ HasZeroPatch cs

theorem normal_isInfix (cs : List Char)
    : normal cs <:+: cs :=
  (dropZeroPatch_isPrefix _).isInfix.trans ((dropMark_isSuffix _).isInfix.trans (trimChars_isInfix cs))

theorem normal_eq_self_iff {cs : List Char}
    : normal cs = cs ↔ Settled cs := by
  constructor
  · intro same
    -- no step gives more than it got, so none of them can have dropped anything
    have patch := (dropZeroPatch_isPrefix (dropMark (trimChars cs))).length_le
    have mark := (dropMark_isSuffix (trimChars cs)).length_le
    have blanks := (trimChars_isInfix cs).length_le
    have lengths : (dropZeroPatch (dropMark (trimChars cs))).length = cs.length :=
      congrArg List.length same
    have trimmed : trimChars cs = cs := (trimChars_isInfix cs).eq_of_length (by omega)
    have unmarked : dropMark (trimChars cs) = trimChars cs :=
      (dropMark_isSuffix _).eq_of_length (by omega)
    have whole : dropZeroPatch (dropMark (trimChars cs)) = dropMark (trimChars cs) :=
      (dropZeroPatch_isPrefix _).eq_of_length (by omega)
    rw [trimmed] at unmarked whole
    rw [unmarked] at whole
    obtain ⟨front, back⟩ := trimChars_eq_self_iff.mp trimmed
    have unmarked := dropMark_eq_self_iff.mp unmarked
    exact {
      front := fun c first => ⟨front c first, unmarked c first⟩
      back := back
      patch := dropZeroPatch_eq_self_iff.mp whole
    }
  · intro settled
    have trimmed : trimChars cs = cs :=
      trimChars_eq_self_iff.mpr ⟨fun c first => (settled.front c first).1, settled.back⟩
    have unmarked : dropMark cs = cs :=
      dropMark_eq_self_iff.mpr fun c first => (settled.front c first).2
    rw [normal, trimmed, unmarked, dropZeroPatch_eq_self_iff]
    exact settled.patch

theorem ofTag_text_iff {v : ModelVersion}
    : ofTag v.text = v ↔ Settled v.text.toList := by
  rw [← normal_eq_self_iff, ← toList_ofTag]
  constructor
  · intro same
    rw [same]
  · intro same
    cases v
    exact congrArg ModelVersion.mk (String.toList_injective same)

/-- Each pass that changes a text makes it shorter, so there are no more than it has characters. -/
theorem exists_settled (cs : List Char)
    : ∃ n ≤ cs.length, Settled (normal^[n] cs) := by
  induction bound : cs.length using Nat.strong_induction_on generalizing cs with
  | _ length ih =>
      subst bound
      by_cases settled : Settled cs
      · exact ⟨0, Nat.zero_le _, settled⟩
      · have shorter : (normal cs).length < cs.length := by
          refine lt_of_le_of_ne (normal_isInfix cs).length_le fun same => settled ?_
          exact normal_eq_self_iff.mp ((normal_isInfix cs).eq_of_length same)
        obtain ⟨n, few, reached⟩ := ih _ shorter (normal cs) rfl
        refine ⟨n + 1, by omega, ?_⟩
        rwa [Function.iterate_succ_apply]

theorem toList_iterate_ofTag (n : Nat) (tag : String)
    : ((fun t => (ofTag t).text)^[n] tag).toList = normal^[n] tag.toList := by
  induction n generalizing tag with
  | zero => rfl
  | succ n ih => rw [Function.iterate_succ_apply, Function.iterate_succ_apply, ih, toList_ofTag]

-----------------------------------------------------------------------------------------
-- Numbers of versions
-----------------------------------------------------------------------------------------

/-- A tag states a number: it is the number behind one mark or none, with blanks around. -/
def States (tag : String) (number : List Char)
    : Prop :=
  ∃ before mark after,
    tag.toList = before ++ (mark ++ number) ++ after
    ∧ (∀ c ∈ before, isBlank c = true) ∧ (∀ c ∈ after, isBlank c = true)
    ∧ (mark = [] ∨ mark = ['v'] ∨ mark = ['V'])

/-- What can be the number of a version of up to three parts: no blank, no mark, two points. -/
structure IsNumber (number : List Char)
    : Prop where
  plain : ∀ c ∈ number, isBlank c = false ∧ c ≠ 'v' ∧ c ≠ 'V'
  points : number.count '.' ≤ 2

theorem States.toList_ofTag {tag : String} {number : List Char} (states : States tag number)
    (isNumber : IsNumber number)
    : (ofTag tag).text.toList = dropZeroPatch number := by
  obtain ⟨before, mark, after, whole, front, back, marks⟩ := states
  have plain : ∀ c ∈ mark ++ number, isBlank c = false := by
    intro c member
    rcases List.mem_append.mp member with inMark | inNumber
    · rcases marks with rfl | rfl | rfl
      · cases inMark
      · rw [List.mem_singleton.mp inMark]
        decide
      · rw [List.mem_singleton.mp inMark]
        decide
    · exact (isNumber.plain c inNumber).1
  have unmarked : dropMark (mark ++ number) = number := by
    rcases marks with rfl | rfl | rfl
    · refine dropMark_eq_self_iff.mpr fun c first => ?_
      exact (isNumber.plain c (List.mem_of_mem_head? first)).2
    · rfl
    · rfl
  rw [ModelVersion.toList_ofTag, normal, whole, trimChars_around front back plain, unmarked]

/-- The number of a version with up to three parts is settled by one pass. -/
theorem States.settled {tag : String} {number : List Char} (states : States tag number)
    (isNumber : IsNumber number)
    : Settled (ofTag tag).text.toList := by
  rw [states.toList_ofTag isNumber]
  have part := dropZeroPatch_isPrefix number
  have plain : ∀ c ∈ dropZeroPatch number, isBlank c = false ∧ c ≠ 'v' ∧ c ≠ 'V' :=
    fun c member => isNumber.plain c (part.subset member)
  refine {
    front := fun c first => plain c (List.mem_of_mem_head? first)
    back := fun c last => (plain c (List.mem_of_mem_getLast? last)).1
    patch := ?_
  }
  -- a second zero patch would bring a third point
  intro again
  by_cases patch : HasZeroPatch number
  · obtain ⟨rest, point, rfl⟩ := patch
    rw [dropZeroPatch_append point] at again
    obtain ⟨inner, innerPoint, rfl⟩ := again
    have inside : 0 < inner.count '.' := List.count_pos_iff.mpr innerPoint
    have patches : ['.', '0'].count '.' = 1 := by decide
    have points := isNumber.points
    rw [List.count_append, List.count_append, patches] at points
    omega
  · rw [dropZeroPatch_of_not patch] at again
    exact patch again

-----------------------------------------------------------------------------------------
-- Versions read back
-----------------------------------------------------------------------------------------

/-- A registry with one checklist knows no other version. -/
theorem checklist?_single (version other : ModelVersion) (c : Checklist)
    : ((({} : Registry).insert { version := version, checklists := [c] }).checklist? other c.role)
      = if other = version then some c else none := by
  rw [Registry.insert_eq, List.foldl_cons, List.foldl_nil, Registry.checklist?_place,
    Registry.checklist?_openTable]
  simp only [Prod.mk.injEq, and_true]
  rfl

theorem eq_of_same_checklists {v w : ModelVersion}
    (same : ∀ (r : Registry) role, r.checklist? w role = r.checklist? v role)
    : w = v := by
  have found := same (({} : Registry).insert { version := v, checklists := [⟨.shelf, []⟩] }) .shelf
  by_contra other
  rw [checklist?_single v w ⟨.shelf, []⟩, checklist?_single v v ⟨.shelf, []⟩, if_neg other,
    if_pos rfl] at found
  cases found

/-- The version of a tag is read back from its text, and the same checklists are found by what is
read, exactly if its text is settled. That is so if the tag states a number of up to three parts;
for any other tag it is so at the latest when it has been read as often as it has characters.
-/
theorem read_back_iff_settled (tag : String)
    : (ofTag (ofTag tag).text = ofTag tag ↔ Settled (ofTag tag).text.toList)
      ∧ (ofJson? (.string (ofTag tag).text) = some (ofTag tag) ↔ Settled (ofTag tag).text.toList)
      ∧ ((∀ (r : Registry) role,
          r.checklist? (ofTag (ofTag tag).text) role = r.checklist? (ofTag tag) role)
        ↔ Settled (ofTag tag).text.toList)
      ∧ (∀ number, States tag number → IsNumber number → Settled (ofTag tag).text.toList)
      ∧ ∃ n ≤ tag.length, Settled ((fun t => (ofTag t).text)^[n] tag).toList := by
  refine ⟨ofTag_text_iff, ?_, ?_, fun number states isNumber => states.settled isNumber, ?_⟩
  · rw [← ofTag_text_iff, ofJson?]
    exact Option.some_inj
  · rw [← ofTag_text_iff]
    constructor
    · exact eq_of_same_checklists
    · intro same r role
      rw [same]
  · obtain ⟨n, few, settled⟩ := exists_settled tag.toList
    refine ⟨n, few, ?_⟩
    rwa [toList_iterate_ofTag]

/-- A marked number of three parts with blanks around is read back as the version that it gives. -/
theorem read_back_iff_settled_marked
    : States " v7.1.0 " ['7', '.', '1', '.', '0']
      ∧ IsNumber ['7', '.', '1', '.', '0']
      ∧ ofJson? (.string (ofTag " v7.1.0 ").text) = some (ofTag " v7.1.0 ") := by
  have blank : ∀ c ∈ [' '], isBlank c = true := by
    rw [List.forall_mem_singleton]
    decide
  have states : States " v7.1.0 " ['7', '.', '1', '.', '0'] :=
    ⟨[' '], ['v'], [' '], rfl, blank, blank, Or.inr (Or.inl rfl)⟩
  have isNumber : IsNumber ['7', '.', '1', '.', '0'] := by
    refine ⟨?_, by decide⟩
    simp only [List.forall_mem_cons, List.not_mem_nil, false_implies, implies_true, and_true]
    decide
  obtain ⟨-, back, -, settled, -⟩ := read_back_iff_settled " v7.1.0 "
  exact ⟨states, isNumber, back.mpr (settled _ states isNumber)⟩

/-- Two tags whose versions are others when they are read back: a second zero patch is dropped only
then, and so is a blank behind the mark. A checklist is not found under the text of its version.
-/
theorem read_back_changes_version
    : ofTag (ofTag "9.1.0.0").text ≠ ofTag "9.1.0.0"
      ∧ ofTag (ofTag "v 9.1").text ≠ ofTag "v 9.1"
      ∧ let r := ({} : Registry).insert { version := ofTag "9.1.0.0", checklists := [⟨.shelf, []⟩] }
        (r.checklist? (ofTag "9.1.0.0") .shelf).isSome
        ∧ r.checklist? (ofTag (ofTag "9.1.0.0").text) .shelf = none := by
  decide +kernel

end ModelVersion

end Lightpath
