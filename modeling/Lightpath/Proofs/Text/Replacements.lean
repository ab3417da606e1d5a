import Lightpath.Proofs.Port.RoleGrammar
import Lightpath.Text.Replace
import Mathlib.Data.List.Infix

/-!
The law of replacing one text by another. Every occurrence that is found from left to right is
replaced and nothing else is touched, so the number of occurrences says how often each character
stands in the result. A character that the replaced text lacks keeps what is left of it apart from
what is right of it.
-/

namespace Lightpath

namespace Text

-----------------------------------------------------------------------------------------
-- What replacing makes of a text
-----------------------------------------------------------------------------------------

/-- What the characters come to with some occurrences of a text replaced: as many as stated, found
from left to right, none within another.
-/
inductive Replaced (old new : List Char)
    : Nat → List Char → List Char → Prop
  | ended : Replaced old new 0 [] []
  | found {times : Nat} {cs result : List Char} (rest : Replaced old new times cs result)
    : Replaced old new (times + 1) (old ++ cs) (new ++ result)
  | passed {times : Nat} {c : Char} {cs result : List Char} (absent : ¬ old <+: c :: cs)
      (rest : Replaced old new times cs result)
    : Replaced old new times (c :: cs) (c :: result)

variable {old new : List Char}

theorem replaceFrom_skip (skip : Nat) (cs : List Char)
    : replaceFrom old new skip cs = replaceFrom old new 0 (cs.drop skip) := by
  induction cs generalizing skip with
  | nil => simp [replaceFrom]
  | cons c cs ih =>
      cases skip with
      | zero => rfl
      | succ skip => rw [replaceFrom, List.drop_succ_cons, ih]

theorem replaceFrom_occurrence (filled : old ≠ []) (cs : List Char)
    : replaceFrom old new 0 (old ++ cs) = new ++ replaceFrom old new 0 cs := by
  obtain ⟨a, more, rfl⟩ := List.exists_cons_of_ne_nil filled
  have here : dropFront? (a :: more) (a :: (more ++ cs)) = some cs :=
    PortName.dropFront?_eq_some_iff.mpr rfl
  rw [List.cons_append, replaceFrom, here, replaceFrom_skip]
  simp

theorem replaceFrom_other {c : Char} {cs : List Char} (absent : ¬ old <+: c :: cs)
    : replaceFrom old new 0 (c :: cs) = c :: replaceFrom old new 0 cs := by
  have none_here : dropFront? old (c :: cs) = none := by
    rw [Option.eq_none_iff_forall_ne_some]
    exact fun rest here => absent ⟨rest, (PortName.dropFront?_eq_some_iff.mp here).symm⟩
  rw [replaceFrom, none_here]

/-- Replacing goes by the rules. -/
theorem exists_replaced (filled : old ≠ []) (cs : List Char)
    : ∃ times, Replaced old new times cs (replaceFrom old new 0 cs) := by
  -- An occurrence takes more than one character at once, so the induction is on the length.
  induction size : cs.length using Nat.strong_induction_on generalizing cs with
  | _ total ih =>
      cases cs with
      | nil => exact ⟨0, by simpa [replaceFrom] using Replaced.ended⟩
      | cons c cs =>
          by_cases here : old <+: c :: cs
          · obtain ⟨rest, whole⟩ := here
            have shorter : rest.length < total := by
              have positive := List.length_pos_iff.mpr filled
              rw [← size, ← whole, List.length_append]
              omega
            obtain ⟨times, replaced⟩ := ih _ shorter rest rfl
            rw [← whole, replaceFrom_occurrence filled]
            exact ⟨times + 1, .found replaced⟩
          · have shorter : cs.length < total := by
              rw [← size]
              exact Nat.lt_succ_self _
            obtain ⟨times, replaced⟩ := ih _ shorter cs rfl
            rw [replaceFrom_other here]
            exact ⟨times, .passed here replaced⟩

namespace Replaced

/-- The rules leave no choice. -/
theorem eq_replaceFrom {times : Nat} {cs result : List Char} (filled : old ≠ [])
    (replaced : Replaced old new times cs result)
    : replaceFrom old new 0 cs = result := by
  induction replaced with
  | ended => rfl
  | found rest ih => rw [replaceFrom_occurrence filled, ih]
  | passed absent rest ih => rw [replaceFrom_other absent, ih]

-----------------------------------------------------------------------------------------
-- Counting
-----------------------------------------------------------------------------------------

/-- Each occurrence gives its own characters for those of what it is replaced by. -/
theorem count_eq {times : Nat} {cs result : List Char} (replaced : Replaced old new times cs result)
    (c : Char)
    : result.count c + times * old.count c = cs.count c + times * new.count c := by
  induction replaced with
  | ended => simp
  | found rest ih =>
      rw [List.count_append, List.count_append, Nat.succ_mul, Nat.succ_mul]
      omega
  | passed absent rest ih =>
      rw [List.count_cons, List.count_cons]
      omega

theorem eq_of_zero {cs result : List Char} (replaced : Replaced old new 0 cs result)
    : result = cs := by
  generalize none : 0 = times at replaced
  induction replaced with
  | ended => rfl
  | found rest ih => cases none
  | passed absent rest ih => rw [ih none]

/-- Nothing is replaced exactly where nothing occurs. -/
theorem eq_zero_iff {times : Nat} {cs result : List Char} (filled : old ≠ [])
    (replaced : Replaced old new times cs result)
    : times = 0 ↔ ¬ old <:+: cs := by
  induction replaced with
  | ended => simpa [List.infix_nil] using filled
  | found rest ih =>
      refine iff_of_false (Nat.succ_ne_zero _) (not_not_intro ?_)
      exact (List.prefix_append old _).isInfix
  | passed absent rest ih =>
      rw [ih, List.infix_cons_iff, not_or]
      exact (and_iff_right absent).symm

-----------------------------------------------------------------------------------------
-- Parts
-----------------------------------------------------------------------------------------

/-- An occurrence does not reach over a character that is not in it. -/
theorem prefix_of_apart {mark : Char} (apart : mark ∉ old) {cs cs' : List Char}
    (reaching : old <+: cs ++ mark :: cs')
    : old <+: cs := by
  obtain ⟨rest, whole⟩ := reaching
  rcases List.append_eq_append_iff.mp whole with ⟨more, inside, -⟩ | ⟨more, longer, beyond⟩
  · exact ⟨more, inside.symm⟩
  · cases more with
    | nil => exact ⟨[], by simp [longer]⟩
    | cons d more =>
        have first : mark = d := (List.cons.inj beyond).1
        exact absurd (by simp [longer, first]) apart

/-- What is left of a character that the replaced text lacks is replaced apart from what is right
of it.
-/
theorem append_mark {mark : Char} (apart : mark ∉ old) (filled : old ≠ [])
    {times times' : Nat} {cs result cs' result' : List Char}
    (left : Replaced old new times cs result) (right : Replaced old new times' cs' result')
    : Replaced old new (times + times') (cs ++ mark :: cs') (result ++ mark :: result') := by
  induction left with
  | ended =>
      rw [Nat.zero_add]
      refine .passed (fun reaching => filled ?_) right
      exact List.prefix_nil.mp (prefix_of_apart apart reaching)
  | found rest ih =>
      rw [Nat.add_right_comm, List.append_assoc, List.append_assoc]
      exact .found ih
  | passed absent rest ih =>
      exact .passed (fun reaching => absent (prefix_of_apart apart reaching)) ih

end Replaced

/-- One character is replaced wherever it stands. -/
theorem replaceFrom_char (a : Char) (new cs : List Char)
    : replaceFrom [a] new 0 cs = cs.flatMap (fun c => if c = a then new else [c]) := by
  induction cs with
  | nil => rfl
  | cons c cs ih =>
      rw [List.flatMap_cons, ← ih]
      by_cases here : c = a
      · rw [if_pos here, here]
        exact replaceFrom_occurrence (List.cons_ne_nil a []) cs
      · rw [if_neg here]
        exact replaceFrom_other (fun ⟨_, whole⟩ => here (List.cons.inj whole).1.symm)

-----------------------------------------------------------------------------------------
-- Texts
-----------------------------------------------------------------------------------------

theorem replaced_toList {old : String} (filled : old ≠ "") (new s : String)
    : ∃ times, Replaced old.toList new.toList times s.toList (replace s old new).toList := by
  rw [replace, String.toList_ofList]
  exact exists_replaced (mt String.toList_eq_nil_iff.mp filled) s.toList

theorem replace_of_absent {old s : String} (filled : old ≠ "") (new : String)
    (absent : ¬ old.toList <:+: s.toList)
    : replace s old new = s := by
  obtain ⟨times, replaced⟩ := replaced_toList filled new s
  have none_found : times = 0 :=
    (replaced.eq_zero_iff (mt String.toList_eq_nil_iff.mp filled)).mpr absent
  subst none_found
  exact String.toList_inj.mp replaced.eq_of_zero

/-- How often each character stands in a text with some others replaced, and that a text in which
none is found is as it was and has none.
-/
theorem exists_count_replace {old : String} (filled : old ≠ "") (new s : String)
    : ∃ times,
        (∀ c,
          (replace s old new).toList.count c + times * old.toList.count c
            = s.toList.count c + times * new.toList.count c)
        ∧ (times = 0 → replace s old new = s ∧ ¬ old.toList <:+: s.toList) := by
  obtain ⟨times, replaced⟩ := replaced_toList filled new s
  refine ⟨times, replaced.count_eq, ?_⟩
  rintro rfl
  have absent := (replaced.eq_zero_iff (mt String.toList_eq_nil_iff.mp filled)).mp rfl
  exact ⟨replace_of_absent filled new absent, absent⟩

theorem replace_append_mark {old new : String} {mark : Char} (apart : mark ∉ old.toList)
    (filled : old ≠ "") (s t : String)
    : replace (s ++ String.singleton mark ++ t) old new
      = replace s old new ++ String.singleton mark ++ replace t old new := by
  have filled_list := mt String.toList_eq_nil_iff.mp filled
  obtain ⟨_, left⟩ := replaced_toList filled new s
  obtain ⟨_, right⟩ := replaced_toList filled new t
  have whole := (Replaced.append_mark apart filled_list left right).eq_replaceFrom filled_list
  rw [← String.toList_inj, replace, String.toList_ofList]
  simpa [List.append_assoc] using whole

end Text

end Lightpath
