import Lightpath.Proofs.Json.Members
import Mathlib.Data.List.Perm.Basic

/-!
Equality of documents as an equivalence, and lists that are equal up to order. Numbers with
different bits can be equal, so equality is not identity, and a list is matched item by item with
whatever equals its items. Only a list of texts is matched by these texts alone.
-/

namespace Lightpath

instance : EquivBEq Double where
  rfl := Double.beq_iff.mpr (Or.inl rfl)
  symm {x y} same := by
    rcases Double.beq_iff.mp same with rfl | ⟨left, right⟩
    · exact same
    · exact Double.beq_iff.mpr (Or.inr ⟨right, left⟩)
  trans {x y z} first second := by
    rcases Double.beq_iff.mp first with rfl | ⟨left, -⟩
    · exact second
    · rcases Double.beq_iff.mp second with rfl | ⟨-, right⟩
      · exact first
      · exact Double.beq_iff.mpr (Or.inr ⟨left, right⟩)

instance : EquivBEq JsonNumber where
  rfl {n} := Json.number_beq_self n
  symm {m n} same := by
    cases m <;> cases n <;> simp only [BEq.beq, decide_eq_true_eq, Bool.false_eq_true] at same ⊢
    · exact same.symm
    · exact BEq.symm (α := Double) same
  trans {m n k} first second := by
    cases m <;> cases n <;> cases k <;>
      simp only [BEq.beq, decide_eq_true_eq, Bool.false_eq_true] at first second ⊢
    · exact first.trans second
    · exact BEq.trans (α := Double) first second

namespace Json

-----------------------------------------------------------------------------------------
-- Induction over documents
-----------------------------------------------------------------------------------------

/-- A fact of every document follows from that of its items and of the values of its members. -/
@[elab_as_elim]
theorem induction {motive : Json → Prop}
    (plain : ∀ v, v.isObject = false → v.items? = none → motive v)
    (array : ∀ items, (∀ v ∈ items, motive v) → motive (.array items))
    (object : ∀ members, (∀ m ∈ members, motive m.2) → motive (.object members)) (v : Json)
    : motive v := by
  refine Json.rec (motive_1 := motive) (motive_2 := fun items => ∀ v ∈ items, motive v)
    (motive_3 := fun members => ∀ m ∈ members, motive m.2) (motive_4 := fun m => motive m.2)
    (plain _ rfl rfl) (fun _ => plain _ rfl rfl) (fun _ => plain _ rfl rfl)
    (fun _ => plain _ rfl rfl) array object ?_ ?_ ?_ ?_ ?_ v
  · simp
  · intro head tail first rest
    exact List.forall_mem_cons.mpr ⟨first, rest⟩
  · simp
  · intro head tail first rest
    exact List.forall_mem_cons.mpr ⟨first, rest⟩
  · intro key value fact
    exact fact

-----------------------------------------------------------------------------------------
-- Equality
-----------------------------------------------------------------------------------------

/-- Lists that are related over a third one are related where their items are. -/
theorem forall₂_trans_of_mem {α : Type} {r : α → α → Prop} {front middle back : List α}
    (first : List.Forall₂ r front middle) (second : List.Forall₂ r middle back)
    (each : ∀ a ∈ front, ∀ b c, r a b → r b c → r a c)
    : List.Forall₂ r front back := by
  induction first generalizing back with
  | nil => exact second
  | cons here _ ih =>
      cases second with
      | cons there rest =>
          refine .cons (each _ List.mem_cons_self _ _ here there) (ih rest ?_)
          intro a member
          exact each a (List.mem_cons_of_mem _ member)

theorem equalItems_iff (items others : List Json)
    : equalItems items others = true ↔ List.Forall₂ (fun v w => equal v w = true) items others := by
  induction items generalizing others with
  | nil => cases others <;> simp [equalItems]
  | cons v rest ih => cases others <;> simp [equalItems, ih]

theorem equalMembers_iff (members others : List (String × Json))
    : equalMembers members others = true
      ↔ List.Forall₂ (fun m n => m.1 = n.1 ∧ equal m.2 n.2 = true) members others := by
  induction members generalizing others with
  | nil => cases others <;> simp [equalMembers]
  | cons m rest ih => cases others <;> simp [equalMembers, ih]

theorem exists_of_object_equal {members : List (String × Json)} {v : Json}
    (same : equal (.object members) v = true)
    : ∃ others, v = .object others ∧ equalMembers members others = true := by
  cases v with
  | object others => exact ⟨others, rfl, by simpa [equal] using same⟩
  | null | bool _ | number _ | string _ | array _ => simp [equal] at same

theorem exists_of_array_equal {items : List Json} {v : Json}
    (same : equal (.array items) v = true)
    : ∃ others, v = .array others ∧ equalItems items others = true := by
  cases v with
  | array others => exact ⟨others, rfl, by simpa [equal] using same⟩
  | null | bool _ | number _ | string _ | object _ => simp [equal] at same

theorem equal_symm {v w : Json} (same : equal v w = true)
    : equal w v = true := by
  induction v using induction generalizing w with
  | plain v single scalar =>
      cases v with
      | object members => simp [isObject] at single
      | array items => simp [items?] at scalar
      | number n =>
          cases w <;> simp only [equal, Bool.false_eq_true] at same ⊢
          exact BEq.symm same
      | null | bool _ | string _ => cases w <;> simp_all [equal]
  | array items ih =>
      obtain ⟨others, rfl, each⟩ := exists_of_array_equal same
      rw [equal, equalItems_iff]
      have both := (List.forall₂_and_left items others).mpr ⟨ih, (equalItems_iff _ _).mp each⟩
      exact List.Forall₂.flip (both.imp fun v w here => here.1 here.2)
  | object members ih =>
      obtain ⟨others, rfl, each⟩ := exists_of_object_equal same
      rw [equal, equalMembers_iff]
      have both := (List.forall₂_and_left members others).mpr ⟨ih, (equalMembers_iff _ _).mp each⟩
      exact List.Forall₂.flip (both.imp fun m n here => ⟨here.2.1.symm, here.1 here.2.2⟩)

theorem equal_trans {u v w : Json} (first : equal u v = true) (second : equal v w = true)
    : equal u w = true := by
  induction u using induction generalizing v w with
  | plain u single scalar =>
      cases u with
      | object members => simp [isObject] at single
      | array items => simp [items?] at scalar
      | number n =>
          cases v <;> simp only [equal, Bool.false_eq_true] at first
          cases w <;> simp only [equal, Bool.false_eq_true] at second ⊢
          exact BEq.trans first second
      | null | bool _ | string _ => cases v <;> cases w <;> simp_all [equal]
  | array items ih =>
      obtain ⟨others, rfl, front⟩ := exists_of_array_equal first
      obtain ⟨last, rfl, back⟩ := exists_of_array_equal second
      rw [equalItems_iff] at front back
      rw [equal, equalItems_iff]
      refine forall₂_trans_of_mem front back ?_
      intro u member v w here there
      exact ih u member here there
  | object members ih =>
      obtain ⟨others, rfl, front⟩ := exists_of_object_equal first
      obtain ⟨last, rfl, back⟩ := exists_of_object_equal second
      rw [equalMembers_iff] at front back
      rw [equal, equalMembers_iff]
      refine forall₂_trans_of_mem front back ?_
      intro u member v w here there
      exact ⟨here.1.trans there.1, ih u member here.2 there.2⟩

instance : EquivBEq Json where
  rfl {v} := equal_self v
  symm := equal_symm
  trans := equal_trans

-----------------------------------------------------------------------------------------
-- Equality up to order
-----------------------------------------------------------------------------------------

/-- A list is a rearrangement of another one if its items can be put in an order in which they
equal the items of the other one by one.
-/
def Rearranges (expected actual : List Json)
    : Prop :=
  ∃ arranged, List.Forall₂ (fun v w => (v == w) = true) expected arranged ∧ arranged.Perm actual

/-- Documents that are equal count as one. -/
def equality
    : Setoid Json :=
  ⟨fun v w => (v == w) = true, fun _ => BEq.rfl, BEq.symm, BEq.trans⟩

/-- A document up to equality. -/
def upToEquality
    : Json → Quotient equality :=
  Quotient.mk equality

theorem upToEquality_eq {v w : Json}
    : upToEquality v = upToEquality w ↔ (v == w) = true :=
  ⟨fun same => Quotient.exact same, fun same => Quotient.sound same⟩

/-- Items equal each other one by one exactly if they are the same up to equality. -/
theorem map_upToEquality_eq (items others : List Json)
    : items.map upToEquality = others.map upToEquality
      ↔ List.Forall₂ (fun v w => (v == w) = true) items others := by
  rw [← List.forall₂_eq_eq_eq, List.forall₂_map_left_iff, List.forall₂_map_right_iff]
  simp only [upToEquality_eq]

/-- Up to equality of documents a rearrangement is a permutation. -/
theorem rearranges_iff_perm {expected actual : List Json}
    : Rearranges expected actual
      ↔ (expected.map upToEquality).Perm (actual.map upToEquality) := by
  constructor
  · rintro ⟨arranged, equals, moved⟩
    rw [(map_upToEquality_eq _ _).mpr equals]
    exact moved.map upToEquality
  · intro moved
    -- each item up to equality is traced back to an item of the actual list
    have traced : List.Forall₂ (fun c w => c = upToEquality w) (actual.map upToEquality) actual :=
      List.forall₂_map_left_iff.mpr (List.forall₂_same.mpr fun _ _ => rfl)
    obtain ⟨arranged, equals, same⟩ := List.perm_comp_forall₂ moved traced
    refine ⟨arranged, ?_, same⟩
    simpa only [List.forall₂_map_left_iff, upToEquality_eq] using equals

theorem Rearranges.symm {expected actual : List Json} (moved : Rearranges expected actual)
    : Rearranges actual expected :=
  rearranges_iff_perm.mpr (rearranges_iff_perm.mp moved).symm

theorem Rearranges.trans {first second third : List Json} (here : Rearranges first second)
    (there : Rearranges second third)
    : Rearranges first third :=
  rearranges_iff_perm.mpr ((rearranges_iff_perm.mp here).trans (rearranges_iff_perm.mp there))

/-- What is removed from a list equals the sought document; the rest stays. -/
theorem perm_of_removeFirst? {v : Json} {items others : List Json}
    (removed : removeFirst? v items = some others)
    : (items.map upToEquality).Perm (upToEquality v :: others.map upToEquality) := by
  induction items generalizing others with
  | nil => simp [removeFirst?] at removed
  | cons w rest ih =>
      rw [removeFirst?] at removed
      split at removed
      · rename_i same
        cases removed
        rw [List.map_cons, upToEquality_eq.mpr same]
      · obtain ⟨left, within, rfl⟩ := Option.map_eq_some_iff.mp removed
        exact ((ih within).cons _).trans (List.Perm.swap _ _ _)

/-- Where nothing can be removed, no item equals the sought document. -/
theorem removeFirst?_eq_none {v : Json} {items : List Json}
    (kept : removeFirst? v items = none)
    : upToEquality v ∉ items.map upToEquality := by
  induction items with
  | nil => simp
  | cons w rest ih =>
      rw [removeFirst?] at kept
      split at kept
      · cases kept
      · rename_i other
        rw [Option.map_eq_none_iff] at kept
        rw [List.map_cons, List.mem_cons, not_or]
        exact ⟨fun same => other (upToEquality_eq.mp same.symm), ih kept⟩

/-- Items taken away one by one leave nothing exactly if the lists are equal up to order. -/
theorem sameItems_iff (expected actual : List Json)
    : sameItems expected actual = true ↔ Rearranges expected actual := by
  -- Up to equality it does not matter which of several equal items is taken.
  rw [rearranges_iff_perm]
  induction expected generalizing actual with
  | nil =>
      rw [sameItems, List.isEmpty_iff, List.map_nil, List.nil_perm, List.map_eq_nil_iff]
  | cons v rest ih =>
      rw [sameItems, List.map_cons]
      cases removed : removeFirst? v actual with
      | none =>
          refine iff_of_false Bool.false_ne_true ?_
          intro moved
          exact removeFirst?_eq_none removed (moved.subset List.mem_cons_self)
      | some others =>
          have split := perm_of_removeFirst? removed
          refine (ih others).trans ⟨fun moved => ?_, fun moved => ?_⟩
          · exact (moved.cons _).trans split.symm
          · exact (moved.trans split).cons_inv

-----------------------------------------------------------------------------------------
-- Lists of texts
-----------------------------------------------------------------------------------------

/-- What equals texts one by one is these texts. -/
theorem eq_ofStrings_of_equal {texts : List String} {items : List Json}
    (equals : List.Forall₂ (fun v w => (v == w) = true) (texts.map .string) items)
    : items = texts.map .string := by
  rw [List.forall₂_map_left_iff] at equals
  induction equals with
  | nil => rfl
  | @cons s v _ _ first _ ih =>
      have same : Json.string s = v := (covers_string s v).mp ((covers_leaf v rfl rfl).trans first)
      rw [List.map_cons, ih, same]

/-- A rearrangement of written texts is written texts. -/
theorem exists_texts_of_perm {texts : List String} {items : List Json}
    (moved : (texts.map Json.string).Perm items)
    : ∃ listed : List String, listed.Perm texts ∧ items = listed.map .string := by
  have written : List.Forall₂ (fun v s => v = Json.string s) (texts.map .string) texts :=
    List.forall₂_map_left_iff.mpr (List.forall₂_same.mpr fun _ _ => rfl)
  obtain ⟨listed, equals, same⟩ := List.perm_comp_forall₂ moved.symm written
  refine ⟨listed, same, ?_⟩
  rw [← List.forall₂_eq_eq_eq, List.forall₂_map_right_iff]
  exact equals

/-- A list of texts is covered by the same texts in whatever order and by nothing else. -/
theorem covers_ofStrings (texts : List String) (v : Json)
    : covers (ofStrings texts) v = true
      ↔ ∃ listed : List String, listed.Perm texts ∧ v = ofStrings listed := by
  constructor
  · intro covered
    cases v with
    | array items =>
        rw [ofStrings, covers_array, sameItems_iff] at covered
        obtain ⟨arranged, equals, moved⟩ := covered
        obtain rfl := eq_ofStrings_of_equal equals
        obtain ⟨listed, same, written⟩ := exists_texts_of_perm moved
        exact ⟨listed, same, congrArg Json.array written⟩
    | null | bool _ | number _ | string _ | object _ =>
        cases covered
  · intro rearranged
    obtain ⟨listed, moved, same⟩ := rearranged
    subst same
    rw [ofStrings, ofStrings, covers_array, sameItems_iff, rearranges_iff_perm]
    exact ((moved.symm.map .string).map upToEquality)

end Json

end Lightpath
