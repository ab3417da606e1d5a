import Lightpath.Json.Reader
import Lightpath.Proofs.Json.Equality

/-!
The comparison of an expected and an actual document decides a relation of its own: members are
sought by name at every depth, arrays are compared up to order, and everything else is equal. The
relation is a preorder whose equivalence is equality up to the order of arrays that names alone
lead to.
-/

namespace Lightpath

namespace Json

-----------------------------------------------------------------------------------------
-- Well-formed documents
-----------------------------------------------------------------------------------------

/-- A document as it is read: the members of every object ascend by their names, each name once.
-/
inductive WellFormed : Json → Prop
  | plain {v} (single : v.isObject = false) (scalar : v.items? = none)
    : WellFormed v
  | array {items} (each : ∀ v ∈ items, WellFormed v)
    : WellFormed (.array items)
  | object {members} (ascending : Keyed.Ascending members) (each : ∀ m ∈ members, WellFormed m.2)
    : WellFormed (.object members)

theorem WellFormed.members {members : List (String × Json)}
    (wellFormed : WellFormed (.object members))
    : Keyed.Ascending members ∧ ∀ m ∈ members, WellFormed m.2 := by
  cases wellFormed with
  | plain single _ => simp [isObject] at single
  | object ascending each => exact ⟨ascending, each⟩

/-- A document built from members is well formed as their values are. -/
theorem wellFormed_ofMembers {members : List (String × Json)}
    (each : ∀ m ∈ members, WellFormed m.2)
    : WellFormed (ofMembers members) := by
  refine .object (Keyed.ascending_ofList members) ?_
  intro m member
  exact each m (Keyed.mem_of_mem_ofList member)

theorem sortedItems_eq (items : List Json)
    : sortedItems items = items.map sorted := by
  induction items with
  | nil => rfl
  | cons v rest ih => rw [sortedItems, ih, List.map_cons]

theorem sortedMembers_eq (members : List (String × Json))
    : sortedMembers members = members.map fun m => (m.1, sorted m.2) := by
  induction members with
  | nil => rfl
  | cons m rest ih => rw [sortedMembers, ih, List.map_cons]

/-- Putting the members of all objects in order makes a document well formed. -/
theorem wellFormed_sorted (v : Json)
    : WellFormed (sorted v) := by
  induction v using induction with
  | plain v single scalar =>
      have same : sorted v = v := by
        cases v with
        | object members => simp [isObject] at single
        | array items => simp [items?] at scalar
        | null | bool _ | number _ | string _ => rfl
      rw [same]
      exact .plain single scalar
  | array items ih =>
      rw [sorted, sortedItems_eq]
      refine .array ?_
      intro v member
      obtain ⟨item, inItems, rfl⟩ := List.mem_map.mp member
      exact ih item inItems
  | object members ih =>
      rw [sorted, sortedMembers_eq]
      refine wellFormed_ofMembers ?_
      intro m member
      obtain ⟨field, inMembers, rfl⟩ := List.mem_map.mp member
      exact ih field inMembers

/-- Every document that is read from a text is well formed. -/
theorem wellFormed_of_parse {text : String} {v : Json} (read : parse? text = some v)
    : WellFormed v := by
  rw [parse?] at read
  split at read
  · split at read
    · cases read
      exact wellFormed_sorted _
    · cases read
  · cases read

-----------------------------------------------------------------------------------------
-- Containment
-----------------------------------------------------------------------------------------

/-- What one document states is within another. An object states its members, an array its items
in whatever order, and any other document itself.
-/
inductive Within : Json → Json → Prop
  | object {fields members} (named : ∀ k ∈ Keyed.keys fields, k ∈ Keyed.keys members)
    (valued : ∀ k v w, (k, v) ∈ fields → members.lookup k = some w → Within v w)
    : Within (.object fields) (.object members)
  | array {expected actual} (moved : Rearranges expected actual)
    : Within (.array expected) (.array actual)
  | other {expected actual} (noObjects : expected.isObject = false ∨ actual.isObject = false)
    (noArrays : expected.items? = none ∨ actual.items? = none)
    (same : (expected == actual) = true)
    : Within expected actual

/-- Values that are not both objects and not both arrays cover each other as they are equal. -/
theorem covers_apart {expected actual : Json}
    (noObjects : expected.isObject = false ∨ actual.isObject = false)
    (noArrays : expected.items? = none ∨ actual.items? = none)
    : covers expected actual = (expected == actual) := by
  cases expected with
  | null | bool _ | number _ | string _ => exact covers_leaf actual rfl rfl
  | array items =>
      cases actual with
      | array others => simp [items?] at noArrays
      | null | bool _ | number _ | string _ | object _ => rfl
  | object fields =>
      cases actual with
      | object members => simp [isObject] at noObjects
      | null | bool _ | number _ | string _ | array _ => rfl

/-- An object is within another one exactly if each of its members is found there with a value
that it is within.
-/
theorem within_object (fields members : List (String × Json))
    : Within (.object fields) (.object members)
      ↔ ∀ f ∈ fields, ∃ v, members.lookup f.1 = some v ∧ Within f.2 v := by
  constructor
  · intro within
    cases within with
    | object named valued =>
        rintro ⟨k, v⟩ member
        have inKeys := named k (List.mem_map_of_mem member)
        obtain ⟨w, found⟩ := Option.isSome_iff_exists.mp (Keyed.isSome_lookup.mpr inKeys)
        exact ⟨w, found, valued k v w member found⟩
    | other noObjects => simp [isObject] at noObjects
  · intro each
    refine .object ?_ ?_
    · intro k inKeys
      obtain ⟨f, member, rfl⟩ := List.mem_map.mp inKeys
      obtain ⟨w, found, -⟩ := each f member
      exact Keyed.mem_keys_of_lookup found
    · intro k v w member found
      obtain ⟨u, also, within⟩ := each (k, v) member
      obtain rfl : w = u := Option.some.inj (found.symm.trans also)
      exact within

theorem exists_of_object_within {fields : List (String × Json)} {actual : Json}
    (within : Within (.object fields) actual)
    : ∃ members, actual = .object members := by
  cases within with
  | @object _ members => exact ⟨members, rfl⟩
  | other _ _ same =>
      obtain ⟨members, rfl, -⟩ := exists_of_object_equal same
      exact ⟨members, rfl⟩

theorem exists_of_array_within {items : List Json} {actual : Json}
    (within : Within (.array items) actual)
    : ∃ others, actual = .array others ∧ Rearranges items others := by
  cases within with
  | @array _ others moved => exact ⟨others, rfl, moved⟩
  | other _ noArrays same =>
      obtain ⟨others, rfl, -⟩ := exists_of_array_equal same
      simp [items?] at noArrays

/-- Any other document is within what equals it. -/
theorem equal_of_within {expected actual : Json} (single : expected.isObject = false)
    (scalar : expected.items? = none) (within : Within expected actual)
    : (expected == actual) = true := by
  cases within with
  | object => simp [isObject] at single
  | array => simp [items?] at scalar
  | other _ _ same => exact same

/-- Below the root a value covers what is within it and nothing else. -/
theorem covers_iff_within (expected actual : Json)
    : covers expected actual = true ↔ Within expected actual := by
  induction expected using induction generalizing actual with
  | plain v single scalar =>
      rw [covers_apart (Or.inl single) (Or.inl scalar)]
      exact ⟨.other (Or.inl single) (Or.inl scalar), equal_of_within single scalar⟩
  | array items ih =>
      by_cases isArray : ∃ others, actual = .array others
      · obtain ⟨others, rfl⟩ := isArray
        rw [covers_array, sameItems_iff]
        refine ⟨.array, fun within => ?_⟩
        obtain ⟨_, same, moved⟩ := exists_of_array_within within
        cases same
        exact moved
      · have noArray : actual.items? = none := by
          cases actual with
          | array others => exact absurd ⟨others, rfl⟩ isArray
          | null | bool _ | number _ | string _ | object _ => rfl
        rw [covers_apart (Or.inl rfl) (Or.inr noArray)]
        refine ⟨.other (Or.inl rfl) (Or.inr noArray), fun within => ?_⟩
        obtain ⟨others, isOthers, -⟩ := exists_of_array_within within
        exact absurd ⟨others, isOthers⟩ isArray
  | object fields ih =>
      by_cases isObject : ∃ members, actual = .object members
      · obtain ⟨members, rfl⟩ := isObject
        rw [covers_object, within_object]
        refine forall₂_congr fun f member => exists_congr fun v => and_congr_right fun _ => ?_
        exact ih f member v
      · have noObject : actual.isObject = false := by
          cases actual with
          | object members => exact absurd ⟨members, rfl⟩ isObject
          | null | bool _ | number _ | string _ | array _ => rfl
        rw [covers_apart (Or.inr noObject) (Or.inl rfl)]
        refine ⟨.other (Or.inr noObject) (Or.inl rfl), fun within => ?_⟩
        exact absurd (exists_of_object_within within) isObject

/-- A document is a subset of another one exactly if it is within it, or if it is the empty
object: at the root that is not compared with what it stands against.
-/
theorem isSubset_iff_within (expected actual : Json)
    : isSubset expected actual = true ↔ Within expected actual ∨ expected = .object [] := by
  cases expected with
  | object fields =>
      rw [isSubset_object, object.injEq]
      by_cases isObject : ∃ members, actual = .object members
      · obtain ⟨members, rfl⟩ := isObject
        simp only [covers_iff_within]
        refine (within_object fields members).symm.trans ?_
        refine ⟨Or.inl, fun either => either.elim id ?_⟩
        rintro rfl
        exact (within_object [] members).mpr (by simp)
      · have unnamed : ∀ name, actual.get? name = none := by
          intro name
          cases actual with
          | object members => exact absurd ⟨members, rfl⟩ isObject
          | null | bool _ | number _ | string _ | array _ => rfl
        have apart : ¬ Within (.object fields) actual := fun within =>
          isObject (exists_of_object_within within)
        rw [or_iff_right apart, List.eq_nil_iff_forall_not_mem]
        simp [unnamed]
  | null | bool _ | number _ | string _ | array _ =>
      exact (covers_iff_within _ actual).trans (or_iff_left (by simp)).symm

-----------------------------------------------------------------------------------------
-- A preorder
-----------------------------------------------------------------------------------------

/-- Containment can be chained. -/
theorem Within.trans {first second third : Json} (here : Within first second)
    (there : Within second third)
    : Within first third := by
  induction first using induction generalizing second third with
  | plain v single scalar =>
      have same := equal_of_within single scalar here
      have noObject : second.isObject = false := by
        cases second with
        | object members =>
            obtain ⟨fields, rfl, -⟩ := exists_of_object_equal (equal_symm same)
            simp [isObject] at single
        | null | bool _ | number _ | string _ | array _ => rfl
      have noArray : second.items? = none := by
        cases second with
        | array items =>
            obtain ⟨others, rfl, -⟩ := exists_of_array_equal (equal_symm same)
            simp [items?] at scalar
        | null | bool _ | number _ | string _ | object _ => rfl
      exact .other (Or.inl single) (Or.inl scalar)
        (BEq.trans same (equal_of_within noObject noArray there))
  | array items ih =>
      obtain ⟨others, rfl, moved⟩ := exists_of_array_within here
      obtain ⟨last, rfl, also⟩ := exists_of_array_within there
      exact .array (moved.trans also)
  | object fields ih =>
      obtain ⟨members, rfl⟩ := exists_of_object_within here
      obtain ⟨last, rfl⟩ := exists_of_object_within there
      rw [within_object] at here there ⊢
      intro f member
      obtain ⟨v, found, within⟩ := here f member
      obtain ⟨w, also, further⟩ := there (f.1, v) (Keyed.mem_of_lookup found)
      exact ⟨w, also, ih f member within further⟩

theorem eq_of_within_empty {v : Json} (within : Within v (.object []))
    : v = .object [] := by
  cases within with
  | @object fields _ named _ =>
      cases fields with
      | nil => rfl
      | cons f rest => exact absurd (named f.1 List.mem_cons_self) (List.not_mem_nil)
  | other _ _ same =>
      obtain ⟨others, rfl, none⟩ := exists_of_object_equal (equal_symm same)
      cases others with
      | nil => rfl
      | cons m rest => simp [equalMembers] at none

/-- Being a subset can be chained, the empty object included. -/
theorem isSubset_trans {first second third : Json} (here : isSubset first second = true)
    (there : isSubset second third = true)
    : isSubset first third = true := by
  rw [isSubset_iff_within] at here there ⊢
  rcases here with within | empty
  · rcases there with further | rfl
    · exact Or.inl (within.trans further)
    · exact Or.inr (eq_of_within_empty within)
  · exact Or.inr empty

-----------------------------------------------------------------------------------------
-- Equality up to the order of arrays
-----------------------------------------------------------------------------------------

mutual

/-- The second document is the first one with some arrays reordered, none of them inside another
array.
-/
inductive Reordered : Json → Json → Prop
  | keep (v : Json)
    : Reordered v v
  | array {items others : List Json} (moved : items.Perm others)
    : Reordered (.array items) (.array others)
  | object {members others : List (String × Json)} (each : ReorderedMembers members others)
    : Reordered (.object members) (.object others)

/-- Members in their order, each with its value reordered. -/
inductive ReorderedMembers : List (String × Json) → List (String × Json) → Prop
  | nil
    : ReorderedMembers [] []
  | cons {rest others : List (String × Json)} (name : String) {v w : Json}
    (first : Reordered v w) (each : ReorderedMembers rest others)
    : ReorderedMembers ((name, v) :: rest) ((name, w) :: others)

end

/-- Two documents are equal once arrays that names alone lead to are put in a suitable order. -/
def EqualUpToOrder (first second : Json)
    : Prop :=
  ∃ v, Reordered first v ∧ (v == second) = true

theorem reorderedMembers_keep (members : List (String × Json))
    : ReorderedMembers members members := by
  induction members with
  | nil => exact .nil
  | cons m rest ih => exact .cons m.1 (.keep m.2) ih

/-- Members are equal up to order exactly if they have the same names and values that are. -/
theorem reorderedMembers_equal_iff (fields members : List (String × Json))
    : (∃ others, ReorderedMembers fields others ∧ equalMembers others members = true)
      ↔ List.Forall₂ (fun f m => f.1 = m.1 ∧ EqualUpToOrder f.2 m.2) fields members := by
  constructor
  · rintro ⟨others, each, same⟩
    rw [equalMembers_iff] at same
    induction fields generalizing others members with
    | nil =>
        cases each
        cases same
        exact .nil
    | cons f rest ih =>
        cases each with
        | cons name first later =>
            cases same with
            | cons here also => exact .cons ⟨here.1, _, first, here.2⟩ (ih _ _ later also)
  · intro each
    induction each with
    | nil => exact ⟨[], .nil, rfl⟩
    | @cons f m _ _ first _ ih =>
        obtain ⟨same, v, reordered, equal⟩ := first
        obtain ⟨others, later, also⟩ := ih
        refine ⟨(f.1, v) :: others, .cons f.1 reordered later, ?_⟩
        rw [equalMembers, also, Bool.and_true, Bool.and_eq_true, beq_iff_eq]
        exact ⟨same, equal⟩

/-- An object is equal up to order to objects whose members are. -/
theorem equalUpToOrder_object (fields : List (String × Json)) (v : Json)
    : EqualUpToOrder (.object fields) v
      ↔ ∃ members, v = .object members
          ∧ List.Forall₂ (fun f m => f.1 = m.1 ∧ EqualUpToOrder f.2 m.2) fields members := by
  constructor
  · rintro ⟨w, reordered, same⟩
    have isObject : ∃ others, w = .object others ∧ ReorderedMembers fields others := by
      cases reordered with
      | keep => exact ⟨fields, rfl, reorderedMembers_keep fields⟩
      | object each => exact ⟨_, rfl, each⟩
    obtain ⟨others, rfl, each⟩ := isObject
    obtain ⟨members, rfl, equal⟩ := exists_of_object_equal same
    exact ⟨members, rfl, (reorderedMembers_equal_iff _ _).mp ⟨others, each, equal⟩⟩
  · rintro ⟨members, rfl, each⟩
    obtain ⟨others, reordered, equal⟩ := (reorderedMembers_equal_iff _ _).mpr each
    exact ⟨.object others, .object reordered, equal⟩

/-- An array is equal up to order to its rearrangements. -/
theorem equalUpToOrder_array (items : List Json) (v : Json)
    : EqualUpToOrder (.array items) v ↔ ∃ others, v = .array others ∧ Rearranges items others := by
  have swapped (others : List Json)
      : Rearranges items others
        ↔ ∃ moved : List Json,
            items.Perm moved ∧ List.Forall₂ (fun v w => (v == w) = true) moved others :=
    iff_of_eq (congrFun₂ List.forall₂_comp_perm_eq_perm_comp_forall₂ items others)
  constructor
  · rintro ⟨w, reordered, same⟩
    have isArray : ∃ moved, w = .array moved ∧ items.Perm moved := by
      cases reordered with
      | keep => exact ⟨items, rfl, List.Perm.refl items⟩
      | array moved => exact ⟨_, rfl, moved⟩
    obtain ⟨moved, rfl, permuted⟩ := isArray
    obtain ⟨others, rfl, equal⟩ := exists_of_array_equal same
    exact ⟨others, rfl, (swapped others).mpr ⟨moved, permuted, (equalItems_iff _ _).mp equal⟩⟩
  · rintro ⟨others, rfl, rearranged⟩
    obtain ⟨moved, permuted, equal⟩ := (swapped others).mp rearranged
    exact ⟨.array moved, .array permuted, (equalItems_iff _ _).mpr equal⟩

/-- Objects within each other have the same names, and so in the same order. -/
theorem keys_eq_of_within_within {fields members : List (String × Json)}
    (ascending : Keyed.Ascending fields) (also : Keyed.Ascending members)
    (here : Within (.object fields) (.object members))
    (there : Within (.object members) (.object fields))
    : Keyed.keys fields = Keyed.keys members := by
  rw [within_object] at here there
  refine ascending.keys_eq also fun key => ⟨fun inFields => ?_, fun inMembers => ?_⟩
  · obtain ⟨f, member, rfl⟩ := List.mem_map.mp inFields
    obtain ⟨w, found, -⟩ := here f member
    exact Keyed.mem_keys_of_lookup found
  · obtain ⟨m, member, rfl⟩ := List.mem_map.mp inMembers
    obtain ⟨w, found, -⟩ := there m member
    exact Keyed.mem_keys_of_lookup found

/-- Well-formed documents that are within each other are those that are equal up to order. -/
theorem within_within_iff {first second : Json} (firstFormed : WellFormed first)
    (secondFormed : WellFormed second)
    : Within first second ∧ Within second first ↔ EqualUpToOrder first second := by
  induction first using induction generalizing second with
  | plain v single scalar =>
      constructor
      · rintro ⟨within, -⟩
        exact ⟨v, .keep v, equal_of_within single scalar within⟩
      · rintro ⟨w, reordered, same⟩
        have kept : w = v := by
          cases reordered with
          | keep => rfl
          | array => simp [items?] at scalar
          | object => simp [isObject] at single
        subst kept
        exact ⟨.other (Or.inl single) (Or.inl scalar) same,
          .other (Or.inr single) (Or.inr scalar) (BEq.symm same)⟩
  | array items ih =>
      rw [equalUpToOrder_array]
      constructor
      · rintro ⟨within, -⟩
        exact exists_of_array_within within
      · rintro ⟨others, rfl, rearranged⟩
        exact ⟨.array rearranged, .array rearranged.symm⟩
  | object fields ih =>
      obtain ⟨ascending, fieldsFormed⟩ := firstFormed.members
      rw [equalUpToOrder_object]
      constructor
      · rintro ⟨here, there⟩
        obtain ⟨members, rfl⟩ := exists_of_object_within here
        obtain ⟨also, membersFormed⟩ := secondFormed.members
        have named := keys_eq_of_within_within ascending also here there
        rw [within_object] at here there
        refine ⟨members, rfl, Keyed.forall₂_of_keys_eq named ?_⟩
        intro k v w inFields inMembers
        obtain ⟨u, found, forth⟩ := here (k, v) inFields
        obtain ⟨t, back, again⟩ := there (k, w) inMembers
        rw [Keyed.lookup_of_mem also.nodup inMembers] at found
        rw [Keyed.lookup_of_mem ascending.nodup inFields] at back
        cases found
        cases back
        exact (ih (k, v) inFields (fieldsFormed _ inFields) (membersFormed _ inMembers)).mp
          ⟨forth, again⟩
      · rintro ⟨members, rfl, each⟩
        obtain ⟨also, membersFormed⟩ := secondFormed.members
        rw [within_object, within_object]
        constructor
        · intro f member
          have stated := Keyed.lookup_of_mem ascending.nodup member
          obtain ⟨w, found, equal⟩ := Keyed.lookup_of_forall₂ each stated
          have formed := membersFormed _ (Keyed.mem_of_lookup found)
          exact ⟨w, found, ((ih f member (fieldsFormed f member) formed).mpr equal).1⟩
        · intro m member
          have stated := Keyed.lookup_of_mem also.nodup member
          have back
              : List.Forall₂ (fun m f => m.1 = f.1 ∧ EqualUpToOrder f.2 m.2) members fields :=
            List.Forall₂.flip (each.imp fun f m here => ⟨here.1.symm, here.2⟩)
          obtain ⟨v, found, equal⟩ :=
            Keyed.lookup_of_forall₂ (r := fun w v => EqualUpToOrder v w) back stated
          have inFields := Keyed.mem_of_lookup found
          have formed := fieldsFormed _ inFields
          exact ⟨v, found, ((ih _ inFields formed (membersFormed m member)).mpr equal).2⟩

-----------------------------------------------------------------------------------------
-- The laws of the comparison
-----------------------------------------------------------------------------------------

/-- The comparison decides containment, with one exception at the root: the empty object is a
subset of anything. It is a preorder on well-formed documents, and two of them are subsets of
each other exactly if they are equal up to the order of arrays that names alone lead to.
-/
theorem isSubset_decides_containment
    : (∀ expected actual : Json,
        isSubset expected actual = true ↔ Within expected actual ∨ expected = .object [])
      ∧ (∀ v : Json, WellFormed v → isSubset v v = true)
      ∧ (∀ first second third : Json,
          isSubset first second = true
          → isSubset second third = true
          → isSubset first third = true)
      ∧ ∀ first second : Json,
          WellFormed first
          → WellFormed second
          → (isSubset first second = true ∧ isSubset second first = true
            ↔ EqualUpToOrder first second) := by
  refine ⟨isSubset_iff_within, ?_, fun _ _ _ => isSubset_trans, ?_⟩
  · intro v formed
    rw [isSubset_iff_within]
    exact Or.inl ((within_within_iff formed formed).mpr ⟨v, .keep v, BEq.rfl⟩).1
  · intro first second firstFormed secondFormed
    rw [← within_within_iff firstFormed secondFormed, isSubset_iff_within, isSubset_iff_within]
    constructor
    · rintro ⟨here, there⟩
      rcases here with here | rfl
      · rcases there with there | rfl
        · exact ⟨here, there⟩
        · cases eq_of_within_empty here
          exact ⟨here, here⟩
      · rcases there with there | rfl
        · cases eq_of_within_empty there
          exact ⟨there, there⟩
        · exact and_self_iff.mpr ((within_object [] []).mpr (by simp))
    · rintro ⟨here, there⟩
      exact ⟨Or.inl here, Or.inl there⟩

/-- An array below a name may be reordered, one inside another array may not. -/
theorem isSubset_decides_containment_nested
    : (isSubset (.object [("slots", .array [.ofNat 1, .ofNat 2])])
          (.object [("slots", .array [.ofNat 2, .ofNat 1])]) = true
        ∧ isSubset (.object [("slots", .array [.ofNat 2, .ofNat 1])])
          (.object [("slots", .array [.ofNat 1, .ofNat 2])]) = true)
      ∧ ¬ isSubset (.array [.array [.ofNat 1, .ofNat 2]]) (.array [.array [.ofNat 2, .ofNat 1]])
        = true := by
  have formed (items : List Json) (each : ∀ v ∈ items, WellFormed v)
      : WellFormed (.object [("slots", .array items)]) :=
    .object (List.pairwise_singleton _ _) (by simpa using .array each)
  have numbers : ∀ v ∈ [ofNat 1, ofNat 2], WellFormed v := by
    intro v member
    rcases List.mem_pair.mp member with rfl | rfl <;> exact .plain rfl rfl
  have swapped : [ofNat 1, ofNat 2].Perm [ofNat 2, ofNat 1] := List.Perm.swap _ _ _
  have equal
      : EqualUpToOrder (.object [("slots", .array [ofNat 1, ofNat 2])])
          (.object [("slots", .array [ofNat 2, ofNat 1])]) :=
    ⟨_, .object (.cons "slots" (.array swapped) .nil), BEq.rfl⟩
  obtain ⟨-, -, -, antisymmetric⟩ := isSubset_decides_containment
  refine ⟨(antisymmetric _ _ (formed _ numbers) (formed _ ?_)).mpr equal, by decide⟩
  intro v member
  exact numbers v (swapped.symm.subset member)

end Json

end Lightpath
