import Lightpath.Keyed
import Mathlib.Data.List.Induction

/-!
What is found in a keyed list after an insertion, an erasure, or when it is built from pairs.
None of these laws needs the list to be in order; that insertion keeps it in order comes last.
-/

namespace Lightpath

namespace Keyed

variable {α : Type}

/-- A look-up compares with the first key, then goes on. -/
theorem lookup_cons (key : String) (pair : String × α) (rest : List (String × α))
    : (pair :: rest).lookup key = if key = pair.1 then some pair.2 else rest.lookup key := by
  rw [List.lookup_cons]
  by_cases same : key = pair.1
  · simp [same]
  · simp only [if_neg same, beq_eq_false_iff_ne.mpr same]

/-- Where each value of a list is changed, the changed value is found. -/
theorem lookup_map {β : Type} (change : String → α → β) (pairs : List (String × α)) (key : String)
    : (pairs.map fun p => (p.1, change p.1 p.2)).lookup key
      = (pairs.lookup key).map (change key) := by
  induction pairs with
  | nil => rfl
  | cons first rest ih =>
      rw [List.map_cons, lookup_cons, lookup_cons, ih]
      split
      · rename_i same
        rw [same]
        rfl
      · rfl

/-- An inserted value is found at its key, and nothing changes at other keys. -/
theorem lookup_insert (key other : String) (value : α) (pairs : List (String × α))
    : (insert key value pairs).lookup other
      = if other = key then some value else pairs.lookup other := by
  induction pairs with
  | nil => simp [insert, lookup_cons]
  | cons pair rest ih =>
      obtain ⟨k, v⟩ := pair
      simp only [insert]
      split
      · simp [lookup_cons]
      · split
        · rename_i found
          by_cases same : other = key <;> simp [lookup_cons, ← found, same]
        · rename_i different
          by_cases same : other = k
          · simp [same, Ne.symm different]
          · simp [lookup_cons, same, ih]

theorem insert_insert (key : String) (earlier later : α) (pairs : List (String × α))
    : insert key later (insert key earlier pairs) = insert key later pairs := by
  induction pairs with
  | nil => simp [insert]
  | cons pair rest ih =>
      obtain ⟨k, v⟩ := pair
      by_cases less : key < k
      · simp [insert, less]
      · by_cases found : key = k
        · simp [insert, found]
        · simp [insert, less, found, ih]

theorem mem_of_mem_insert {key : String} {value : α} {pair : String × α}
    {pairs : List (String × α)} (member : pair ∈ insert key value pairs)
    : pair = (key, value) ∨ pair ∈ pairs := by
  induction pairs with
  | nil => exact Or.inl (by simpa [insert] using member)
  | cons head rest ih =>
      obtain ⟨k, v⟩ := head
      simp only [insert] at member
      split at member
      · exact (List.mem_cons.mp member).imp_right id
      · split at member
        · exact (List.mem_cons.mp member).imp_right (List.mem_cons_of_mem _)
        · rcases List.mem_cons.mp member with same | later
          · exact Or.inr (by simp [same])
          · exact (ih later).imp_right (List.mem_cons_of_mem _)

/-- A list built from pairs and a last one is the list of the former with the latter inserted.
-/
theorem ofList_concat (pairs : List (String × α)) (pair : String × α)
    : ofList (pairs ++ [pair]) = insert pair.1 pair.2 (ofList pairs) := by
  simp [ofList]

/-- In a list built from pairs the last value of a key is found. -/
theorem lookup_ofList (pairs : List (String × α)) (key : String)
    : (ofList pairs).lookup key = pairs.reverse.lookup key := by
  induction pairs using List.reverseRecOn with
  | nil => rfl
  | append_singleton pairs pair ih =>
      rw [ofList_concat, lookup_insert, ih, List.reverse_append]
      simp [lookup_cons]

theorem mem_of_mem_ofList {pair : String × α} {pairs : List (String × α)}
    (member : pair ∈ ofList pairs)
    : pair ∈ pairs := by
  induction pairs using List.reverseRecOn with
  | nil => exact member
  | append_singleton pairs last ih =>
      rw [ofList_concat] at member
      rcases mem_of_mem_insert member with same | earlier
      · simp [same]
      · exact List.mem_append_left _ (ih earlier)

theorem mem_keys_of_lookup {key : String} {value : α} {pairs : List (String × α)}
    (found : pairs.lookup key = some value)
    : key ∈ keys pairs := by
  obtain ⟨before, after, split, -⟩ := List.lookup_eq_some_iff.mp found
  simp [keys, split]

theorem isSome_lookup {key : String} {pairs : List (String × α)}
    : (pairs.lookup key).isSome = true ↔ key ∈ keys pairs := by
  induction pairs with
  | nil => simp [keys]
  | cons pair rest ih =>
      simp only [keys] at ih ⊢
      rw [lookup_cons, List.map_cons, List.mem_cons, ← ih]
      by_cases same : key = pair.1 <;> simp [same]

theorem mem_keys_insert (key other : String) (value : α) (pairs : List (String × α))
    : other ∈ keys (insert key value pairs) ↔ other = key ∨ other ∈ keys pairs := by
  induction pairs with
  | nil => simp [insert, keys]
  | cons pair rest ih =>
      obtain ⟨k, v⟩ := pair
      simp only [keys] at ih ⊢
      simp only [insert]
      split
      · simp
      · split
        · rename_i found
          simp [found]
        · simp only [List.map_cons, List.mem_cons, ih, or_left_comm]

theorem mem_keys_ofList (key : String) (pairs : List (String × α))
    : key ∈ keys (ofList pairs) ↔ key ∈ keys pairs := by
  induction pairs using List.reverseRecOn with
  | nil => rfl
  | append_singleton pairs last ih =>
      rw [ofList_concat, mem_keys_insert, ih]
      simp [keys, or_comm]

theorem lookup_erase (key other : String) (pairs : List (String × α))
    : (erase key pairs).lookup other = if other = key then none else pairs.lookup other := by
  induction pairs with
  | nil => simp [erase]
  | cons pair rest ih =>
      obtain ⟨k, v⟩ := pair
      simp only [erase] at ih ⊢
      by_cases erased : k = key
      · simp only [erased, List.filter_cons, ne_eq, not_true_eq_false, decide_false,
          Bool.false_eq_true, if_false, ih, lookup_cons]
        split <;> rfl
      · simp only [List.filter_cons, ne_eq, erased, not_false_eq_true, decide_true, if_true,
          lookup_cons, ih]
        by_cases same : other = k
        · simp [same, erased]
        · simp [same]

-----------------------------------------------------------------------------------------
-- Leaving out keys
-----------------------------------------------------------------------------------------

/-- The pairs whose keys are not among some names. -/
def without (names : List String) (pairs : List (String × α))
    : List (String × α) :=
  pairs.filter fun p => p.1 ∉ names

theorem without_without (names more : List String) (pairs : List (String × α))
    : without more (without names pairs) = without (names ++ more) pairs := by
  rw [without, without, without, List.filter_filter]
  refine List.filter_congr fun p _ => ?_
  simp [Bool.and_comm]

theorem without_cons (name : String) (names : List String) (pairs : List (String × α))
    : without (name :: names) pairs = without names (erase name pairs) := by
  have single : erase name pairs = without [name] pairs := by
    refine List.filter_congr fun p _ => ?_
    simp
  rw [single, without_without, List.singleton_append]

/-- Leaving out more names leaves out the first ones too. -/
theorem without_of_subset {names more : List String} (subset : names ⊆ more)
    (pairs : List (String × α))
    : without more (without names pairs) = without more pairs := by
  rw [without_without]
  refine List.filter_congr fun p _ => decide_eq_decide.mpr ?_
  rw [List.mem_append]
  exact not_congr (or_iff_right_of_imp fun member => subset member)

/-- What is inserted under a name that is left out leaves no trace. -/
theorem without_insert {names : List String} {key : String} (member : key ∈ names) (value : α)
    (pairs : List (String × α))
    : without names (insert key value pairs) = without names pairs := by
  induction pairs with
  | nil => simp [insert, without, member]
  | cons pair rest ih =>
      obtain ⟨k, v⟩ := pair
      simp only [without] at ih ⊢
      simp only [insert]
      split
      · rw [List.filter_cons_of_neg (by simpa using member)]
      · split
        · rename_i same
          rw [List.filter_cons_of_neg (by simpa using member),
            List.filter_cons_of_neg (by simpa [← same] using member)]
        · rw [List.filter_cons, List.filter_cons, ih]

theorem mem_keys_without {name : String} {names : List String} {pairs : List (String × α)}
    : name ∈ keys (without names pairs) ↔ name ∈ keys pairs ∧ name ∉ names := by
  constructor
  · intro member
    obtain ⟨pair, among, rfl⟩ := List.mem_map.mp member
    obtain ⟨inPairs, other⟩ := List.mem_filter.mp among
    exact ⟨List.mem_map_of_mem inPairs, by simpa using other⟩
  · rintro ⟨member, other⟩
    obtain ⟨pair, inPairs, rfl⟩ := List.mem_map.mp member
    exact List.mem_map_of_mem (List.mem_filter.mpr ⟨inPairs, by simpa using other⟩)

/-- Nothing is left out of pairs that have none of the names. -/
theorem without_eq_self {names : List String} {pairs : List (String × α)}
    (free : ∀ name ∈ names, name ∉ keys pairs)
    : without names pairs = pairs := by
  refine List.filter_eq_self.mpr ?_
  intro pair member
  have other : pair.1 ∉ names := fun named => free pair.1 named (List.mem_map_of_mem member)
  simpa using other

-----------------------------------------------------------------------------------------
-- Order
-----------------------------------------------------------------------------------------

/-- The keys ascend, so that no two of them are the same. -/
def Ascending (pairs : List (String × α))
    : Prop :=
  (keys pairs).Pairwise (· < ·)

theorem Ascending.nodup {pairs : List (String × α)} (ascending : Ascending pairs)
    : (keys pairs).Nodup := by
  refine List.Pairwise.imp ?_ ascending
  rintro key _ less rfl
  exact String.lt_irrefl key less

theorem Ascending.insert {pairs : List (String × α)} (ascending : Ascending pairs) (key : String)
    (value : α)
    : Ascending (insert key value pairs) := by
  induction pairs with
  | nil => exact List.pairwise_singleton _ _
  | cons pair rest ih =>
      obtain ⟨k, v⟩ := pair
      obtain ⟨above, ordered⟩ := List.pairwise_cons.mp ascending
      by_cases less : key < k
      · simp only [Keyed.insert, if_pos less]
        refine List.pairwise_cons.mpr ⟨?_, ascending⟩
        intro later member
        rcases List.mem_cons.mp member with rfl | inRest
        · exact less
        · exact String.lt_trans less (above later inRest)
      · by_cases found : key = k
        · subst found
          simp only [Keyed.insert, String.lt_irrefl, if_false, if_true]
          exact ascending
        · simp only [Keyed.insert, if_neg less, if_neg found]
          refine List.pairwise_cons.mpr ⟨?_, ih ordered⟩
          intro later member
          rcases (mem_keys_insert key later value rest).mp member with rfl | inRest
          · exact Std.lt_of_le_of_ne (String.not_lt.mp less) (Ne.symm found)
          · exact above later inRest

theorem Ascending.without {pairs : List (String × α)} (ascending : Ascending pairs)
    (names : List String)
    : Ascending (without names pairs) :=
  ascending.sublist (List.filter_sublist.map _)

theorem ascending_ofList (pairs : List (String × α))
    : Ascending (ofList pairs) := by
  induction pairs using List.reverseRecOn with
  | nil => exact List.Pairwise.nil
  | append_singleton pairs last ih =>
      rw [ofList_concat]
      exact ih.insert last.1 last.2

/-- Lists of ascending keys that have the same keys have them in the same order. -/
theorem Ascending.keys_eq {β : Type} {pairs : List (String × α)} {others : List (String × β)}
    (ascending : Ascending pairs) (also : Ascending others)
    (same : ∀ key, key ∈ keys pairs ↔ key ∈ keys others)
    : keys pairs = keys others := by
  have permuted := (List.perm_ext_iff_of_nodup ascending.nodup also.nodup).mpr same
  refine List.Perm.eq_of_pairwise ?_ ascending also permuted
  intro key other _ _ less more
  exact absurd (String.lt_trans less more) (String.lt_irrefl key)

theorem lookup_of_mem {pairs : List (String × α)} (distinct : (keys pairs).Nodup) {key : String}
    {value : α} (member : (key, value) ∈ pairs)
    : pairs.lookup key = some value := by
  induction pairs with
  | nil => simp at member
  | cons pair rest ih =>
      obtain ⟨fresh, distinct⟩ := List.nodup_cons.mp distinct
      rw [lookup_cons]
      rcases List.mem_cons.mp member with rfl | later
      · exact if_pos rfl
      · have inKeys : key ∈ keys rest := List.mem_map_of_mem later
        have other : key ≠ pair.1 := fun same => fresh (same ▸ inKeys)
        rw [if_neg other]
        exact ih distinct later

theorem mem_of_lookup {pairs : List (String × α)} {key : String} {value : α}
    (found : pairs.lookup key = some value)
    : (key, value) ∈ pairs := by
  obtain ⟨before, after, split, -⟩ := List.lookup_eq_some_iff.mp found
  simp [split]

-----------------------------------------------------------------------------------------
-- Different keys
-----------------------------------------------------------------------------------------

/-- Pairs with different keys are found in a list built from them as in themselves. -/
theorem lookup_ofList_of_nodup {pairs : List (String × α)} (distinct : (keys pairs).Nodup)
    (key : String)
    : (ofList pairs).lookup key = pairs.lookup key := by
  rw [lookup_ofList]
  cases found : pairs.lookup key with
  | some value =>
      have turned : (keys pairs.reverse).Nodup := by
        rw [keys, List.map_reverse]
        exact List.pairwise_reverse.mpr (distinct.imp Ne.symm)
      exact lookup_of_mem turned (List.mem_reverse.mpr (mem_of_lookup found))
  | none =>
      rw [List.lookup_eq_none_iff] at found ⊢
      intro pair member
      exact found pair (List.mem_reverse.mp member)

/-- Of pairs with different keys none is lost in a list built from them. -/
theorem length_ofList_of_nodup {pairs : List (String × α)} (distinct : (keys pairs).Nodup)
    : (ofList pairs).length = pairs.length := by
  have permuted : (keys (ofList pairs)).Perm (keys pairs) :=
    (List.perm_ext_iff_of_nodup (ascending_ofList pairs).nodup distinct).mpr fun key =>
      mem_keys_ofList key pairs
  simpa [keys] using permuted.length_eq

/-- At most one of several pairs with different keys has a given one. -/
theorem filter_key {pairs : List (String × α)} (distinct : (keys pairs).Nodup) (key : String)
    : pairs.filter (fun p => p.1 = key)
      = ((pairs.lookup key).map fun value => (key, value)).toList := by
  induction pairs with
  | nil => rfl
  | cons pair rest ih =>
      obtain ⟨fresh, distinct⟩ := List.nodup_cons.mp distinct
      rw [List.filter_cons, lookup_cons, ih distinct]
      by_cases here : pair.1 = key
      · have others : rest.lookup key = none := by
          rw [← Option.not_isSome_iff_eq_none, isSome_lookup, ← here]
          exact fresh
        subst here
        rw [others]
        simp
      · rw [if_neg (Ne.symm here)]
        simp [here]

-----------------------------------------------------------------------------------------
-- Lists with the same keys
-----------------------------------------------------------------------------------------

variable {β : Type} {r : α → β → Prop} {pairs : List (String × α)} {others : List (String × β)}

/-- Pairs with the same keys are related one by one as their values are at each key. -/
theorem forall₂_of_keys_eq (same : keys pairs = keys others)
    (each : ∀ k v w, (k, v) ∈ pairs → (k, w) ∈ others → r v w)
    : List.Forall₂ (fun p q => p.1 = q.1 ∧ r p.2 q.2) pairs others := by
  induction pairs generalizing others with
  | nil =>
      cases others with
      | nil => exact .nil
      | cons q rest => simp [keys] at same
  | cons p rest ih =>
      cases others with
      | nil => simp [keys] at same
      | cons q others =>
          obtain ⟨first, later⟩ := List.cons.inj same
          have here : r p.2 q.2 :=
            each p.1 p.2 q.2 List.mem_cons_self (first ▸ List.mem_cons_self)
          refine .cons ⟨first, here⟩ (ih later ?_)
          intro k v w inRest inOthers
          exact each k v w (List.mem_cons_of_mem _ inRest) (List.mem_cons_of_mem _ inOthers)

/-- Where pairs are related one by one, what is found at a key is related to what is found
there in the other list.
-/
theorem lookup_of_forall₂
    (related : List.Forall₂ (fun p q => p.1 = q.1 ∧ r p.2 q.2) pairs others) {key : String}
    {v : α} (found : pairs.lookup key = some v)
    : ∃ w, others.lookup key = some w ∧ r v w := by
  induction related with
  | nil => cases found
  | @cons p q _ _ first _ ih =>
      rw [lookup_cons] at found ⊢
      rw [← first.1]
      by_cases here : key = p.1
      · rw [if_pos here] at found ⊢
        cases found
        exact ⟨q.2, rfl, first.2⟩
      · rw [if_neg here] at found ⊢
        exact ih found

end Keyed

end Lightpath
