import Lightpath.Proofs.Topology.DeclaredLinkage

/-!
Laws of the first rows of a list, those whose name no earlier row has: which rows they are, that
they answer for every name, and when choosing rows and taking the first of each name commute.
-/

namespace Lightpath

namespace Declared

theorem mem_firstRows {p : Port} {rows : List Port}
    : p ∈ firstRows rows ↔ Reconstruction.row? rows p.name = some p := by
  induction rows with
  | nil => simp [firstRows, Reconstruction.row?]
  | cons first rest ih =>
      unfold Reconstruction.row? at ih ⊢
      rw [firstRows, List.mem_cons, List.mem_filter, ih, List.find?_cons]
      by_cases same : first.name = p.name
      · simp [same, eq_comm]
      · have other : p ≠ first := fun equal => same (equal ▸ rfl)
        simp [same, other, Ne.symm same]

theorem mem_of_mem_firstRows {p : Port} {rows : List Port} (first : p ∈ firstRows rows)
    : p ∈ rows :=
  List.mem_of_find?_eq_some (mem_firstRows.mp first)

/-- Under each name the first rows have what the list has. -/
theorem row?_firstRows (rows : List Port) (name : String)
    : Reconstruction.row? (firstRows rows) name = Reconstruction.row? rows name := by
  unfold Reconstruction.row?
  induction rows with
  | nil => rfl
  | cons first rest ih =>
      rw [firstRows, List.find?_cons, List.find?_cons]
      by_cases here : first.name = name
      · simp [here]
      · rw [← ih, List.find?_filter]
        simp only [here, decide_false]
        congr 1
        funext p
        by_cases asked : p.name = name <;> simp [asked, Ne.symm here]

/-- A name that a row has is that of a first row. -/
theorem exists_row? {p : Port} {rows : List Port} (member : p ∈ rows)
    : ∃ first, Reconstruction.row? rows p.name = some first ∧ first.name = p.name := by
  cases found : Reconstruction.row? rows p.name with
  | none =>
      have absent := List.find?_eq_none.mp found p member
      simp at absent
  | some first => exact ⟨first, rfl, by simpa using List.find?_some found⟩

theorem nodup_firstRows (rows : List Port)
    : ((firstRows rows).map Port.name).Nodup := by
  induction rows with
  | nil => exact List.nodup_nil
  | cons first rest ih =>
      rw [firstRows, List.map_cons, List.nodup_cons]
      refine ⟨?_, (List.filter_sublist.map _).nodup ih⟩
      intro again
      obtain ⟨p, member, same⟩ := List.mem_map.mp again
      simpa [same] using (List.mem_filter.mp member).2

theorem firstRows_eq_self {rows : List Port} (different : (rows.map Port.name).Nodup)
    : firstRows rows = rows := by
  induction rows with
  | nil => rfl
  | cons first rest ih =>
      obtain ⟨once, different⟩ := List.nodup_cons.mp different
      rw [firstRows, ih different]
      congr 1
      refine List.filter_eq_self.mpr ?_
      intro p member
      have other : p.name ≠ first.name := fun same => once (same ▸ List.mem_map_of_mem member)
      simpa using other

/-- What is added to a list brings the first rows of the names that the list does not have. -/
theorem firstRows_append (rows more : List Port)
    : firstRows (rows ++ more)
      = firstRows rows
        ++ (firstRows more).filter fun p => ¬ (firstRows rows).any (·.name = p.name) := by
  calc
    firstRows (rows ++ more)
      = firstPerName (rows ++ more) := (Reconstruction.firstPerName_eq _).symm
    _ = firstPerName rows
        ++ (firstRows more).filter fun p => ¬ (firstPerName rows).any (·.name = p.name) :=
        List.foldl_append.trans (Reconstruction.foldl_kept more _)
    _ = _ := by rw [Reconstruction.firstPerName_eq]

/-- Added rows leave the first rows of a choice alone that takes none of them. -/
theorem filter_firstRows_append {chosen : Port → Bool} {rows more : List Port}
    (passed : ∀ p ∈ more, chosen p = false)
    : (firstRows (rows ++ more)).filter chosen = (firstRows rows).filter chosen := by
  rw [firstRows_append, List.filter_append]
  refine List.append_right_eq_self.mpr (List.filter_eq_nil_iff.mpr ?_)
  intro p member
  have brought := mem_of_mem_firstRows (List.mem_filter.mp member).1
  simp [passed p brought]

/-- Taking the first rows of a part before the rest is added changes nothing. -/
theorem firstRows_firstRows_append (rows more : List Port)
    : firstRows (firstRows rows ++ more) = firstRows (rows ++ more) := by
  rw [firstRows_append, firstRows_append, firstRows_eq_self (nodup_firstRows rows)]

/-- A name is among the first rows exactly if it is among the rows. -/
theorem any_firstRows (rows : List Port) (name : String)
    : (firstRows rows).any (·.name = name) = rows.any (·.name = name) := by
  have found := congrArg Option.isSome (row?_firstRows rows name)
  rwa [Reconstruction.row?, Reconstruction.row?, List.isSome_find?, List.isSome_find?] at found

theorem firstRows_concat (rows : List Port) (last : Port)
    : firstRows (rows ++ [last])
      = firstRows rows ++ if rows.any (·.name = last.name) then [] else [last] := by
  have single : firstRows [last] = [last] := rfl
  rw [firstRows_append, single, List.filter_cons, any_firstRows]
  cases rows.any (·.name = last.name) <;> rfl

/-- Rows can be chosen before or after the first of each name are taken, if with any row that is
chosen the first of its name is chosen as well. Induction from the end, where the last row is new
or its name is taken.
-/
theorem firstRows_filter {chosen : Port → Bool} {rows : List Port}
    (closed : ∀ p ∈ rows, chosen p = true → ∀ first,
      Reconstruction.row? rows p.name = some first → chosen first = true)
    : firstRows (rows.filter chosen) = (firstRows rows).filter chosen := by
  induction rows using List.reverseRecOn with
  | nil => rfl
  | append_singleton rows last ih =>
      have keeps
          : ∀ name first, Reconstruction.row? rows name = some first →
              Reconstruction.row? (rows ++ [last]) name = some first := by
        intro name first found
        unfold Reconstruction.row? at found ⊢
        rw [List.find?_append, found, Option.some_or]
      have before : firstRows (rows.filter chosen) = (firstRows rows).filter chosen :=
        ih fun p member picked first found =>
          closed p (List.mem_append_left _ member) picked first (keeps p.name first found)
      have taken
          : chosen last = true →
              (rows.filter chosen).any (·.name = last.name) = rows.any (·.name = last.name) := by
        intro picked
        rw [Bool.eq_iff_iff, List.any_filter, List.any_eq_true, List.any_eq_true]
        constructor
        · rintro ⟨p, member, both⟩
          exact ⟨p, member, (Bool.and_eq_true_iff.mp both).2⟩
        · rintro ⟨p, member, same⟩
          obtain ⟨first, found, named⟩ := exists_row? member
          rw [decide_eq_true_eq] at same
          rw [same] at found
          have pickedFirst : chosen first = true :=
            closed last (by simp) picked first (keeps last.name first found)
          exact ⟨first, List.mem_of_find?_eq_some found, by simp [pickedFirst, named, same]⟩
      rw [firstRows_concat, List.filter_append, List.filter_append, ← before]
      cases picked : chosen last with
      | false =>
          rw [List.filter_cons_of_neg (by simp [picked]), List.filter_nil, List.append_nil]
          split <;> simp [picked]
      | true =>
          rw [List.filter_cons_of_pos picked, List.filter_nil, firstRows_concat, taken picked]
          split <;> simp [picked]

end Declared

end Lightpath
