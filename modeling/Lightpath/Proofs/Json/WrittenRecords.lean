import Lightpath.Json.Record
import Lightpath.Proofs.Keyed

/-!
Records that are written by fields with different names. Reading one finds every field with the
value that it was written with, and nothing under a name whose field was left out.
-/

namespace Lightpath

namespace Json

-----------------------------------------------------------------------------------------
-- The fields of a written record
-----------------------------------------------------------------------------------------

/-- The members that fields are written as: those that have a value. -/
def stated (fields : List (String × Option Json))
    : List (String × Json) :=
  fields.filterMap fun f => f.2.map fun v => (f.1, v)

theorem mem_keys_stated {fields : List (String × Option Json)} {name : String}
    (member : name ∈ Keyed.keys (stated fields))
    : name ∈ fields.map Prod.fst := by
  obtain ⟨m, inStated, rfl⟩ := List.mem_map.mp member
  obtain ⟨f, inFields, written⟩ := List.mem_filterMap.mp inStated
  obtain ⟨v, -, rfl⟩ := Option.map_eq_some_iff.mp written
  exact List.mem_map_of_mem inFields

section Fields

variable {fields : List (String × Option Json)}

/-- A field is found as it was written, if no other one has its name. -/
theorem lookup_stated (distinct : (fields.map Prod.fst).Nodup) {name : String}
    {value : Option Json} (field : (name, value) ∈ fields)
    : (stated fields).lookup name = value := by
  induction fields with
  | nil => simp at field
  | cons first rest ih =>
      obtain ⟨fresh, distinct⟩ := List.nodup_cons.mp distinct
      rcases List.mem_cons.mp field with same | later
      · subst same
        cases value with
        | some v => simp [stated]
        | none =>
            have absent : name ∉ Keyed.keys (stated rest) := fun member =>
              fresh (mem_keys_stated member)
            rw [← Keyed.isSome_lookup, Option.not_isSome_iff_eq_none] at absent
            simpa [stated] using absent
      · have other : name ≠ first.1 := by
          intro same
          apply fresh
          rw [← same]
          exact List.mem_map_of_mem later
        have found := ih distinct later
        rw [stated, List.filterMap_cons]
        cases first.2 with
        | none => exact found
        | some v =>
            rw [Option.map_some, Keyed.lookup_cons, if_neg other]
            exact found

/-- The written members have different names as the fields do. -/
theorem nodup_keys_stated (distinct : (fields.map Prod.fst).Nodup)
    : (Keyed.keys (stated fields)).Nodup := by
  have part : (Keyed.keys (stated fields)).Sublist (fields.map Prod.fst) := by
    induction fields with
    | nil => exact .slnil
    | cons first rest ih =>
        have rest := ih (List.nodup_cons.mp distinct).2
        rw [stated, List.filterMap_cons]
        cases first.2 with
        | none => exact rest.cons _
        | some v => exact rest.cons_cons _
  exact part.nodup distinct

/-- A member of a written record is what its field was written with. -/
theorem get?_ofFields (distinct : (fields.map Prod.fst).Nodup) {name : String}
    {value : Option Json} (field : (name, value) ∈ fields)
    : (ofFields fields).get? name = value :=
  (Keyed.lookup_ofList_of_nodup (nodup_keys_stated distinct) name).trans
    (lookup_stated distinct field)

/-- A written record has no member of a name that is not among its fields. -/
theorem get?_ofFields_eq_none {name : String} (absent : name ∉ fields.map Prod.fst)
    : (ofFields fields).get? name = none := by
  have unstated : name ∉ Keyed.keys (Keyed.ofList (stated fields)) := by
    rw [Keyed.mem_keys_ofList]
    exact fun member => absent (mem_keys_stated member)
  rw [← Keyed.isSome_lookup, Option.not_isSome_iff_eq_none] at unstated
  exact unstated

end Fields

/-- The items of a written list are read back one by one. -/
theorem list?_map {α : Type} {read : Json → Option α} {write : α → Json} {values : List α}
    (restores : ∀ a ∈ values, read (write a) = some a)
    : list? read (.array (values.map write)) = some values := by
  rw [list?]
  induction values with
  | nil => rfl
  | cons a rest ih =>
      obtain ⟨first, later⟩ := List.forall_mem_cons.mp restores
      rw [List.map_cons, List.mapM_cons, first, ih later]
      rfl

theorem list?_ofStrings (texts : List String)
    : list? string? (ofStrings texts) = some texts :=
  list?_map fun _ _ => rfl

/-- A number below a bound is read back. -/
theorem natBelow?_ofNat {bound n : Nat} (below : n < bound)
    : natBelow? bound (ofNat n) = some n := by
  simp [natBelow?, nat?, ofNat, below]

end Json

-----------------------------------------------------------------------------------------
-- Reading a written record
-----------------------------------------------------------------------------------------

namespace JsonRecord

/-- The record that is found in a document written by fields. -/
def written (fields : List (String × Option Json))
    : JsonRecord :=
  ⟨Keyed.ofList (Json.stated fields)⟩

theorem ofJson?_ofFields (names : List String) (fields : List (String × Option Json))
    : ofJson? names (Json.ofFields fields) = some (written fields) :=
  rfl

/-- Where the members of a record are in order, no field is stated more than once. -/
theorem value?_ofList (members : List (String × Json)) (name : String)
    : value? ⟨Keyed.ofList members⟩ name = some ((Keyed.ofList members).lookup name) := by
  rw [value?, Keyed.filter_key (Keyed.ascending_ofList members).nodup name]
  cases (Keyed.ofList members).lookup name <;> rfl

section Written

variable {fields : List (String × Option Json)} (distinct : (fields.map Prod.fst).Nodup)
  {α : Type} {name : String}
include distinct

theorem value?_written {value : Option Json} (field : (name, value) ∈ fields)
    : (written fields).value? name = some value := by
  rw [written, value?_ofList]
  exact congrArg some (Json.get?_ofFields distinct field)

/-- A field that has to be there is restored if its value is. -/
theorem required_written {v : Json} {a : α} {read : Json → Option α}
    (field : (name, some v) ∈ fields) (restored : read v = some a)
    : (written fields).required name read = some a := by
  rw [required, value?_written distinct field]
  exact restored

theorem required_text {s : String} (field : (name, some (.string s)) ∈ fields)
    : (written fields).required name Json.string? = some s :=
  required_written distinct field rfl

/-- A field that was written has no need of its default. -/
theorem orElse_written {v : Json} {a absent : α} {read : Json → Option α}
    (field : (name, some v) ∈ fields) (restored : read v = some a)
    : (written fields).orElse name absent read = some a := by
  rw [orElse, value?_written distinct field]
  exact restored

theorem orElse_text {s absent : String} (field : (name, some (.string s)) ∈ fields)
    : (written fields).orElse name absent Json.string? = some s :=
  orElse_written distinct field rfl

/-- A list of texts that is left out where it is empty has the empty list for its default. -/
theorem orElse_texts {texts : List String}
    (field : (name, if texts.isEmpty then none else some (Json.ofStrings texts)) ∈ fields)
    : (written fields).orElse name [] (Json.list? Json.string?) = some texts := by
  cases texts with
  | nil =>
      rw [orElse, value?_written distinct field]
      rfl
  | cons s rest => exact orElse_written distinct field (Json.list?_ofStrings (s :: rest))

/-- An optional field is restored, absent or not, if no value of it is written as null. -/
theorem optional_written {value : Option α} {write : α → Json}
    (field : (name, value.map write) ∈ fields) {read : Json → Option α}
    (restores : ∀ a ∈ value, read (write a) = some a) (states : ∀ a, write a ≠ .null)
    : (written fields).optional name read = some value := by
  rw [optional, value?_written distinct field]
  cases value with
  | none => rfl
  | some a =>
      rw [Option.map_some]
      have restored := restores a rfl
      cases text : write a with
      | null => exact absurd text (states a)
      | bool _ | number _ | string _ | array _ | object _ =>
          rw [text] at restored
          simp [restored]

/-- An optional text is restored. -/
theorem optional_text {value : Option String} (field : (name, value.map .string) ∈ fields)
    : (written fields).optional name Json.string? = some value :=
  optional_written distinct field (fun _ _ => rfl) (fun _ => Json.noConfusion)

/-- An optional number is restored if it is below the bound. -/
theorem optional_nat {value : Option Nat} {bound : Nat}
    (field : (name, value.map .ofNat) ∈ fields) (below : ∀ n ∈ value, n < bound)
    : (written fields).optional name (Json.natBelow? bound) = some value :=
  optional_written distinct field (fun n member => Json.natBelow?_ofNat (below n member))
    (fun _ => Json.noConfusion)

end Written

-----------------------------------------------------------------------------------------
-- What was read
-----------------------------------------------------------------------------------------

section Read

variable {r : JsonRecord} {α : Type} {name : String} {read : Json → Option α}

/-- What is read of a field was read from a value, unless it is the default. -/
theorem exists_of_required {a : α} (given : r.required name read = some a)
    : ∃ v, read v = some a := by
  rw [required] at given
  split at given
  · exact ⟨_, given⟩
  · cases given

theorem exists_of_orElse {a absent : α} (given : r.orElse name absent read = some a)
    : a = absent ∨ ∃ v, read v = some a := by
  rw [orElse] at given
  split at given
  · exact Or.inl (Option.some.inj given).symm
  · exact Or.inr ⟨_, given⟩
  · cases given

theorem exists_of_optional {value : Option α} {a : α} (given : r.optional name read = some value)
    (present : value = some a)
    : ∃ v, read v = some a := by
  subst present
  rw [optional] at given
  split at given
  · cases given
  · cases given
  · obtain ⟨b, found, same⟩ := Option.map_eq_some_iff.mp given
    exact ⟨_, found.trans same⟩
  · cases given

end Read

end JsonRecord

namespace Json

theorem exists_of_list? {α : Type} {read : Json → Option α} {v : Json} {values : List α}
    (given : list? read v = some values)
    : ∀ a ∈ values, ∃ w, read w = some a := by
  cases v with
  | array items =>
      rw [list?] at given
      induction items generalizing values with
      | nil =>
          cases given
          simp
      | cons item rest ih =>
          rw [List.mapM_cons] at given
          simp only [Option.bind_eq_bind, Option.bind_eq_some_iff] at given
          obtain ⟨first, found, others, later, same⟩ := given
          cases same
          exact List.forall_mem_cons.mpr ⟨⟨item, found⟩, ih later⟩
  | null | bool _ | number _ | string _ | object _ => cases given

theorem lt_of_natBelow? {bound n : Nat} {v : Json} (given : natBelow? bound v = some n)
    : n < bound := by
  rw [natBelow?] at given
  split at given
  · split at given
    · rename_i below
      cases given
      exact below
    · cases given
  · cases given

end Json

end Lightpath
