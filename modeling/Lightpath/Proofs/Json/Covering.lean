import Lightpath.Json.Subset

/-!
When a document holds everything that another one states, told by the members and not by the
place where they part.
-/

namespace Lightpath

namespace Json

/-- Whether a value holds everything that another one states, at whatever place they stand. -/
def covers (expected actual : Json)
    : Bool :=
  (valueMismatch? [] expected actual).isNone

mutual

/-- Whether two values part does not depend on the place. -/
theorem valueMismatch?_isNone (keys : List String) (expected actual : Json)
    : (valueMismatch? keys expected actual).isNone = covers expected actual := by
  unfold covers
  match expected, actual with
  | .object fields, .object members =>
      simp only [valueMismatch?]
      exact memberMismatch?_isNone_congr keys [] (.object members) fields
  | .array expected, .array actual =>
      simp only [valueMismatch?]
      split <;> rfl
  | .object _, .null | .object _, .bool _ | .object _, .number _ | .object _, .string _
  | .object _, .array _ | .array _, .null | .array _, .bool _ | .array _, .number _
  | .array _, .string _ | .array _, .object _ | .null, _ | .bool _, _ | .number _, _
  | .string _, _ =>
      simp only [valueMismatch?]
      split <;> rfl

/-- Whether the members of two values part does not depend on the place. -/
theorem memberMismatch?_isNone_congr (keys keys' : List String) (actual : Json)
    (fields : List (String × Json))
    : (memberMismatch? keys actual fields).isNone
      = (memberMismatch? keys' actual fields).isNone := by
  match fields with
  | [] => rfl
  | (k, expected) :: rest =>
      simp only [memberMismatch?]
      cases actual.get? k with
      | none => rfl
      | some v =>
          have here := valueMismatch?_isNone (keys ++ [k]) expected v
          have there := valueMismatch?_isNone (keys' ++ [k]) expected v
          have rest := memberMismatch?_isNone_congr keys keys' actual rest
          rw [← there] at here
          cases left : valueMismatch? (keys ++ [k]) expected v <;>
            cases right : valueMismatch? (keys' ++ [k]) expected v <;>
              simp_all

end

-----------------------------------------------------------------------------------------
-- Members
-----------------------------------------------------------------------------------------

/-- Members are all there exactly if each is found with a value that covers its own. -/
theorem memberMismatch?_isNone (keys : List String) (actual : Json)
    (fields : List (String × Json))
    : (memberMismatch? keys actual fields).isNone = true
      ↔ ∀ f ∈ fields, ∃ v, actual.get? f.1 = some v ∧ covers f.2 v = true := by
  induction fields with
  | nil => simp [memberMismatch?]
  | cons field rest ih =>
      obtain ⟨k, expected⟩ := field
      simp only [memberMismatch?, List.forall_mem_cons, ← ih]
      cases found : actual.get? k with
      | none => simp
      | some v =>
          simp only [← valueMismatch?_isNone (keys ++ [k]) expected v, Option.some.injEq,
            exists_eq_left']
          cases valueMismatch? (keys ++ [k]) expected v <;> simp

/-- An object covers another one exactly if it covers its members. -/
theorem covers_object (fields members : List (String × Json))
    : covers (.object fields) (.object members) = true
      ↔ ∀ f ∈ fields, ∃ v, members.lookup f.1 = some v ∧ covers f.2 v = true :=
  memberMismatch?_isNone [] (.object members) fields

/-- An expected object is a subset exactly if its members are found and covered. -/
theorem isSubset_object (fields : List (String × Json)) (actual : Json)
    : isSubset (.object fields) actual = true
      ↔ ∀ f ∈ fields, ∃ v, actual.get? f.1 = some v ∧ covers f.2 v = true :=
  memberMismatch?_isNone [] actual fields

/-- A list covers another one exactly if it has the same items. -/
theorem covers_array (expected actual : List Json)
    : covers (.array expected) (.array actual) = sameItems expected actual := by
  simp only [covers, valueMismatch?]
  cases sameItems expected actual <;> rfl

/-- A value that is no object and no list is covered by what equals it. -/
theorem covers_leaf {expected : Json} (actual : Json) (single : expected.isObject = false)
    (scalar : expected.items? = none)
    : covers expected actual = expected.equal actual := by
  cases expected with
  | object fields => simp [isObject] at single
  | array items => simp [items?] at scalar
  | null | bool _ | number _ | string _ =>
      simp only [covers, valueMismatch?]
      change (if equal _ actual = true then none else some _).isNone = _
      split <;> simp_all

theorem covers_bool (b : Bool) (v : Json)
    : covers (.bool b) v = true ↔ Json.bool b = v := by
  rw [covers_leaf v rfl rfl]
  cases v <;> simp [equal]

theorem covers_string (s : String) (v : Json)
    : covers (.string s) v = true ↔ Json.string s = v := by
  rw [covers_leaf v rfl rfl]
  cases v <;> simp [equal]

end Json

end Lightpath
