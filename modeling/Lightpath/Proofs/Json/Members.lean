import Lightpath.Json.Envelope
import Lightpath.Json.Record
import Lightpath.Proofs.Json.Covering
import Lightpath.Proofs.Keyed

/-!
Documents built from members: what is found in them, and when one covers another. Every value
equals itself, so what a document states is covered where it is stated again.
-/

namespace Lightpath

namespace Json

-----------------------------------------------------------------------------------------
-- Finding members
-----------------------------------------------------------------------------------------

/-- The last member of a name is found. -/
theorem get?_ofMembers (members : List (String × Json)) (name : String)
    : (ofMembers members).get? name = members.reverse.lookup name :=
  Keyed.lookup_ofList members name

theorem get?_single (name key : String) (v : Json)
    : (ofMembers [(name, v)]).get? key = if key = name then some v else none := by
  rw [get?_ofMembers]
  exact Keyed.lookup_cons key (name, v) []

/-- A member is found under its full name, whatever other members are called. -/
theorem field?_of_get? {v w : Json} {name : String} (found : v.get? name = some w)
    : v.field? name = some w := by
  cases v with
  | object members =>
      have stated : members.lookup name = some w := found
      simp only [field?, stated]
  | null | bool _ | number _ | string _ | array _ => simp [get?] at found

theorem field?_ofMembers {members : List (String × Json)} {name : String} {v : Json}
    (found : members.reverse.lookup name = some v)
    : (ofMembers members).field? name = some v :=
  field?_of_get? ((get?_ofMembers members name).trans found)

/-- A name that no member has, with a module or without, is not found. -/
theorem field?_ofMembers_none {members : List (String × Json)} {name : String}
    (absent : ∀ m ∈ members, m.1 ≠ name ∧ localName? m.1 ≠ some name)
    : (ofMembers members).field? name = none := by
  have unstated : (Keyed.ofList members).lookup name = none := by
    refine List.lookup_eq_none_iff.mpr ?_
    intro m member
    have differs := (absent m (Keyed.mem_of_mem_ofList member)).1
    simpa using Ne.symm differs
  have foreign
      : (Keyed.ofList members).find? (fun m => localName? m.1 = some name) = none := by
    refine List.find?_eq_none.mpr ?_
    intro m member
    simpa using (absent m (Keyed.mem_of_mem_ofList member)).2
  simp only [field?, ofMembers, unstated, foreign, Option.map_none]

/-- The only member of a document is found under its name with its module or without. -/
theorem field?_single (name key : String) (v : Json)
    : (ofMembers [(name, v)]).field? key
      = if name = key ∨ localName? name = some key then some v else none := by
  by_cases full : name = key
  · rw [if_pos (Or.inl full)]
    exact field?_ofMembers (by simp [full])
  · by_cases plain : localName? name = some key
    · rw [if_pos (Or.inr plain)]
      simp [field?, ofMembers, Keyed.ofList, Keyed.insert, Keyed.lookup_cons, Ne.symm full, plain]
    · rw [if_neg (not_or.mpr ⟨full, plain⟩)]
      exact field?_ofMembers_none (by simpa using ⟨full, plain⟩)

/-- A document with one member that is no `data` is not inside one. -/
theorem unwrapData_single {name : String}
    (other : ¬ (name = "data" ∨ localName? name = some "data"))
    (v : Json)
    : (ofMembers [(name, v)]).unwrapData = ofMembers [(name, v)] := by
  change ((ofMembers [(name, v)]).field? "data").getD (ofMembers [(name, v)]) = _
  rw [field?_single, if_neg other]
  rfl

theorem textField?_ofMembers {members : List (String × Json)} {name s : String}
    (found : members.reverse.lookup name = some (.string s))
    : (ofMembers members).textField? name = some s := by
  rw [textField?, field?_ofMembers found]
  rfl

theorem nat?_ofNat (n : Nat)
    : (ofNat n).nat? = some n := by
  simp [ofNat, nat?]

/-- A name that is found in a list built from pairs by a key function has that function's
value.
-/
theorem lookup_map_of_mem {α : Type} (value : String → α) {names : List String} {name : String}
    (member : name ∈ names)
    : (names.map fun n => (n, value n)).lookup name = some (value name) := by
  induction names with
  | nil => simp at member
  | cons first rest ih =>
      rw [List.map_cons, Keyed.lookup_cons]
      by_cases same : name = first
      · simp [same]
      · simp only [same, if_false]
        exact ih ((List.mem_cons.mp member).resolve_left same)

-----------------------------------------------------------------------------------------
-- Equality
-----------------------------------------------------------------------------------------

theorem number_beq_self (n : JsonNumber)
    : (n == n) = true := by
  cases n with
  | integer value => simp [BEq.beq]
  | double value => exact Double.beq_iff.mpr (Or.inl rfl)

mutual

/-- A document equals itself. -/
theorem equal_self (v : Json)
    : equal v v = true := by
  match v with
  | .null => simp [equal]
  | .bool b => simp [equal]
  | .number n => simp [equal, number_beq_self]
  | .string s => simp [equal]
  | .array items =>
      rw [equal]
      exact equalItems_self items
  | .object members =>
      rw [equal]
      exact equalMembers_self members

theorem equalItems_self (items : List Json)
    : equalItems items items = true := by
  match items with
  | [] => simp [equalItems]
  | v :: rest => simp [equalItems, equal_self v, equalItems_self rest]

theorem equalMembers_self (members : List (String × Json))
    : equalMembers members members = true := by
  match members with
  | [] => simp [equalMembers]
  | (k, v) :: rest => simp [equalMembers, equal_self v, equalMembers_self rest]

end

theorem sameItems_self (items : List Json)
    : sameItems items items = true := by
  induction items with
  | nil => rfl
  | cons v rest ih =>
      have first : removeFirst? v (v :: rest) = some rest := by
        simp only [removeFirst?]
        exact if_pos (equal_self v)
      simp only [sameItems, first, ih]

-----------------------------------------------------------------------------------------
-- Covering
-----------------------------------------------------------------------------------------

/-- A value that is no object covers itself. -/
theorem covers_self {v : Json} (plain : v.isObject = false)
    : covers v v = true := by
  cases v with
  | object members => simp [isObject] at plain
  | array items => rw [covers_array, sameItems_self]
  | null | bool _ | number _ | string _ => rw [covers_leaf _ rfl rfl, equal_self]

/-- Members are a subset of a document where each is found and covered. -/
theorem isSubset_ofMembers {fields : List (String × Json)} {actual : Json}
    (each : ∀ f ∈ fields, ∃ v, actual.get? f.1 = some v ∧ covers f.2 v = true)
    : isSubset (ofMembers fields) actual = true :=
  (isSubset_object _ actual).mpr fun f member => each f (Keyed.mem_of_mem_ofList member)

/-- Members are covered by others among which each is found and covered. -/
theorem covers_ofMembers {fields members : List (String × Json)}
    (each : ∀ f ∈ fields, ∃ v, members.reverse.lookup f.1 = some v ∧ covers f.2 v = true)
    : covers (ofMembers fields) (ofMembers members) = true := by
  refine (covers_object _ _).mpr ?_
  intro f member
  rw [Keyed.lookup_ofList]
  exact each f (Keyed.mem_of_mem_ofList member)

/-- Fields that are stated again among members, each as the last of its name; the members of an
object may be more there. -/
inductive Restated (members : List (String × Json))
    : List (String × Json) → Prop
  | nil : Restated members []
  | cons {name v rest} (found : members.reverse.lookup name = some v) (plain : v.isObject = false)
    (others : Restated members rest)
    : Restated members ((name, v) :: rest)
  | nested {name v w rest} (found : members.reverse.lookup name = some w)
    (covered : covers v w = true) (others : Restated members rest)
    : Restated members ((name, v) :: rest)

/-- A restated field is found, and covered by what is found. -/
theorem Restated.found {members fields : List (String × Json)} (restated : Restated members fields)
    : ∀ f ∈ fields, ∃ v, members.reverse.lookup f.1 = some v ∧ covers f.2 v = true := by
  induction restated with
  | nil => simp
  | cons found plain _ ih => exact List.forall_mem_cons.mpr ⟨⟨_, found, covers_self plain⟩, ih⟩
  | nested found covered _ ih => exact List.forall_mem_cons.mpr ⟨⟨_, found, covered⟩, ih⟩

theorem covers_restated {members fields : List (String × Json)} (restated : Restated members fields)
    : covers (ofMembers fields) (ofMembers members) = true :=
  covers_ofMembers restated.found

theorem isSubset_restated {members fields : List (String × Json)}
    (restated : Restated members fields)
    : isSubset (ofMembers fields) (ofMembers members) = true := by
  refine isSubset_ofMembers ?_
  intro f member
  rw [get?_ofMembers]
  exact restated.found f member

/-- What a subset states under a name is covered by what the actual document has there. -/
theorem get?_of_isSubset {expected actual v : Json} {name : String}
    (subset : isSubset expected actual = true) (stated : expected.get? name = some v)
    : ∃ w, actual.get? name = some w ∧ covers v w = true := by
  cases expected with
  | object members =>
      obtain ⟨before, after, split, -⟩ := List.lookup_eq_some_iff.mp stated
      refine (isSubset_object _ actual).mp subset (name, v) ?_
      rw [split]
      simp
  | null | bool _ | number _ | string _ | array _ => simp [get?] at stated

end Json

end Lightpath
