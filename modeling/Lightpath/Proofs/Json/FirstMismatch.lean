import Lightpath.Proofs.Json.Containment

/-!
The mismatch that is reported of an expected and an actual document. It is real, as both documents
part at the place its names lead to, and it is the first one: at every object on the way there, the
members with a smaller name are all held by the actual document.
-/

namespace Lightpath

namespace Json

/-- The value that names lead to from a document, one member after the other. -/
def atPath?
    : Json → List String → Option Json
  | v, [] => some v
  | v, name :: rest => (v.get? name).bind fun w => atPath? w rest

/-- Two documents part at a place for a reason: the actual one has no member of the last name, both
have lists there that are no rearrangements of each other, or values of which at most one is an
object and at most one a list, and which differ.
-/
inductive PartsAt (expected actual : Json)
    : List String → MismatchReason → Prop
  | missingKey {front : List String} {last : String} {v w : Json}
    (stated : expected.atPath? (front ++ [last]) = some v)
    (reached : actual.atPath? front = some w)
    (missing : w.get? last = none)
    : PartsAt expected actual (front ++ [last]) .missingKey
  | sequenceDiffers {keys : List String} {items others : List Json}
    (stated : expected.atPath? keys = some (.array items))
    (reached : actual.atPath? keys = some (.array others))
    (apart : ¬ Rearranges items others)
    : PartsAt expected actual keys (.sequenceDiffers (.array items) (.array others))
  | valueDiffers {keys : List String} {v w : Json}
    (stated : expected.atPath? keys = some v)
    (reached : actual.atPath? keys = some w)
    (apart : ¬ (v == w) = true)
    (noObjects : v.isObject = false ∨ w.isObject = false)
    (noArrays : v.items? = none ∨ w.items? = none)
    : PartsAt expected actual keys (.valueDiffers v w)

/-- The members of an object with a name smaller than a given one are all held by a value. -/
def HoldsBefore (name : String) (fields : List (String × Json)) (actual : Json)
    : Prop :=
  ∀ f ∈ fields, f.1 < name → ∃ w, actual.get? f.1 = some w ∧ Within f.2 w

/-- No place before the one that some names lead to is one where the documents part: at each object
on the way the members before the one taken are held.
-/
def FirstAt (expected actual : Json) (keys : List String)
    : Prop :=
  ∀ front name back, keys = front ++ name :: back →
    ∃ fields v,
      expected.atPath? front = some (.object fields)
      ∧ actual.atPath? front = some v
      ∧ HoldsBefore name fields v

/-- The documents part at a place, and at none before it. -/
structure FirstParts (expected actual : Json) (keys : List String) (reason : MismatchReason)
    : Prop where
  parts : PartsAt expected actual keys reason
  first : FirstAt expected actual keys

-----------------------------------------------------------------------------------------
-- From a member to its object
-----------------------------------------------------------------------------------------

theorem atPath?_cons {v w : Json} {name : String} (found : v.get? name = some w)
    (rest : List String)
    : v.atPath? (name :: rest) = w.atPath? rest := by
  rw [atPath?, found, Option.bind_some]

/-- Names lead to a value only if those without the last one do. -/
theorem exists_atPath?_dropLast {v w : Json} {keys : List String}
    (reached : v.atPath? keys = some w)
    : ∃ u, v.atPath? keys.dropLast = some u := by
  induction keys generalizing v with
  | nil => exact ⟨w, reached⟩
  | cons name rest ih =>
      cases rest with
      | nil => exact ⟨v, rfl⟩
      | cons second more =>
          obtain ⟨inner, found, deeper⟩ := Option.bind_eq_some_iff.mp reached
          rw [List.dropLast_cons_of_ne_nil (List.cons_ne_nil _ _), atPath?_cons found]
          exact ih deeper

section Below

variable {expected actual v w : Json} {name : String} {keys : List String}
  {reason : MismatchReason}

/-- A place where documents part is one that the expected document has. -/
theorem PartsAt.stated (parts : PartsAt expected actual keys reason)
    : ∃ u, expected.atPath? keys = some u := by
  cases parts with
  | missingKey stated | sequenceDiffers stated | valueDiffers stated => exact ⟨_, stated⟩

/-- The actual document has the place as well, or at least all but its last name. -/
theorem PartsAt.reached (parts : PartsAt expected actual keys reason)
    : ∃ u, actual.atPath? keys.dropLast = some u := by
  cases parts with
  | missingKey _ reached =>
      rw [List.dropLast_concat]
      exact ⟨_, reached⟩
  | sequenceDiffers _ reached | valueDiffers _ reached => exact exists_atPath?_dropLast reached

/-- Documents part where the values part that they have under a name. -/
theorem PartsAt.below (stated : expected.get? name = some v) (reached : actual.get? name = some w)
    (inside : PartsAt v w keys reason)
    : PartsAt expected actual (name :: keys) reason := by
  cases inside with
  | missingKey within there missing =>
      exact .missingKey ((atPath?_cons stated _).trans within)
        ((atPath?_cons reached _).trans there) missing
  | sequenceDiffers within there apart =>
      exact .sequenceDiffers ((atPath?_cons stated _).trans within)
        ((atPath?_cons reached _).trans there) apart
  | valueDiffers within there apart noObjects noArrays =>
      exact .valueDiffers ((atPath?_cons stated _).trans within)
        ((atPath?_cons reached _).trans there) apart noObjects noArrays

/-- The place where values part first is where the objects do that have them under a name, if all
members before that name are held.
-/
theorem FirstParts.below {fields : List (String × Json)} (stated : fields.lookup name = some v)
    (reached : actual.get? name = some w) (before : HoldsBefore name fields actual)
    (inside : FirstParts v w keys reason)
    : FirstParts (.object fields) actual (name :: keys) reason where
  parts := inside.parts.below stated reached
  first := by
    intro front taken back split
    cases front with
    | nil =>
        obtain ⟨rfl, -⟩ := List.cons.inj split
        exact ⟨fields, actual, rfl, rfl, before⟩
    | cons first more =>
        obtain ⟨rfl, deeper⟩ := List.cons.inj split
        rw [atPath?_cons (v := .object fields) stated, atPath?_cons reached]
        exact inside.first more taken back deeper

/-- A member that is not found is where an object and a value part first, if all members before it
are held.
-/
theorem FirstParts.missing {fields : List (String × Json)} (stated : fields.lookup name = some v)
    (missing : actual.get? name = none) (before : HoldsBefore name fields actual)
    : FirstParts (.object fields) actual [name] .missingKey where
  parts := by
    have here : (object fields).atPath? ([] ++ [name]) = some v :=
      atPath?_cons (v := .object fields) stated []
    exact .missingKey here rfl missing
  first := by
    intro front taken back split
    cases front with
    | nil =>
        obtain ⟨rfl, -⟩ := List.cons.inj split
        exact ⟨fields, actual, rfl, rfl, before⟩
    | cons first more =>
        obtain ⟨-, short⟩ := List.cons.inj split
        simp at short

end Below

-----------------------------------------------------------------------------------------
-- The search
-----------------------------------------------------------------------------------------

/-- Where members are searched for the first that parts, those before it are held. -/
theorem memberMismatch?_eq_some {keys : List String} {actual : Json}
    {fields : List (String × Json)} {m : Mismatch}
    (found : memberMismatch? keys actual fields = some m)
    : ∃ before name v after,
        fields = before ++ (name, v) :: after
        ∧ (∀ f ∈ before, ∃ w, actual.get? f.1 = some w ∧ Within f.2 w)
        ∧ ((actual.get? name = none ∧ m = ⟨keys ++ [name], .missingKey⟩)
          ∨ ∃ w, actual.get? name = some w ∧ valueMismatch? (keys ++ [name]) v w = some m) := by
  induction fields with
  | nil => simp [memberMismatch?] at found
  | cons field rest ih =>
      obtain ⟨name, v⟩ := field
      simp only [memberMismatch?] at found
      cases there : actual.get? name with
      | none =>
          simp only [there, Option.some.injEq] at found
          exact ⟨[], name, v, rest, rfl, by simp, Or.inl ⟨there, found.symm⟩⟩
      | some w =>
          simp only [there] at found
          cases inside : valueMismatch? (keys ++ [name]) v w with
          | some other =>
              simp only [inside, Option.some.injEq] at found
              exact ⟨[], name, v, rest, rfl, by simp,
                Or.inr ⟨w, there, inside.trans (congrArg some found)⟩⟩
          | none =>
              -- A member without a mismatch is held, so that it joins those before.
              simp only [inside] at found
              have within : Within v w := by
                rw [← covers_iff_within, ← valueMismatch?_isNone (keys ++ [name]), inside]
                rfl
              obtain ⟨before, taken, u, after, rfl, held, parts⟩ := ih found
              exact ⟨(name, v) :: before, taken, u, after, rfl,
                List.forall_mem_cons.mpr ⟨⟨w, there, within⟩, held⟩, parts⟩

/-- In an ascending list the members before one are those with a smaller name. -/
theorem holdsBefore_of_split {before after : List (String × Json)} {name : String} {v actual : Json}
    (ascending : Keyed.Ascending (before ++ (name, v) :: after))
    (held : ∀ f ∈ before, ∃ w, actual.get? f.1 = some w ∧ Within f.2 w)
    : HoldsBefore name (before ++ (name, v) :: after) actual := by
  intro f member smaller
  rcases List.mem_append.mp member with earlier | later
  · exact held f earlier
  · rw [Keyed.Ascending, Keyed.keys, List.map_append, List.map_cons,
      List.pairwise_append] at ascending
    obtain ⟨-, fromHere, -⟩ := ascending
    rcases List.mem_cons.mp later with rfl | behind
    · exact absurd smaller (String.lt_irrefl name)
    · have larger := (List.pairwise_cons.mp fromHere).1 f.1 (List.mem_map_of_mem behind)
      exact absurd (String.lt_trans smaller larger) (String.lt_irrefl f.1)

/-- The mismatch reported of an expected value and any other one is where they part first, below the
names that lead to them.
-/
def Locates (expected : Json)
    : Prop :=
  ∀ keys actual m, valueMismatch? keys expected actual = some m →
    ∃ inner, m.keys = keys ++ inner ∧ FirstParts expected actual inner m.reason

/-- The mismatch reported among the members of an object is where it parts first from a value. -/
theorem memberMismatch?_first {fields : List (String × Json)} (ascending : Keyed.Ascending fields)
    (each : ∀ f ∈ fields, Locates f.2) {keys : List String} {actual : Json} {m : Mismatch}
    (found : memberMismatch? keys actual fields = some m)
    : ∃ inner, m.keys = keys ++ inner ∧ FirstParts (.object fields) actual inner m.reason := by
  obtain ⟨before, name, v, after, rfl, held, parts⟩ := memberMismatch?_eq_some found
  have member : (name, v) ∈ before ++ (name, v) :: after := by simp
  have stated := Keyed.lookup_of_mem ascending.nodup member
  have earlier := holdsBefore_of_split ascending held
  rcases parts with ⟨missing, rfl⟩ | ⟨w, reached, inside⟩
  · exact ⟨[name], rfl, .missing stated missing earlier⟩
  · obtain ⟨inner, whole, parts⟩ := each _ member _ w m inside
    refine ⟨name :: inner, ?_, parts.below stated reached earlier⟩
    rw [whole, List.append_assoc, List.singleton_append]

/-- Values that are not both objects and not both lists are compared as they are. -/
theorem valueMismatch?_apart (keys : List String) {expected actual : Json}
    (noObjects : expected.isObject = false ∨ actual.isObject = false)
    (noArrays : expected.items? = none ∨ actual.items? = none)
    : valueMismatch? keys expected actual
      = if expected == actual then none else some ⟨keys, .valueDiffers expected actual⟩ := by
  cases expected with
  | null | bool _ | number _ | string _ => simp only [valueMismatch?]
  | array items =>
      cases actual with
      | array others => simp [items?] at noArrays
      | null | bool _ | number _ | string _ | object _ => simp only [valueMismatch?]
  | object fields =>
      cases actual with
      | object members => simp [isObject] at noObjects
      | null | bool _ | number _ | string _ | array _ => simp only [valueMismatch?]

/-- Such values part where they stand. -/
theorem valueMismatch?_apart_first {keys : List String} {expected actual : Json} {m : Mismatch}
    (noObjects : expected.isObject = false ∨ actual.isObject = false)
    (noArrays : expected.items? = none ∨ actual.items? = none)
    (found : valueMismatch? keys expected actual = some m)
    : ∃ inner, m.keys = keys ++ inner ∧ FirstParts expected actual inner m.reason := by
  rw [valueMismatch?_apart keys noObjects noArrays] at found
  split at found
  · cases found
  · rename_i apart
    cases found
    exact ⟨[], (List.append_nil keys).symm, .valueDiffers rfl rfl apart noObjects noArrays,
      by simp [FirstAt]⟩

/-- The mismatch reported of two values is where they part first. Induction on the expected one. -/
theorem locates {expected : Json} (formed : WellFormed expected)
    : Locates expected := by
  induction expected using induction with
  | plain v single scalar =>
      intro keys actual m
      exact valueMismatch?_apart_first (Or.inl single) (Or.inl scalar)
  | array items ih =>
      intro keys actual m found
      cases actual with
      | array others =>
          simp only [valueMismatch?] at found
          split at found
          · cases found
          · rename_i apart
            cases found
            rw [sameItems_iff] at apart
            exact ⟨[], (List.append_nil keys).symm, .sequenceDiffers rfl rfl apart,
              by simp [FirstAt]⟩
      | null | bool _ | number _ | string _ | object _ =>
          exact valueMismatch?_apart_first (Or.inl rfl) (Or.inr rfl) found
  | object fields ih =>
      intro keys actual m found
      obtain ⟨ascending, each⟩ := formed.members
      cases actual with
      | object members =>
          simp only [valueMismatch?] at found
          exact memberMismatch?_first ascending (fun f member => ih f member (each f member)) found
      | null | bool _ | number _ | string _ | array _ =>
          exact valueMismatch?_apart_first (Or.inr rfl) (Or.inl rfl) found

/-- A mismatch that is reported is real, located by its path, and first. Its names lead to a value in
the expected document, and without the last one to a value in the actual document; the two documents
part there for the reason that is given, and at every object on the way all members with a smaller
name are held.
-/
theorem mismatch?_real_and_first {expected actual : Json} {m : Mismatch}
    (formed : WellFormed expected) (found : mismatch? expected actual = some m)
    : m.path = "/" ++ "/".intercalate m.keys
      ∧ (∃ v, expected.atPath? m.keys = some v)
      ∧ (∃ v, actual.atPath? m.keys.dropLast = some v)
      ∧ PartsAt expected actual m.keys m.reason
      ∧ FirstAt expected actual m.keys := by
  have located : ∃ inner, m.keys = [] ++ inner ∧ FirstParts expected actual inner m.reason := by
    cases expected with
    | object fields =>
        obtain ⟨ascending, each⟩ := formed.members
        exact memberMismatch?_first ascending (fun f member => locates (each f member)) found
    | null | bool _ | number _ | string _ | array _ => exact locates formed [] actual m found
  obtain ⟨keys, same, parts, first⟩ := located
  rw [List.nil_append] at same
  rw [← same] at parts first
  exact ⟨rfl, parts.stated, parts.reached, parts, first⟩

/-- A document with a list below two names. -/
def nestedSlots (slots : List Nat)
    : Json :=
  .object [("service", .object [("name", .string "S1"), ("slots", .array (slots.map ofNat))])]

/-- Lists below two names part there, and the member before the list is held. -/
theorem mismatch?_real_and_first_nested
    : let lists : MismatchReason :=
        .sequenceDiffers (.array [ofNat 1, ofNat 2]) (.array [ofNat 2, ofNat 3])
      WellFormed (nestedSlots [1, 2])
      ∧ mismatch? (nestedSlots [1, 2]) (nestedSlots [2, 3]) = some ⟨["service", "slots"], lists⟩
      ∧ PartsAt (nestedSlots [1, 2]) (nestedSlots [2, 3]) ["service", "slots"] lists
      ∧ FirstAt (nestedSlots [1, 2]) (nestedSlots [2, 3]) ["service", "slots"] := by
  intro lists
  have formed : WellFormed (nestedSlots [1, 2]) := by
    have numbers : ∀ v ∈ [1, 2].map ofNat, WellFormed v :=
      List.forall_mem_map.mpr fun n _ => .plain rfl rfl
    have inner : ∀ m ∈ [("name", Json.string "S1"), ("slots", .array ([1, 2].map ofNat))],
        WellFormed m.2 := by
      intro m member
      rcases List.mem_pair.mp member with rfl | rfl
      · exact .plain rfl rfl
      · exact .array numbers
    refine .object (List.pairwise_singleton _ _) ?_
    intro m member
    rw [List.mem_singleton.mp member]
    have ascending : Keyed.Ascending [("name", Json.string "S1"),
        ("slots", .array ([1, 2].map ofNat))] :=
      List.pairwise_pair.mpr (by decide)
    exact .object ascending inner
  have found
      : mismatch? (nestedSlots [1, 2]) (nestedSlots [2, 3])
        = some ⟨["service", "slots"], lists⟩ :=
    rfl
  obtain ⟨-, -, -, parts, first⟩ := mismatch?_real_and_first formed found
  exact ⟨formed, found, parts, first⟩

end Json

end Lightpath
