import Lightpath.Json.Envelope
import Lightpath.Proofs.Keyed
import Mathlib.Data.List.Forall2
import Mathlib.Data.List.Nodup

/-!
Documents that differ in the modules before the names of their members. Where the local names
within each object differ, a member is found by its local name alone, and what is found in two such
documents differs in modules again.
-/

namespace Lightpath

namespace Json

-----------------------------------------------------------------------------------------
-- Documents that differ in modules
-----------------------------------------------------------------------------------------

/-- The names of members without their modules. -/
def localNames (members : List (String × Json))
    : List String :=
  members.map fun m => localName m.1

/-- The second document is the first one with other modules before the names of members. An object
keeps its members in the order of their names, so that they may come in another order then.
-/
inductive Requalified
    : Json → Json → Prop
  | plain {v} (single : v.isObject = false) (scalar : v.items? = none)
    : Requalified v v
  | array {items others} (each : List.Forall₂ Requalified items others)
    : Requalified (.array items) (.array others)
  | object {members renamed others} (names : localNames members = localNames renamed)
    (values : List.Forall₂ (fun m n => Requalified m.2 n.2) members renamed)
    (order : renamed.Perm others)
    : Requalified (.object members) (.object others)

theorem Requalified.in_order {members others : List (String × Json)}
    (names : localNames members = localNames others)
    (values : List.Forall₂ (fun m n => Requalified m.2 n.2) members others)
    : Requalified (.object members) (.object others) :=
  .object names values (.refl others)

/-- A property holds of the members of every object in a document. -/
inductive Everywhere (p : List (String × Json) → Prop)
    : Json → Prop
  | plain {v} (single : v.isObject = false) (scalar : v.items? = none)
    : Everywhere p v
  | array {items} (each : ∀ v ∈ items, Everywhere p v)
    : Everywhere p (.array items)
  | object {members} (here : p members) (each : ∀ m ∈ members, Everywhere p m.2)
    : Everywhere p (.object members)

section Everywhere

variable {p : List (String × Json) → Prop}

@[simp]
theorem everywhere_object {members : List (String × Json)}
    : Everywhere p (.object members) ↔ p members ∧ ∀ m ∈ members, Everywhere p m.2 := by
  constructor
  · intro holds
    cases holds with
    | plain single scalar => cases single
    | object here each => exact ⟨here, each⟩
  · intro holds
    obtain ⟨here, each⟩ := holds
    exact .object here each

@[simp]
theorem everywhere_array {items : List Json}
    : Everywhere p (.array items) ↔ ∀ v ∈ items, Everywhere p v := by
  constructor
  · intro holds
    cases holds with
    | plain single scalar => cases scalar
    | array each => exact each
  · exact .array

@[simp]
theorem everywhere_string (s : String)
    : Everywhere p (.string s) :=
  .plain rfl rfl

end Everywhere

/-- No two members of one object have the same local name. -/
def DistinctLocally
    : Json → Prop :=
  Everywhere fun members => (localNames members).Nodup

/-- Two documents that differ in modules, where local names within an object differ in both; a
property holds everywhere in the first one.
-/
structure Alike (p : List (String × Json) → Prop) (v w : Json)
    : Prop where
  requalified : Requalified v w
  holds : Everywhere p v
  distinct : DistinctLocally v
  distinct' : DistinctLocally w

-----------------------------------------------------------------------------------------
-- Finding a member by its local name
-----------------------------------------------------------------------------------------

theorem eq_of_localName {members : List (String × Json)} (distinct : (localNames members).Nodup)
    {m n : String × Json} (member : m ∈ members) (other : n ∈ members)
    (same : localName m.1 = localName n.1)
    : m = n :=
  List.inj_on_of_nodup_map distinct member other same

section Found

variable {members : List (String × Json)} {name : String}

/-- A member that is found under a name without a module has it for its local name. -/
theorem mem_of_field? (bare : localName? name = none) {v : Json}
    (found : (object members).field? name = some v)
    : ∃ m ∈ members, localName m.1 = name ∧ m.2 = v := by
  rw [field?] at found
  split at found
  · rename_i w stated
    cases found
    refine ⟨(name, v), Keyed.mem_of_lookup stated, ?_, rfl⟩
    rw [localName, bare, Option.getD_none]
  · obtain ⟨m, first, same⟩ := Option.map_eq_some_iff.mp found
    have qualified : localName? m.1 = some name := by simpa using List.find?_some first
    exact ⟨m, List.mem_of_find?_eq_some first, by rw [localName, qualified, Option.getD_some], same⟩

/-- Some member is found under a name that is the local name of one. -/
theorem isSome_field? {m : String × Json} (member : m ∈ members) (named : localName m.1 = name)
    : ((object members).field? name).isSome = true := by
  rw [field?]
  split
  · rfl
  · rename_i unstated
    rw [Option.isSome_map, List.find?_isSome]
    refine ⟨m, member, decide_eq_true ?_⟩
    rw [localName] at named
    cases module : localName? m.1 with
    | some l =>
        rw [module, Option.getD_some] at named
        rw [named]
    | none =>
        rw [module, Option.getD_none] at named
        have other := List.lookup_eq_none_iff.mp unstated m member
        simp [named] at other

theorem not_mem_localNames (absent : (object members).field? name = none)
    : name ∉ localNames members := by
  intro listed
  obtain ⟨m, member, named⟩ := List.mem_map.mp listed
  have found := isSome_field? member named
  rw [absent] at found
  cases found

/-- Where local names differ, a name without a module finds the one member that has it locally. -/
theorem field?_eq_some_iff (bare : localName? name = none)
    (distinct : (localNames members).Nodup) {v : Json}
    : (object members).field? name = some v ↔ ∃ m ∈ members, localName m.1 = name ∧ m.2 = v := by
  constructor
  · exact mem_of_field? bare
  · intro listed
    obtain ⟨m, member, named, value⟩ := listed
    obtain ⟨w, found⟩ := Option.isSome_iff_exists.mp (isSome_field? member named)
    obtain ⟨n, other, also, found'⟩ := mem_of_field? bare found
    obtain rfl := eq_of_localName distinct member other (named.trans also.symm)
    rw [found, ← found', value]

end Found

/-- The only member of an object is unwrapped if `data` is its local name. -/
theorem unwrapData_object_single (m : String × Json)
    : (object [m]).unwrapData = if localName m.1 = "data" then m.2 else object [m] := by
  have data : localName? "data" = none := by decide
  change ((object [m]).field? "data").getD (object [m]) = _
  split
  · rename_i named
    have distinct : (localNames [m]).Nodup := List.nodup_singleton _
    rw [(field?_eq_some_iff data distinct).mpr ⟨m, List.mem_singleton_self m, named, rfl⟩]
    rfl
  · rename_i other
    cases found : (object [m]).field? "data" with
    | none => rfl
    | some v =>
        obtain ⟨n, member, named, -⟩ := mem_of_field? data found
        obtain rfl := List.mem_singleton.mp member
        exact absurd named other

/-- Where there is no only member, nothing is unwrapped. -/
theorem unwrapData_of_length_ne {members : List (String × Json)} (several : members.length ≠ 1)
    : (object members).unwrapData = object members := by
  rcases members with _ | ⟨m, _ | ⟨m', members⟩⟩
  · rfl
  · exact absurd rfl several
  · rfl

theorem unwrapData_of_not_object {v : Json} (single : v.isObject = false)
    : v.unwrapData = v := by
  cases v with
  | object members => cases single
  | null | bool _ | number _ | string _ | array _ => rfl

-----------------------------------------------------------------------------------------
-- What is found in documents that differ in modules
-----------------------------------------------------------------------------------------

section Members

variable {members others : List (String × Json)}

theorem Requalified.of_object (requalified : Requalified (.object members) (.object others))
    : ∃ renamed, localNames members = localNames renamed
      ∧ List.Forall₂ (fun m n => Requalified m.2 n.2) members renamed ∧ renamed.Perm others := by
  cases requalified with
  | plain single scalar => cases single
  | object names values order => exact ⟨_, names, values, order⟩

theorem Requalified.perm_localNames (requalified : Requalified (.object members) (.object others))
    : (localNames members).Perm (localNames others) := by
  obtain ⟨renamed, names, -, order⟩ := requalified.of_object
  rw [names]
  exact order.map _

/-- Every member is among the others with another module before its name. -/
theorem Requalified.exists_member (requalified : Requalified (.object members) (.object others))
    {m : String × Json} (member : m ∈ members)
    : ∃ n ∈ others, localName m.1 = localName n.1 ∧ Requalified m.2 n.2 := by
  obtain ⟨renamed, names, values, order⟩ := requalified.of_object
  -- the partner is sought before the members are put in their new order
  simp only [← order.mem_iff]
  clear order requalified
  induction values with
  | nil => simp at member
  | cons value values ih =>
      obtain ⟨first, later⟩ := List.cons.inj names
      rcases List.mem_cons.mp member with rfl | member
      · exact ⟨_, List.mem_cons_self, first, value⟩
      · obtain ⟨n, other, named, value⟩ := ih member later
        exact ⟨n, List.mem_cons_of_mem _ other, named, value⟩

end Members

namespace Alike

variable {p : List (String × Json) → Prop} {v w : Json}

/-- Documents that differ in modules have the same text, if they are texts. -/
theorem string? (alike : Alike p v w)
    : v.string? = w.string? := by
  cases alike.requalified with
  | plain single scalar => rfl
  | array each => rfl
  | object names values order => rfl

/-- Where there are no names, alike documents are the same. -/
theorem eq_of_scalar (alike : Alike p v w) (single : v.isObject = false) (scalar : v.items? = none)
    : v = w := by
  cases alike.requalified with
  | plain single scalar => rfl
  | array each => cases scalar
  | object names values order => cases single

/-- Members of alike objects are alike themselves if they differ in modules. -/
theorem of_members {members others : List (String × Json)}
    (alike : Alike p (.object members) (.object others)) {m n : String × Json}
    (member : m ∈ members) (other : n ∈ others) (requalified : Requalified m.2 n.2)
    : Alike p m.2 n.2 where
  requalified := requalified
  holds := (everywhere_object.mp alike.holds).2 m member
  distinct := (everywhere_object.mp alike.distinct).2 m member
  distinct' := (everywhere_object.mp alike.distinct').2 n other

/-- Both documents have the member of a name or neither has it, and the two members are alike. -/
theorem field? (alike : Alike p v w) (name : String) (bare : localName? name = none := by decide)
    : Option.Rel (Alike p) (v.field? name) (w.field? name) := by
  have requalified := alike.requalified
  cases v with
  | object members =>
      cases w with
      | object others =>
          have differ := (everywhere_object.mp alike.distinct').1
          cases found : (object members).field? name with
          | some v =>
              obtain ⟨m, member, named, rfl⟩ := mem_of_field? bare found
              obtain ⟨n, other, same, value⟩ := requalified.exists_member member
              rw [(field?_eq_some_iff bare differ).mpr ⟨n, other, same ▸ named, rfl⟩]
              exact .some (alike.of_members member other value)
          | none =>
              cases found' : (object others).field? name with
              | none => exact .none
              | some w =>
                  obtain ⟨n, other, named, -⟩ := mem_of_field? bare found'
                  have listed : name ∈ localNames members := by
                    rw [requalified.perm_localNames.mem_iff, ← named]
                    exact List.mem_map_of_mem other
                  exact absurd listed (not_mem_localNames found)
      | null | bool _ | number _ | string _ | array _ => cases requalified
  | array items =>
      cases requalified with
      | plain single scalar => exact .none
      | array each => exact .none
  | null | bool _ | number _ | string _ =>
      cases requalified
      exact .none

/-- What is computed of members that are alike is the same, if it is the same of alike documents. -/
theorem bind_eq {α : Type} {found found' : Option Json} {read : Json → Option α}
    (alike : Option.Rel (Alike p) found found') (same : ∀ v w, Alike p v w → read v = read w)
    : found.bind read = found'.bind read := by
  cases alike with
  | some alike => exact same _ _ alike
  | none => rfl

theorem bind {found found' : Option Json} {read : Json → Option Json}
    (alike : Option.Rel (Alike p) found found')
    (same : ∀ v w, Alike p v w → Option.Rel (Alike p) (read v) (read w))
    : Option.Rel (Alike p) (found.bind read) (found'.bind read) := by
  cases alike with
  | some alike => exact same _ _ alike
  | none => exact .none

theorem or {found found' otherwise otherwise' : Option Json}
    (alike : Option.Rel (Alike p) found found')
    (also : Option.Rel (Alike p) otherwise otherwise')
    : Option.Rel (Alike p) (found.or otherwise) (found'.or otherwise') := by
  cases alike with
  | some alike => exact .some alike
  | none => exact also

theorem textField? (alike : Alike p v w) (name : String)
    (bare : localName? name = none := by decide)
    : v.textField? name = w.textField? name :=
  bind_eq (alike.field? name bare) fun _ _ => string?

theorem asList (alike : Alike p v w)
    : List.Forall₂ (Alike p) v.asList w.asList := by
  cases alike.requalified with
  | plain single scalar =>
      cases v with
      | null => exact .nil
      | array items => cases scalar
      | bool _ | number _ | string _ | object _ => exact .cons alike .nil
  | array each =>
      have holds := everywhere_array.mp alike.holds
      have distinct := everywhere_array.mp alike.distinct
      have distinct' := everywhere_array.mp alike.distinct'
      clear alike
      induction each with
      | nil => exact .nil
      | cons requalified each ih =>
          obtain ⟨holds, later⟩ := List.forall_mem_cons.mp holds
          obtain ⟨distinct, apart⟩ := List.forall_mem_cons.mp distinct
          obtain ⟨distinct', apart'⟩ := List.forall_mem_cons.mp distinct'
          exact .cons ⟨requalified, holds, distinct, distinct'⟩ (ih later apart apart')
  | object names values order => exact .cons alike .nil

/-- Objects that differ in modules have one member each, and these are alike, or neither has an only
member.
-/
theorem onlyMember {members others : List (String × Json)}
    (alike : Alike p (.object members) (.object others))
    : (∃ m n, members = [m] ∧ others = [n] ∧ localName m.1 = localName n.1 ∧ Alike p m.2 n.2)
      ∨ (members.length ≠ 1 ∧ others.length ≠ 1) := by
  have count : members.length = others.length := by
    simpa [localNames] using alike.requalified.perm_localNames.length_eq
  by_cases one : members.length = 1
  · obtain ⟨m, rfl⟩ := List.length_eq_one_iff.mp one
    obtain ⟨n, rfl⟩ := List.length_eq_one_iff.mp count.symm
    have only := List.mem_singleton_self m
    obtain ⟨n', other, named, value⟩ := alike.requalified.exists_member only
    obtain rfl := List.mem_singleton.mp other
    exact Or.inl ⟨m, n', rfl, rfl, named, alike.of_members only other value⟩
  · exact Or.inr ⟨one, count ▸ one⟩

/-- Inside an optional `data` the documents are alike as well. -/
theorem unwrapData (alike : Alike p v w)
    : Alike p v.unwrapData w.unwrapData := by
  cases alike.requalified with
  | plain single scalar =>
      rw [unwrapData_of_not_object single]
      exact alike
  | array each => exact alike
  | object names values order =>
      obtain ⟨m, n, rfl, rfl, named, value⟩ | ⟨several, several'⟩ := alike.onlyMember
      · rw [unwrapData_object_single, unwrapData_object_single, named]
        split
        · exact value
        · exact alike
      · rw [unwrapData_of_length_ne several, unwrapData_of_length_ne several']
        exact alike

end Alike

-----------------------------------------------------------------------------------------
-- Lists of documents that differ in modules
-----------------------------------------------------------------------------------------

section Lists

variable {α β : Type} {r : α → β → Prop} {as : List α} {bs : List β} (alike : List.Forall₂ r as bs)
include alike

theorem rel_head?
    : Option.Rel r as.head? bs.head? := by
  cases alike with
  | nil => exact .none
  | cons first _ => exact .some first

theorem rel_find? {p : α → Bool} {q : β → Bool} (same : ∀ a b, r a b → p a = q b)
    : Option.Rel r (as.find? p) (bs.find? q) := by
  induction alike with
  | nil => exact .none
  | cons first _ ih =>
      rw [List.find?_cons, List.find?_cons, same _ _ first]
      split
      · exact .some first
      · exact ih

theorem filterMap_eq {γ : Type} {f : α → Option γ} {g : β → Option γ}
    (same : ∀ a b, r a b → f a = g b)
    : as.filterMap f = bs.filterMap g := by
  induction alike with
  | nil => rfl
  | cons first _ ih => rw [List.filterMap_cons, List.filterMap_cons, same _ _ first, ih]

end Lists

end Json
end Lightpath
