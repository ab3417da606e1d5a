import Lightpath.Model.Report
import Lightpath.Proofs.Json.Equality
import Mathlib.Data.List.TakeDrop
import Mathlib.Data.List.TakeWhile

/-!
Which values conform to a role, said without regard to how they are checked: the leaves that a role
restricts and their words stand here once more, as a table of their own. Roles may nest in a circle,
so conformity is defined over the document: a value conforms because its parts do. The check of a
role accepts exactly the values that conform.
-/

namespace Lightpath

-----------------------------------------------------------------------------------------
-- Admissible leaves
-----------------------------------------------------------------------------------------

/-- A text is a word, alone or behind the name of a module and a colon. -/
def Json.Names (s word : String)
    : Prop :=
  ':' ∉ word.toList ∧ (s = word ∨ ∃ module, s = module ++ ":" ++ word)

/-- The digits of a number, at least one. -/
def LeafRule.Digits (digits : List Char) (n : Nat)
    : Prop :=
  digits ≠ [] ∧ (∀ c ∈ digits, c.isDigit = true) ∧ Nat.ofDigitChars 10 digits 0 = n

/-- A text states a number by its digits, with or without a plus sign. -/
def LeafRule.States (s : String) (n : Nat)
    : Prop :=
  Digits s.toList n ∨ ∃ digits, s.toList = '+' :: digits ∧ Digits digits n

namespace Json

/-- A value is one of some words, alone or behind the name of a module. -/
inductive IsWord (words : List String)
    : Json → Prop where
  | names {s word : String} (listed : word ∈ words) (names : Names s word)
    : IsWord words (.string s)

/-- A value is a number above zero of at most 64 bits, as a number or in digits. The integers of a
document never have more, those that a text states can.
-/
inductive IsPositive
    : Json → Prop where
  | number {n : Int} (positive : 0 < n)
    : IsPositive (.number (.integer n))
  | numeral {s : String} {n : Nat} (states : LeafRule.States s n) (positive : 0 < n)
      (small : n < UInt64.size)
    : IsPositive (.string s)

end Json

/-- The leaves that a role restricts, each with the condition on its value. -/
inductive StructuralRole.Restricts
    : StructuralRole → String → (Json → Prop) → Prop where
  | nodeType
    : Restricts .info "node-type" (Json.IsWord ["rdm", "xpdr", "ila", "extplug"])
  | state {role : StructuralRole} (stated : role ∈ [.shelf, .circuitPack, .port])
    : Restricts role "administrative-state"
        (Json.IsWord ["inService", "outOfService", "maintenance"])
  | direction
    : Restricts .port "port-direction" (Json.IsWord ["tx", "rx", "bidirectional"])
  | qualifier
    : Restricts .port "port-qual"
        (Json.IsWord ["roadm-internal", "roadm-external", "xpdr-network", "xpdr-client",
          "switch-network", "switch-client", "otdr", "ila-external", "ila-internal"])
  | xponderKind
    : Restricts .xponder "xpdr-type"
        (Json.IsWord ["tpdr", "mpdr", "switch", "regen", "regen-uni"])
  | wavelengths
    : Restricts .degree "max-wavelengths" Json.IsPositive
  | addDropPorts
    : Restricts .sharedRiskGroup "max-add-drop-ports" Json.IsPositive

/-- What a rule on a leaf calls for. -/
def LeafRule.Admissible
    : LeafRule → Json → Prop
  | .oneOf _ words => Json.IsWord words
  | .positive _ => Json.IsPositive

namespace Json

/-- The local name of a text has no colon, and the text is it, alone or behind a module. -/
theorem names_localName (s : String)
    : Names s (localName s) := by
  have whole := List.takeWhile_append_dropWhile (p := (· ≠ ':')) (l := s.toList.reverse)
  have plain : ':' ∉ s.toList.reverse.takeWhile (· ≠ ':') := by
    intro member
    simpa using List.mem_takeWhile_imp member
  cases tail : s.toList.reverse.dropWhile (· ≠ ':') with
  | nil =>
      have bare : localName s = s := by
        simp only [localName, localName?, List.span_eq_takeWhile_dropWhile, tail, Option.getD_none]
      rw [tail, List.append_nil] at whole
      rw [whole, List.mem_reverse] at plain
      rw [bare]
      exact ⟨plain, Or.inl rfl⟩
  | cons colon before =>
      have isColon : colon = ':' := by
        have stops := List.head?_dropWhile_not (· ≠ ':') s.toList.reverse
        rw [tail] at stops
        simpa using stops
      have bare
          : localName s = String.ofList (s.toList.reverse.takeWhile (· ≠ ':')).reverse := by
        simp only [localName, localName?, List.span_eq_takeWhile_dropWhile, tail, Option.getD_some]
      have text
          : s.toList
            = before.reverse ++ ':' :: (s.toList.reverse.takeWhile (· ≠ ':')).reverse := by
        have turned := congrArg List.reverse whole
        rw [tail, isColon] at turned
        simpa using turned.symm
      refine ⟨?_, Or.inr ⟨String.ofList before.reverse, ?_⟩⟩
      · rw [bare, String.toList_ofList, List.mem_reverse]
        exact plain
      · apply String.toList_injective
        rw [bare]
        simpa using text

/-- A text is no more than one word. -/
theorem Names.localName_eq {s word : String} (names : Names s word)
    : localName s = word := by
  obtain ⟨plain, bare | ⟨module, behind⟩⟩ := names
  · obtain ⟨-, same | ⟨module, behind⟩⟩ := names_localName s
    · exact same.symm.trans bare
    · refine absurd ?_ plain
      rw [← bare, behind]
      simp
  · have letters : ∀ c ∈ word.toList.reverse, decide (c ≠ ':') = true := by
      intro c member
      have other : c ≠ ':' := by
        rintro rfl
        exact plain (List.mem_reverse.mp member)
      simpa using other
    have turned
        : s.toList.reverse = word.toList.reverse ++ ':' :: module.toList.reverse := by
      rw [behind]
      simp
    simp only [localName, localName?, turned, List.span_eq_takeWhile_dropWhile,
      List.takeWhile_append_of_pos letters, List.dropWhile_append_of_pos letters]
    simp

end Json

namespace LeafRule

/-- A text is read as the number of 64 bits that it states. -/
theorem numeral?_eq_some_iff (s : String) (n : Nat)
    : numeral? s = some n ↔ States s n ∧ n < UInt64.size := by
  have value : ∀ digits : List Char,
      digits.foldl (fun n c => n * 10 + (c.toNat - '0'.toNat)) 0
        = Nat.ofDigitChars 10 digits 0 := by
    intro digits
    rw [Nat.ofDigitChars_eq_foldl]
    simp only [Nat.mul_comm]
  have reads : ∀ digits : List Char,
      (if digits.isEmpty then none
        else if digits.all Char.isDigit then
          if Nat.ofDigitChars 10 digits 0 < UInt64.size then some (Nat.ofDigitChars 10 digits 0)
          else none
        else none) = some n
        ↔ Digits digits n ∧ n < UInt64.size := by
    intro digits
    simp only [Digits, List.isEmpty_iff, List.all_eq_true]
    split_ifs with empty decimal small
    · exact iff_of_false nofun fun stated => stated.1.1 empty
    · constructor
      · rintro ⟨⟩
        exact ⟨⟨empty, decimal, rfl⟩, small⟩
      · rintro ⟨⟨-, -, rfl⟩, -⟩
        rfl
    · refine iff_of_false nofun ?_
      rintro ⟨⟨-, -, rfl⟩, bounded⟩
      exact small bounded
    · exact iff_of_false nofun fun stated => decimal stated.1.2.1
  unfold numeral?
  simp only [value]
  split
  · rename_i digits signed
    have unsigned : ¬ Digits ('+' :: digits) n := by
      rintro ⟨-, decimal, -⟩
      simpa using decimal '+' List.mem_cons_self
    rw [reads digits, States, signed]
    simp [unsigned]
  · rename_i unsigned
    have stated : States s n ↔ Digits s.toList n :=
      or_iff_left fun ⟨digits, signed, _⟩ => unsigned digits signed
    rw [reads s.toList, stated]

theorem admits_iff (rule : LeafRule) (v : Json)
    : rule.admits v = true ↔ Admissible rule v := by
  constructor
  · intro admitted
    cases rule with
    | oneOf leaf words =>
        cases v with
        | string s =>
            have listed : Json.localName s ∈ words := by
              simpa only [admits, List.contains_iff_mem] using admitted
            exact .names listed (Json.names_localName s)
        | null | bool _ | number _ | array _ | object _ => simp [admits] at admitted
    | positive leaf =>
        obtain ⟨n, read, positive⟩ := (Option.any_eq_true _ _).mp admitted
        cases v with
        | string s =>
            obtain ⟨states, small⟩ := (numeral?_eq_some_iff s n).mp read
            exact .numeral states (by simpa using positive) small
        | number k =>
            cases k with
            | integer k =>
                have value : 0 ≤ k ∧ k.toNat = n := by simpa [number?, Json.nat?] using read
                have positive : 0 < n := by simpa using positive
                exact .number (by omega)
            | double x => simp [number?, Json.nat?] at read
        | null | bool _ | array _ | object _ => simp [number?, Json.nat?] at read
  · intro admissible
    cases rule with
    | oneOf leaf words =>
        obtain ⟨listed, names⟩ := admissible
        rw [admits, names.localName_eq]
        exact List.contains_iff_mem.mpr listed
    | positive leaf =>
        rw [admits]
        cases admissible with
        | @number n positive =>
            have read : number? (.number (.integer n)) = some n.toNat :=
              if_pos (Int.le_of_lt positive)
            rw [read]
            simpa using positive
        | numeral states positive small =>
            rw [number?, (numeral?_eq_some_iff _ _).mpr ⟨states, small⟩]
            simpa using positive

end LeafRule

/-- The rules of a role are the restrictions on its leaves. -/
theorem StructuralRole.restricts_iff {role : StructuralRole} {leaf : String}
    {condition : Json → Prop}
    : role.Restricts leaf condition
      ↔ ∃ rule ∈ role.leafRules, rule.leaf = leaf ∧ rule.Admissible = condition := by
  constructor
  · intro restricts
    cases restricts with
    | nodeType => exact ⟨.nodeTypes, by decide, rfl, rfl⟩
    | direction => exact ⟨.directions, by decide, rfl, rfl⟩
    | qualifier => exact ⟨.qualifiers, by decide, rfl, rfl⟩
    | xponderKind => exact ⟨.xponderKinds, by decide, rfl, rfl⟩
    | wavelengths | addDropPorts => exact ⟨.positive _, by decide, rfl, rfl⟩
    | state stated =>
        refine ⟨.states, ?_, rfl, rfl⟩
        revert role
        decide
  · rintro ⟨rule, listed, rfl, rfl⟩
    cases role with
    | slot | capabilities | capability | xponderPort => cases listed
    | info =>
        obtain rfl := List.mem_singleton.mp listed
        exact .nodeType
    | shelf | circuitPack =>
        obtain rfl := List.mem_singleton.mp listed
        exact .state (by decide)
    | xponder =>
        obtain rfl := List.mem_singleton.mp listed
        exact .xponderKind
    | degree =>
        obtain rfl := List.mem_singleton.mp listed
        exact .wavelengths
    | sharedRiskGroup =>
        obtain rfl := List.mem_singleton.mp listed
        exact .addDropPorts
    | port =>
        simp only [leafRules, List.mem_cons, List.not_mem_nil, or_false] at listed
        rcases listed with rfl | rfl | rfl
        · exact .direction
        · exact .qualifier
        · exact .state (by decide)

namespace Conformance

variable (lists : Checklists)

-----------------------------------------------------------------------------------------
-- Conforming values
-----------------------------------------------------------------------------------------

mutual

/-- A value conforms to a role: always where the role has no checklist, else as an object with all
attributes that are not soft, in which the parts of nested roles and the leaves are in order.
-/
inductive Conforms
    : StructuralRole → Json → Prop where
  | unlisted {role : StructuralRole} {v : Json} (none : lists role = none)
    : Conforms role v
  | listed {role : StructuralRole} {checklist : Checklist} {members : List (String × Json)}
      (known : lists role = some checklist)
      (present : ∀ a ∈ checklist.attributes, a.soft = false →
        ∃ part, members.lookup a.name = some part)
      (nested : ∀ a ∈ checklist.attributes, a.soft = false →
        ∀ inner part, a.nested = some inner → members.lookup a.name = some part →
          Holds inner part)
      (leaves : ∀ leaf condition, role.Restricts leaf condition →
        ∀ part, members.lookup leaf = some part → condition part)
    : Conforms role (.object members)

/-- A value holds instances of a role: it is one, or an array of them, and nothing else. -/
inductive Holds
    : StructuralRole → Json → Prop where
  | single {role : StructuralRole} {members : List (String × Json)}
      (conforms : Conforms role (.object members))
    : Holds role (.object members)
  | list {role : StructuralRole} {items : List Json}
      (conform : ∀ item ∈ items, Conforms role item)
    : Holds role (.array items)

end

variable {lists : Checklists}

theorem holds_object_iff {role : StructuralRole} {members : List (String × Json)}
    : Holds lists role (.object members) ↔ Conforms lists role (.object members) := by
  constructor
  · rintro (conforms | _)
    exact conforms
  · exact .single

/-- The leaves of an object are in order exactly if the rules admit those that are there. -/
theorem leaves_iff {role : StructuralRole} {members : List (String × Json)}
    : (∀ leaf condition, role.Restricts leaf condition →
          ∀ part, members.lookup leaf = some part → condition part)
      ↔ ∀ rule ∈ role.leafRules, ∀ part, members.lookup rule.leaf = some part →
          rule.Admissible part := by
  simp only [StructuralRole.restricts_iff]
  constructor
  · intro leaves rule listed
    exact leaves _ _ ⟨rule, listed, rfl, rfl⟩
  · rintro leaves _ _ ⟨rule, listed, rfl, rfl⟩
    exact leaves rule listed

/-- A role with a checklist asks an object for its attributes and leaves. -/
theorem conforms_object_iff {role : StructuralRole} {checklist : Checklist}
    (known : lists role = some checklist) (members : List (String × Json))
    : Conforms lists role (.object members)
      ↔ (∀ a ∈ checklist.attributes, a.soft = false →
          ∃ part, members.lookup a.name = some part
            ∧ ∀ inner, a.nested = some inner → Holds lists inner part)
        ∧ ∀ rule ∈ role.leafRules, ∀ leaf, members.lookup rule.leaf = some leaf →
            rule.Admissible leaf := by
  constructor
  · rintro (unlisted | ⟨asked, present, nested, leaves⟩)
    · rw [known] at unlisted
      cases unlisted
    · rw [known] at asked
      cases asked
      refine ⟨?_, leaves_iff.mp leaves⟩
      intro a member hard
      obtain ⟨part, found⟩ := present a member hard
      exact ⟨part, found, fun inner asks => nested a member hard inner part asks found⟩
  · rintro ⟨attributes, leaves⟩
    refine .listed known ?_ ?_ (leaves_iff.mpr leaves)
    · intro a member hard
      obtain ⟨part, found, -⟩ := attributes a member hard
      exact ⟨part, found⟩
    · intro a member hard inner part asks found
      obtain ⟨other, foundOther, holds⟩ := attributes a member hard
      rw [found] at foundOther
      cases foundOther
      exact holds inner asks

-----------------------------------------------------------------------------------------
-- Valid outcomes
-----------------------------------------------------------------------------------------

theorem valid_append (a b : Outcome)
    : (a ++ b).valid = true ↔ a.valid = true ∧ b.valid = true :=
  Bool.and_eq_true_iff

/-- Nothing stops at a defect: all outcomes are valid or the whole is not. -/
theorem valid_all {outcomes : List Outcome}
    : (Outcome.all outcomes).valid = true ↔ ∀ o ∈ outcomes, o.valid = true := by
  induction outcomes with
  | nil => simp [Outcome.all, Outcome.pass]
  | cons first rest ih =>
      rw [List.forall_mem_cons, ← ih]
      exact valid_append first (Outcome.all rest)

theorem valid_checkLeaf {role : StructuralRole} {path : String}
    {members : List (String × Json)} {rule : LeafRule}
    : (checkLeaf role path members rule).valid = true
      ↔ ∀ leaf, members.lookup rule.leaf = some leaf → rule.Admissible leaf := by
  unfold checkLeaf
  cases members.lookup rule.leaf with
  | none => simp [Outcome.pass]
  | some leaf =>
      simp only [Option.some.injEq, forall_eq', ← LeafRule.admits_iff]
      cases rule.admits leaf <;> simp [Outcome.pass, Outcome.fault]

/-- A soft attribute is never held against an instance; any other has to be there, and what it
nests has to be valid.
-/
theorem valid_checkAttribute {role : StructuralRole} {path : String}
    {checks : List (String × PendingCheck)} {a : Attribute}
    : (checkAttribute role path checks a).valid = true
      ↔ (a.soft = false → ∃ check, checks.lookup a.name = some check
          ∧ ∀ inner, a.nested = some inner →
              (check inner (joinPath path a.name)).valid = true) := by
  unfold checkAttribute
  cases checks.lookup a.name with
  | none => cases a.soft <;> simp [Outcome.fault]
  | some check =>
      cases a.nested with
      | none => simp [Outcome.pass]
      | some inner => cases a.soft <;> simp [Outcome.soften]

theorem lookup_checkMembers (members : List (String × Json)) (name : String)
    : (checkMembers lists members).lookup name
      = (members.lookup name).map (checkValue lists) := by
  induction members with
  | nil => rfl
  | cons first rest ih =>
      rw [checkMembers, Keyed.lookup_cons, Keyed.lookup_cons, ih]
      split <;> rfl

theorem checkItems_eq (items : List Json)
    : checkItems lists items
      = items.map fun v => (v, fun role path => checkInstance lists role v path) := by
  induction items with
  | nil => rfl
  | cons first rest ih =>
      rw [checkItems, ih, List.map_cons]
      cases plain : first.isObject <;> simp [checkInstance, plain]

-----------------------------------------------------------------------------------------
-- The check decides conformity
-----------------------------------------------------------------------------------------

/-- The check of an object decides its conformity if the checks of its parts decide theirs. -/
theorem valid_checkObject {members : List (String × Json)}
    (parts : ∀ m ∈ members, ∀ role path,
      (checkValue lists m.2 role path).valid = true ↔ Holds lists role m.2)
    (role : StructuralRole) (path : String)
    : (checkObject lists members (checkMembers lists members) role path).valid = true
      ↔ Conforms lists role (.object members) := by
  unfold checkObject
  cases known : lists role with
  | none => simp [Outcome.pass, Conforms.unlisted known]
  | some checklist =>
      have asked : ∀ a : Attribute,
          (checkAttribute role path (checkMembers lists members) a).valid = true
            ↔ (a.soft = false → ∃ part, members.lookup a.name = some part
                ∧ ∀ inner, a.nested = some inner → Holds lists inner part) := by
        intro a
        rw [valid_checkAttribute, lookup_checkMembers]
        cases found : members.lookup a.name with
        | none => simp
        | some part =>
            have decides := parts (a.name, part) (Keyed.mem_of_lookup found)
            simp only [Option.map_some, Option.some.injEq, exists_eq_left', decides]
      simp only [valid_append, valid_all, List.forall_mem_map, asked, valid_checkLeaf,
        conforms_object_iff known]

/-- The check of a single instance decides its conformity if the check of an object does. -/
theorem valid_checkInstance {v : Json} {role : StructuralRole} {path : String}
    (decides : (checkValue lists v role path).valid = true ↔ Holds lists role v)
    : (checkInstance lists role v path).valid = true ↔ Conforms lists role v := by
  cases v with
  | object members => exact decides.trans holds_object_iff
  | null | bool _ | number _ | string _ | array _ =>
      have refused
          : (refuse lists role path).valid = true ↔ lists role = none := by
        unfold refuse
        cases lists role <;> simp [Outcome.pass, Outcome.fault]
      refine refused.trans ⟨.unlisted, ?_⟩
      rintro (unlisted | _)
      exact unlisted

/-- The check of a value decides whether it holds instances of a role. -/
theorem valid_checkValue (v : Json)
    : ∀ role path, (checkValue lists v role path).valid = true ↔ Holds lists role v := by
  -- The roles may be in a circle, the parts of a document are not: the role is generalised.
  induction v using Json.induction with
  | plain v single scalar =>
      intro role path
      have bare : ¬ Holds lists role v := by
        rintro (_ | _)
        · cases single
        · cases scalar
      refine iff_of_false ?_ bare
      cases v with
      | object members => cases single
      | array items => cases scalar
      | null | bool _ | number _ | string _ => simp [checkValue, Outcome.fault]
  | array items ih =>
      intro role path
      have each : ∀ item ∈ items, ∀ path,
          (checkInstance lists role item path).valid = true ↔ Conforms lists role item :=
        fun item member path => valid_checkInstance (ih item member role path)
      rw [checkValue, checkItems_eq, valid_all]
      constructor
      · intro valid
        refine .list ?_
        intro item member
        obtain ⟨i, inside, rfl⟩ := List.getElem_of_mem member
        refine (each _ member (itemPath path role items[i] i)).mp (valid _ ?_)
        refine List.mem_mapIdx.mpr ⟨i, by simpa using inside, ?_⟩
        simp
      · rintro (_ | conform) outcome member
        obtain ⟨i, inside, rfl⟩ := List.mem_mapIdx.mp member
        rw [List.getElem_map]
        have item := List.getElem_mem (by simpa using inside)
        exact (each _ item _).mpr (conform _ item)
  | object members ih =>
      intro role path
      rw [holds_object_iff]
      exact valid_checkObject ih role path

end Conformance

/-- A checker accepts exactly the values that conform to a role, whatever the registry asks for and
however its roles nest.
-/
theorem Checker.checkRole_accepts_conforming (c : Checker) (role : StructuralRole) (v : Json)
    (path : String)
    : (c.checkRole role v path).valid = true ↔ Conformance.Conforms c.checklists role v :=
  Conformance.valid_checkInstance (Conformance.valid_checkValue v role path)

/-- A word may stand behind a module and a number in digits, but no leaf is of another kind. -/
example
    : let asked : Checklists := fun role => some ⟨role, []⟩
      let valid (role : StructuralRole) (leaf : String) (v : Json) : Bool :=
        (Conformance.checkInstance asked role (.object [(leaf, v)]) "").valid
      valid .port "port-qual" (.string "org-openroadm-port-types:otdr") = true
      ∧ valid .port "port-qual" (.string "otdr:") = false
      ∧ valid .shelf "administrative-state" (.string "planned") = false
      ∧ valid .slot "administrative-state" (.string "planned") = true
      ∧ valid .degree "max-wavelengths" (.string "+096") = true
      ∧ valid .sharedRiskGroup "max-add-drop-ports" (.ofNat 0) = false := by
  decide +kernel

end Lightpath
