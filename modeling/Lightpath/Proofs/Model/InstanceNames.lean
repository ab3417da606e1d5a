import Lightpath.Model.Builtin
import Lightpath.Proofs.Model.CountedDefects
import Mathlib.Data.List.Nodup

/-!
The names of the instances in a valid tree. In each version in use the instances of a valid tree have
the leaf that names them, down through all attributes that are not soft. What the leaf holds is not
looked at: a tree with any other names is valid exactly if it was valid with its own.
-/

namespace Lightpath

theorem StructuralRole.mem_all (role : StructuralRole)
    : role ∈ all := by
  cases role <;> decide

namespace Conformance

-----------------------------------------------------------------------------------------
-- Reached instances
-----------------------------------------------------------------------------------------

/-- A value is an instance with the given members, or a list that has it as an item. -/
inductive HasInstance
    : Json → List (String × Json) → Prop where
  | single {members : List (String × Json)}
    : HasInstance (.object members) members
  | item {items : List Json} {members : List (String × Json)}
      (listed : .object members ∈ items)
    : HasInstance (.array items) members

/-- The instances that are reached from a value held for a role: its own, and those that a reached
instance nests in an attribute that is not soft.
-/
inductive Reaches (lists : Checklists) (role : StructuralRole) (v : Json)
    : StructuralRole → List (String × Json) → Prop where
  | top {members : List (String × Json)} (held : HasInstance v members)
    : Reaches lists role v role members
  | nested {outer inner : StructuralRole} {around members : List (String × Json)}
      {checklist : Checklist} {a : Attribute} {part : Json}
      (reached : Reaches lists role v outer around)
      (known : lists outer = some checklist) (listed : a ∈ checklist.attributes)
      (hard : a.soft = false) (nests : a.nested = some inner)
      (found : around.lookup a.name = some part) (held : HasInstance part members)
    : Reaches lists role v inner members

/-- The checklists of a version keep apart what names an instance, what nests further ones and what
rules restrict: an instance is asked for its name, only roles with a checklist are nested, no
attribute is listed twice, and one that nests a role is neither the name nor a restricted leaf.
-/
structure Orderly (lists : Checklists)
    : Prop where
  asked
    : ∀ role checklist leaf,
        lists role = some checklist → role.keyLeaf? = some leaf →
          ∃ a ∈ checklist.attributes, a.name = leaf ∧ a.soft = false
  known
    : ∀ role checklist, lists role = some checklist →
        ∀ a ∈ checklist.attributes, a.soft = false →
          ∀ inner, a.nested = some inner → (lists inner).isSome
  once : ∀ role checklist, lists role = some checklist → checklist.names.Nodup
  apart
    : ∀ role checklist, lists role = some checklist →
        ∀ a ∈ checklist.attributes, a.nested.isSome →
          role.keyLeaf? ≠ some a.name ∧ ∀ rule ∈ role.leafRules, rule.leaf ≠ a.name

variable {lists : Checklists}

theorem Holds.conforms {role : StructuralRole} {v : Json} {members : List (String × Json)}
    (holds : Holds lists role v) (held : HasInstance v members)
    : Conforms lists role (.object members) := by
  cases held with
  | single => exact holds_object_iff.mp holds
  | item listed =>
      cases holds with
      | list conform => exact conform _ listed

/-- What is reached from a value that holds a role conforms, and its role has a checklist. -/
theorem Reaches.conforms (orderly : Orderly lists) {role inner : StructuralRole} {v : Json}
    {members : List (String × Json)} (asked : (lists role).isSome) (holds : Holds lists role v)
    (reached : Reaches lists role v inner members)
    : (lists inner).isSome ∧ Conforms lists inner (.object members) := by
  induction reached with
  | top held => exact ⟨asked, holds.conforms held⟩
  | nested _ known listed hard nests found held ih =>
      refine ⟨orderly.known _ _ known _ listed hard _ nests, ?_⟩
      obtain ⟨attributes, -⟩ := (conforms_object_iff known _).mp ih.2
      obtain ⟨part, foundPart, inside⟩ := attributes _ listed hard
      rw [found] at foundPart
      cases foundPart
      exact (inside _ nests).conforms held

/-- What is reached from a value that holds a role has the leaf that names it. -/
theorem Reaches.exists_name (orderly : Orderly lists) {role inner : StructuralRole} {v : Json}
    {members : List (String × Json)} (asked : (lists role).isSome) (holds : Holds lists role v)
    (reached : Reaches lists role v inner members) {leaf : String}
    (names : inner.keyLeaf? = some leaf)
    : ∃ name, members.lookup leaf = some name := by
  obtain ⟨listed, conforms⟩ := reached.conforms orderly asked holds
  obtain ⟨checklist, known⟩ := Option.isSome_iff_exists.mp listed
  obtain ⟨a, member, rfl, hard⟩ := orderly.asked _ _ _ known names
  obtain ⟨attributes, -⟩ := (conforms_object_iff known _).mp conforms
  obtain ⟨name, found, -⟩ := attributes a member hard
  exact ⟨name, found⟩

-----------------------------------------------------------------------------------------
-- Other names
-----------------------------------------------------------------------------------------

variable (lists) (rename : Json → Json)

/-- The role that an attribute of a role nests, if it is not soft. -/
def innerRole? (role : StructuralRole) (name : String)
    : Option StructuralRole :=
  (lists role).bind fun checklist =>
    (checklist.attributes.find? fun a => a.name = name ∧ a.soft = false).bind Attribute.nested

/-- A member of an instance with another name, given what becomes of it when it holds a role: the
name itself, what nests a role, or anything else, which stays.
-/
def otherMember (role : StructuralRole) (name : String) (v : Json) (inside : StructuralRole → Json)
    : Json :=
  if role.keyLeaf? = some name then rename v
  else ((innerRole? lists role name).map inside).getD v

mutual

/-- The value with other names for all instances that are reached from it. -/
def withNames
    : Json → StructuralRole → Json
  | .object members => fun role => .object (membersWithNames members role)
  | .array items => fun role => .array (itemsWithNames items role)
  | v => fun _ => v

/-- The items with other names; only objects are instances. -/
def itemsWithNames
    : List Json → StructuralRole → List Json
  | [] => fun _ => []
  | v :: rest => fun role =>
      (if v.isObject then withNames v role else v) :: itemsWithNames rest role

/-- The members of an instance with another name, and with other names in what it nests. -/
def membersWithNames
    : List (String × Json) → StructuralRole → List (String × Json)
  | [] => fun _ => []
  | (k, v) :: rest => fun role =>
      (k, otherMember lists rename role k v (withNames v)) :: membersWithNames rest role

end

theorem membersWithNames_eq (members : List (String × Json)) (role : StructuralRole)
    : membersWithNames lists rename members role
      = members.map fun m =>
          (m.1, otherMember lists rename role m.1 m.2 (withNames lists rename m.2)) := by
  induction members with
  | nil => simp [membersWithNames]
  | cons first rest ih =>
      rw [List.map_cons, ← ih]
      rfl

theorem lookup_membersWithNames (members : List (String × Json)) (role : StructuralRole)
    (name : String)
    : (membersWithNames lists rename members role).lookup name
      = (members.lookup name).map fun v =>
          otherMember lists rename role name v (withNames lists rename v) := by
  rw [membersWithNames_eq]
  exact Keyed.lookup_map (fun k v => otherMember lists rename role k v (withNames lists rename v))
    members name

theorem withNames_array (items : List Json) (role : StructuralRole)
    : withNames lists rename (.array items) role
      = .array (items.map fun v => if v.isObject then withNames lists rename v role else v) := by
  have each
      : itemsWithNames lists rename items role
        = items.map fun v => if v.isObject then withNames lists rename v role else v := by
    induction items with
    | nil => simp [itemsWithNames]
    | cons first rest ih =>
        rw [List.map_cons, ← ih]
        rfl
  exact congrArg Json.array each

variable {lists}

theorem name_of_find?_hard {attributes : List Attribute} {name : String} {a : Attribute}
    (found : attributes.find? (fun b => b.name = name ∧ b.soft = false) = some a)
    : a.name = name := by
  have both := List.find?_some found
  simp only [decide_eq_true_eq] at both
  exact both.1

/-- An attribute that is not soft is the one that is found under its name. -/
theorem Orderly.innerRole?_eq (orderly : Orderly lists) {role : StructuralRole}
    {checklist : Checklist} (known : lists role = some checklist) {a : Attribute}
    (listed : a ∈ checklist.attributes) (hard : a.soft = false)
    : innerRole? lists role a.name = a.nested := by
  have found
      : checklist.attributes.find? (fun b => b.name = a.name ∧ b.soft = false) = some a := by
    obtain ⟨b, other⟩ : ∃ b, checklist.attributes.find?
        (fun b => b.name = a.name ∧ b.soft = false) = some b := by
      refine Option.isSome_iff_exists.mp (List.find?_isSome.mpr ⟨a, listed, ?_⟩)
      simp [hard]
    have same := List.inj_on_of_nodup_map (orderly.once role checklist known)
      (List.mem_of_find?_eq_some other) listed (name_of_find?_hard other)
    rw [other, same]
  rw [innerRole?, known, Option.bind_some, found, Option.bind_some]

/-- No rule restricts the leaf that names an instance. -/
theorem keyLeaf?_ne_of_rule {role : StructuralRole} {rule : LeafRule}
    (restricted : rule ∈ role.leafRules)
    : role.keyLeaf? ≠ some rule.leaf := by
  revert rule
  cases role <;> decide

/-- A leaf that a rule restricts keeps its value. -/
theorem Orderly.otherMember_of_rule (orderly : Orderly lists) {role : StructuralRole}
    {rule : LeafRule} (restricted : rule ∈ role.leafRules) (v : Json)
    (inside : StructuralRole → Json)
    : otherMember lists rename role rule.leaf v inside = v := by
  have plain : innerRole? lists role rule.leaf = none := by
    by_contra nests
    obtain ⟨inner, nests⟩ := Option.ne_none_iff_exists'.mp nests
    obtain ⟨checklist, known, nests⟩ := Option.bind_eq_some_iff.mp nests
    obtain ⟨a, found, nests⟩ := Option.bind_eq_some_iff.mp nests
    obtain ⟨-, free⟩ := orderly.apart role checklist known a (List.mem_of_find?_eq_some found)
      (Option.isSome_iff_exists.mpr ⟨inner, nests⟩)
    exact free rule restricted (name_of_find?_hard found).symm
  rw [otherMember, if_neg (keyLeaf?_ne_of_rule restricted), plain]
  rfl

/-- What an attribute that is not soft nests is given other names as an instance of that role. -/
theorem Orderly.otherMember_of_nested (orderly : Orderly lists) {role inner : StructuralRole}
    {checklist : Checklist} (known : lists role = some checklist) {a : Attribute}
    (listed : a ∈ checklist.attributes) (hard : a.soft = false) (nests : a.nested = some inner)
    (v : Json) (inside : StructuralRole → Json)
    : otherMember lists rename role a.name v inside = inside inner := by
  obtain ⟨unnamed, -⟩ := orderly.apart role checklist known a listed
    (Option.isSome_iff_exists.mpr ⟨inner, nests⟩)
  rw [otherMember, if_neg unnamed, orderly.innerRole?_eq known listed hard, nests]
  rfl

-----------------------------------------------------------------------------------------
-- Validity under other names
-----------------------------------------------------------------------------------------

/-- An object conforms with other names exactly if it does with its own, if so do its parts. -/
theorem Orderly.conforms_membersWithNames (orderly : Orderly lists)
    {members : List (String × Json)}
    (parts : ∀ m ∈ members, ∀ role,
      Holds lists role (withNames lists rename m.2 role) ↔ Holds lists role m.2)
    (role : StructuralRole)
    : Conforms lists role (.object (membersWithNames lists rename members role))
      ↔ Conforms lists role (.object members) := by
  cases known : lists role with
  | none => exact iff_of_true (.unlisted known) (.unlisted known)
  | some checklist =>
      rw [conforms_object_iff known, conforms_object_iff known]
      simp only [lookup_membersWithNames]
      refine and_congr ?attributes ?leaves
      case attributes =>
        refine forall_congr' fun a => forall_congr' fun listed => forall_congr' fun hard => ?_
        cases found : members.lookup a.name with
        | none => simp
        | some part =>
            simp only [Option.map_some, Option.some.injEq, exists_eq_left']
            refine forall_congr' fun inner => forall_congr' fun nests => ?_
            rw [orderly.otherMember_of_nested rename known listed hard nests]
            exact parts (a.name, part) (Keyed.mem_of_lookup found) inner
      case leaves =>
        refine forall_congr' fun rule => forall_congr' fun restricted => ?_
        cases members.lookup rule.leaf with
        | none => simp
        | some leaf =>
            rw [Option.map_some, orderly.otherMember_of_rule rename restricted]

/-- A value holds a role with other names exactly if it does with its own. -/
theorem Orderly.holds_withNames (orderly : Orderly lists) (v : Json)
    : ∀ role, Holds lists role (withNames lists rename v role) ↔ Holds lists role v := by
  -- The roles may be in a circle, the parts of a document are not: the role is generalised.
  induction v using Json.induction with
  | plain v single scalar =>
      intro role
      cases v with
      | object members => cases single
      | array items => cases scalar
      | null | bool _ | number _ | string _ => rfl
  | array items ih =>
      intro role
      have each : ∀ item ∈ items,
          Conforms lists role (if item.isObject then withNames lists rename item role else item)
            ↔ Conforms lists role item := by
        intro item member
        cases item with
        | object members =>
            have same := ih (.object members) member role
            rw [withNames, holds_object_iff, holds_object_iff] at same
            simpa only [Json.isObject, if_true, withNames] using same
        | null | bool _ | number _ | string _ | array _ => rfl
      rw [withNames_array]
      constructor
      · rintro (_ | conform)
        refine .list fun item member => (each item member).mp ?_
        exact conform _ (List.mem_map_of_mem member)
      · rintro (_ | conform)
        refine .list (List.forall_mem_map.mpr ?_)
        exact fun item member => (each item member).mpr (conform item member)
  | object members ih =>
      intro role
      rw [withNames, holds_object_iff, holds_object_iff]
      exact orderly.conforms_membersWithNames rename ih role

/-- An instance of a value with other names is one of the value, with another name. -/
theorem HasInstance.exists_members {v : Json} {role : StructuralRole}
    {members : List (String × Json)} (held : HasInstance (withNames lists rename v role) members)
    : ∃ own, members = membersWithNames lists rename own role := by
  cases v with
  | object own =>
      cases held
      exact ⟨own, rfl⟩
  | array items =>
      rw [withNames_array] at held
      cases held with
      | item listed =>
          obtain ⟨item, -, same⟩ := List.mem_map.mp listed
          cases item with
          | object own =>
              cases same
              exact ⟨own, rfl⟩
          | null | bool _ | number _ | string _ | array _ => cases same
  | null | bool _ | number _ | string _ => cases held

/-- What is reached in a value with other names has another name than before. -/
theorem Reaches.exists_members (orderly : Orderly lists) {v : Json}
    {role inner : StructuralRole} {members : List (String × Json)}
    (reached : Reaches lists role (withNames lists rename v role) inner members)
    : ∃ own, members = membersWithNames lists rename own inner := by
  induction reached with
  | top held => exact held.exists_members rename
  | nested _ known listed hard nests found held ih =>
      obtain ⟨around, rfl⟩ := ih
      rw [lookup_membersWithNames] at found
      obtain ⟨part, -, rfl⟩ := Option.map_eq_some_iff.mp found
      rw [orderly.otherMember_of_nested rename known listed hard nests] at held
      exact held.exists_members rename

theorem Reaches.renamed (orderly : Orderly lists) {v : Json} {role inner : StructuralRole}
    {members : List (String × Json)}
    (reached : Reaches lists role (withNames lists rename v role) inner members)
    {leaf : String} (names : inner.keyLeaf? = some leaf) {name : Json}
    (found : members.lookup leaf = some name)
    : ∃ own, name = rename own := by
  obtain ⟨own, rfl⟩ := reached.exists_members rename orderly
  rw [lookup_membersWithNames] at found
  obtain ⟨v, -, rfl⟩ := Option.map_eq_some_iff.mp found
  exact ⟨v, if_pos names⟩

end Conformance

-----------------------------------------------------------------------------------------
-- The versions in use
-----------------------------------------------------------------------------------------

/-- The checklists of the versions in use are orderly. -/
theorem Registry.orderly_builtin {version : ModelVersion}
    (inUse : version ∈ Registry.builtin.versions)
    : Conformance.Orderly (Registry.builtin.checklist? version) := by
  constructor
  case asked =>
    have tables
        : ∀ version ∈ builtin.versions, ∀ role ∈ StructuralRole.all,
            ∀ checklist ∈ builtin.checklist? version role, ∀ leaf ∈ role.keyLeaf?,
              ∃ a ∈ checklist.attributes, a.name = leaf ∧ a.soft = false := by
      decide +kernel
    intro role checklist leaf known names
    exact tables version inUse role role.mem_all checklist known leaf names
  case known =>
    have tables
        : ∀ version ∈ builtin.versions, ∀ role ∈ StructuralRole.all,
            ∀ checklist ∈ builtin.checklist? version role, ∀ a ∈ checklist.attributes,
              a.soft = false → ∀ inner ∈ a.nested,
                (builtin.checklist? version inner).isSome := by
      decide +kernel
    intro role checklist known
    exact tables version inUse role role.mem_all checklist known
  case once =>
    have tables
        : ∀ version ∈ builtin.versions, ∀ role ∈ StructuralRole.all,
            ∀ checklist ∈ builtin.checklist? version role, checklist.names.Nodup := by
      decide +kernel
    intro role checklist known
    exact tables version inUse role role.mem_all checklist known
  case apart =>
    have tables
        : ∀ version ∈ builtin.versions, ∀ role ∈ StructuralRole.all,
            ∀ checklist ∈ builtin.checklist? version role, ∀ a ∈ checklist.attributes,
              a.nested.isSome →
                role.keyLeaf? ≠ some a.name ∧ ∀ rule ∈ role.leafRules, rule.leaf ≠ a.name := by
      decide +kernel
    intro role checklist known
    exact tables version inUse role role.mem_all checklist known

namespace Checker

/-- The configuration with other names for all instances in its subtrees. -/
def renamed (c : Checker) (rename : Json → Json)
    : Json → Json
  | .object members =>
      .object (members.map fun m =>
        (m.1,
          match DeviceTree.all.find? fun tree => tree.key = m.1 with
            | some tree => Conformance.withNames c.checklists rename m.2 tree.role
            | none => m.2))
  | v => v

theorem get?_renamed (c : Checker) (rename : Json → Json) (device : Json) (tree : DeviceTree)
    : (c.renamed rename device).get? tree.key
      = (device.get? tree.key).map fun v =>
          Conformance.withNames c.checklists rename v tree.role := by
  have own : DeviceTree.all.find? (fun other => other.key = tree.key) = some tree := by
    cases tree <;> decide
  cases device with
  | object members =>
      refine (Keyed.lookup_map (fun k v =>
        match DeviceTree.all.find? fun tree => tree.key = k with
          | some tree => Conformance.withNames c.checklists rename v tree.role
          | none => v) members tree.key).trans ?_
      simp only [own]
      rfl
  | null | bool _ | number _ | string _ | array _ => rfl

theorem instances_withNames (lists : Checklists) (rename : Json → Json) (v : Json)
    (role : StructuralRole)
    : instances (Conformance.withNames lists rename v role) = instances v := by
  cases v with
  | array items =>
      rw [Conformance.withNames_array, instances, List.length_map]
      rfl
  | null | bool _ | number _ | string _ | object _ => rfl

/-- A subtree that is found valid is there, and holds the role of its instances. -/
theorem holds_of_checkTree? {c : Checker} {device : Json} {tree : DeviceTree} {check : TreeCheck}
    (checked : c.checkTree? device tree = some check) (valid : check.result.valid = true)
    : (c.checklists tree.role).isSome
      ∧ ∃ v, device.get? tree.key = some v ∧ Conformance.Holds c.checklists tree.role v := by
  unfold checkTree? at checked
  split at checked
  · cases checked
  · rename_i checklist known
    split at checked
    · cases checked
      cases valid
    · rename_i v found
      cases checked
      exact ⟨known ▸ rfl, v, found, (Conformance.valid_checkValue v _ _).mp valid⟩

theorem exists_check_of_treeValid? {c : Checker} {document : Json}
    {category : Option DeviceCategory} {tree : DeviceTree} {valid : Bool}
    (told : (c.checkDevice document category).treeValid? tree = some valid)
    : ∃ check,
        c.checkTree? (deviceRoot document) tree = some check ∧ check.result.valid = valid := by
  obtain ⟨result, found, rfl⟩ := Option.map_eq_some_iff.mp told
  have same : result.tree = tree := by simpa using List.find?_some found
  obtain ⟨check, member, rfl⟩ := List.mem_map.mp (List.mem_of_find?_eq_some found)
  obtain ⟨other, -, checked⟩ := List.mem_filterMap.mp member
  obtain ⟨rfl, -⟩ := checkTree?_coherent checked
  exact ⟨check, same ▸ checked, rfl⟩

/-- The result for a subtree is the same under other names. -/
theorem result_renamed {c : Checker} (orderly : Conformance.Orderly c.checklists)
    (rename : Json → Json) (device : Json) (tree : DeviceTree)
    : (c.checkTree? (c.renamed rename device) tree).map TreeCheck.result
      = (c.checkTree? device tree).map TreeCheck.result := by
  unfold checkTree?
  rw [get?_renamed]
  cases c.checklists tree.role with
  | none => rfl
  | some checklist =>
      cases device.get? tree.key with
      | none => rfl
      | some v =>
          have valid
              : (Conformance.checkValue c.checklists
                    (Conformance.withNames c.checklists rename v tree.role) tree.role
                    tree.key).valid
                = (Conformance.checkValue c.checklists v tree.role tree.key).valid := by
            rw [Bool.eq_iff_iff, Conformance.valid_checkValue, Conformance.valid_checkValue]
            exact orderly.holds_withNames rename v tree.role
          simp only [Option.map_some, valid, instances_withNames]

/-- In each version in use a tree that is reported valid is there, and all instances reached in it
have the leaf that names them. What the leaf holds is of no account: whatever is put in place of the
names of all instances, each tree has the same result as before.
-/
theorem valid_trees_only_have_names {version : ModelVersion}
    (inUse : version ∈ Registry.builtin.versions)
    : let c : Checker := ⟨Registry.builtin, version⟩
      (∀ document category tree,
          (c.checkDevice document category).treeValid? tree = some true →
            ∃ v,
              (deviceRoot document).get? tree.key = some v
              ∧ ∀ role members, Conformance.Reaches c.checklists tree.role v role members →
                  ∀ leaf, role.keyLeaf? = some leaf → ∃ name, members.lookup leaf = some name)
      ∧ ∀ rename device tree,
          (c.checkTree? (c.renamed rename device) tree).map TreeCheck.result
            = (c.checkTree? device tree).map TreeCheck.result
          ∧ ∀ v, (c.renamed rename device).get? tree.key = some v →
              ∀ role members, Conformance.Reaches c.checklists tree.role v role members →
                ∀ leaf, role.keyLeaf? = some leaf →
                  ∀ name, members.lookup leaf = some name → ∃ own, name = rename own := by
  intro c
  have orderly : Conformance.Orderly c.checklists := Registry.orderly_builtin inUse
  constructor
  · intro document category tree told
    obtain ⟨check, checked, valid⟩ := exists_check_of_treeValid? told
    obtain ⟨asked, v, found, holds⟩ := holds_of_checkTree? checked valid
    refine ⟨v, found, ?_⟩
    intro role members reached leaf names
    exact reached.exists_name orderly asked holds names
  · intro rename device tree
    refine ⟨result_renamed orderly rename device tree, ?_⟩
    intro v found role members reached leaf names name listed
    rw [get?_renamed] at found
    obtain ⟨own, -, rfl⟩ := Option.map_eq_some_iff.mp found
    exact reached.renamed rename orderly names listed

/-- Leaves that all have the same text, which is the word of a state. -/
def inService (leaves : List String)
    : List (String × Json) :=
  leaves.map fun leaf => (leaf, .string "inService")

/-- A slot. -/
def slot
    : List (String × Json) :=
  inService ["label", "provisioned-circuit-pack", "slot-name"]

/-- A shelf with a single slot, which is not in a list. -/
def slottedShelf
    : List (String × Json) :=
  inService ["administrative-state", "model", "operational-state", "rack", "serial-id",
    "shelf-name", "shelf-position", "shelf-type"]
  ++ [("slots", .object slot)] ++ inService ["vendor"]

/-- The slot is reached in the valid tree of the shelf and has a name, and the tree stays valid if
shelf and slot have an empty text for a name.
-/
theorem valid_trees_only_have_names_slot
    : let c : Checker := ⟨Registry.builtin, .ofTag "2.2.1"⟩
      let device : Json := .object [("shelves", .object slottedShelf)]
      c.version ∈ Registry.builtin.versions
      ∧ (c.checkDevice device none).treeValid? .shelves = some true
      ∧ (∃ v,
          (deviceRoot device).get? "shelves" = some v
          ∧ Conformance.Reaches c.checklists .shelf v .slot slot
          ∧ ∃ name, slot.lookup "slot-name" = some name)
      ∧ (c.checkTree? (c.renamed (fun _ => .string "") device) .shelves).map TreeCheck.result
        = some ⟨.shelves, true, 1⟩ := by
  intro c device
  have inUse : c.version ∈ Registry.builtin.versions := by decide +kernel
  have valid : (c.checkDevice device none).treeValid? .shelves = some true := by
    decide +kernel
  obtain ⟨named, renamed⟩ := valid_trees_only_have_names inUse
  obtain ⟨v, found, each⟩ := named device none .shelves valid
  obtain rfl : .object slottedShelf = v := Option.some.inj found
  have top : Conformance.Reaches c.checklists .shelf (.object slottedShelf) .shelf slottedShelf :=
    .top .single
  have reached : Conformance.Reaches c.checklists .shelf (.object slottedShelf) .slot slot :=
    .nested (a := Builtin.nested "slots" .slot) top rfl (by decide) rfl rfl rfl .single
  refine ⟨inUse, valid, ⟨_, found, reached, each .slot slot reached "slot-name" rfl⟩, ?_⟩
  rw [(renamed _ device .shelves).1]
  decide +kernel

/-- A device with one shelf, whose name is empty. -/
def namelessShelf
    : Json :=
  .object [
    ("circuit-packs", .array []),
    ("info", .object (
      inService ["clli", "model", "node-id", "node-number"]
      ++ [("node-type", .string "xpdr")] ++ inService ["serial-id", "vendor"])),
    ("shelves", .array [.object (
      inService ["administrative-state", "model", "operational-state", "rack", "serial-id"]
      ++ [("shelf-name", .string "")]
      ++ inService ["shelf-position", "shelf-type", "vendor"])])]

/-- The device is valid in all its trees although its shelf has an empty name. -/
theorem valid_with_empty_name
    : let c : Checker := ⟨Registry.builtin, .ofTag "1.2.1"⟩
      let report := c.checkDevice namelessShelf none
      c.version ∈ Registry.builtin.versions
      ∧ report.isValid = true
      ∧ report.treeValid? .shelves = some true
      ∧ report.treeValid? .circuitPacks = some true
      ∧ ∃ v members,
          (deviceRoot namelessShelf).get? "shelves" = some v
          ∧ Conformance.Reaches c.checklists .shelf v .shelf members
          ∧ members.lookup "shelf-name" = some (.string "") := by
  refine ⟨by decide +kernel, by decide +kernel, by decide +kernel, by decide +kernel, ?_⟩
  exact ⟨_, _, rfl, .top (.item List.mem_cons_self), rfl⟩

end Checker

end Lightpath
