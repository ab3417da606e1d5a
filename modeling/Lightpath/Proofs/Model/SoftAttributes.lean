import Lightpath.Model.Builtin
import Lightpath.Proofs.Keyed
import Lightpath.Proofs.Model.ThreadedWalk

/-!
What soft attributes have no part in. Whatever an instance has under the name of a soft attribute,
its flag and the defects that count are the same, and so they are for whatever holds the instance.
In the versions in use this goes for the capabilities that the ports of circuit packs state.
-/

namespace Lightpath

namespace Outcome

/-- The defects of an outcome that count. -/
def errors (o : Outcome)
    : List StructuralDefect :=
  o.defects.filter StructuralDefect.isError

/-- Two outcomes agree in what counts: the flag, and the defects that count in their order. -/
structure Agree (a b : Outcome)
    : Prop where
  valid : a.valid = b.valid
  errors : a.errors = b.errors

theorem Agree.refl (o : Outcome)
    : Agree o o :=
  ⟨rfl, rfl⟩

theorem Agree.append {a b c d : Outcome} (first : Agree a b) (second : Agree c d)
    : Agree (a ++ c) (b ++ d) where
  valid := congrArg₂ and first.valid second.valid
  errors := by
    change (a.defects ++ c.defects).filter _ = (b.defects ++ d.defects).filter _
    rw [List.filter_append, List.filter_append]
    exact congrArg₂ _ first.errors second.errors

/-- Outcomes that agree one by one agree as a whole. -/
theorem Agree.all {outcomes others : List Outcome} (each : List.Forall₂ Agree outcomes others)
    : Agree (Outcome.all outcomes) (Outcome.all others) := by
  induction each with
  | nil => exact .refl _
  | cons first _ ih => exact first.append ih

/-- Without their weight all outcomes agree. -/
theorem agree_soften (a b : Outcome)
    : Agree a.soften b.soften where
  valid := rfl
  errors := by
    have none (o : Outcome) : o.soften.errors = [] := by
      simp [errors, soften, StructuralDefect.soften, StructuralDefect.isError]
    rw [none, none]

end Outcome

namespace Conformance

open Outcome

variable {lists : Checklists}

-----------------------------------------------------------------------------------------
-- Attributes and leaves
-----------------------------------------------------------------------------------------

/-- The outcome of a soft attribute has no weight, whatever its value. -/
theorem exists_soften_of_soft (role : StructuralRole) (path : String)
    (checks : List (String × PendingCheck)) {a : Attribute} (soft : a.soft = true)
    : ∃ o, checkAttribute role path checks a = Outcome.soften o := by
  unfold checkAttribute
  cases checks.lookup a.name with
  | none =>
      rw [soft]
      exact ⟨.fault _, rfl⟩
  | some check =>
      cases a.nested with
      | none => exact ⟨.pass, rfl⟩
      | some inner =>
          rw [soft]
          exact ⟨_, rfl⟩

/-- Two values agree for a role if they do as its instances at every path. -/
def AgreeAs (lists : Checklists) (role : StructuralRole) (v w : Json)
    : Prop :=
  ∀ path, Agree (checkValue lists v role path) (checkValue lists w role path)

/-- What two instances have under an attribute agrees, or is missing in both. -/
def AgreeUnder (lists : Checklists) (a : Attribute) (members others : List (String × Json))
    : Prop :=
  Option.Rel (fun v w => ∀ inner, a.nested = some inner → AgreeAs lists inner v w)
    (members.lookup a.name) (others.lookup a.name)

theorem AgreeUnder.of_eq {a : Attribute} {members others : List (String × Json)}
    (same : members.lookup a.name = others.lookup a.name)
    : AgreeUnder lists a members others := by
  rw [AgreeUnder, same]
  cases others.lookup a.name with
  | none => exact .none
  | some v => exact .some fun _ _ _ => .refl _

/-- Attributes agree if they are soft or what stands under them agrees. -/
theorem agree_checkAttribute (role : StructuralRole) (path : String)
    {members others : List (String × Json)} {a : Attribute}
    (alike : a.soft = false → AgreeUnder lists a members others)
    : Agree (checkAttribute role path (checkMembers lists members) a)
        (checkAttribute role path (checkMembers lists others) a) := by
  cases soft : a.soft with
  | true =>
      -- All that the subtrees report is softened at once, hard attributes in them included.
      obtain ⟨o, here⟩ := exists_soften_of_soft role path (checkMembers lists members) soft
      obtain ⟨p, there⟩ := exists_soften_of_soft role path (checkMembers lists others) soft
      rw [here, there]
      exact agree_soften o p
  | false =>
      have parts := alike soft
      unfold AgreeUnder at parts
      unfold checkAttribute
      rw [lookup_checkMembers, lookup_checkMembers]
      generalize members.lookup a.name = here, others.lookup a.name = there at parts ⊢
      cases parts with
      | none => exact .refl _
      | some part =>
          cases nests : a.nested with
          | none => exact .refl _
          | some inner =>
              simp only [Option.map_some, soft, Bool.false_eq_true, if_false]
              exact part inner nests (joinPath path a.name)

/-- Instances agree if what they have under each attribute that is not soft agrees, and the leaves
that rules are about are the same.
-/
theorem agree_checkObject {members others : List (String × Json)} {role : StructuralRole}
    (attributes
      : ∀ checklist, lists role = some checklist →
          ∀ a ∈ checklist.attributes, a.soft = false → AgreeUnder lists a members others)
    (leaves : ∀ rule ∈ role.leafRules, members.lookup rule.leaf = others.lookup rule.leaf)
    (path : String)
    : Agree (checkObject lists members (checkMembers lists members) role path)
        (checkObject lists others (checkMembers lists others) role path) := by
  unfold checkObject
  cases known : lists role with
  | none => exact .refl _
  | some checklist =>
      refine .append (.all ?_) (.all ?_)
      · rw [List.forall₂_map_left_iff, List.forall₂_map_right_iff, List.forall₂_same]
        intro a listed
        exact agree_checkAttribute role path (attributes checklist known a listed)
      · rw [List.forall₂_map_left_iff, List.forall₂_map_right_iff, List.forall₂_same]
        intro rule restricts
        have same
            : checkLeaf role path members rule = checkLeaf role path others rule := by
          rw [checkLeaf, leaves rule restricts, checkLeaf]
        rw [same]
        exact .refl _

/-- Instances that are the same under every name that is asked for agree. -/
theorem agree_of_same {members others : List (String × Json)} {role : StructuralRole}
    (attributes
      : ∀ checklist, lists role = some checklist →
          ∀ a ∈ checklist.attributes, a.soft = false →
            members.lookup a.name = others.lookup a.name)
    (leaves : ∀ rule ∈ role.leafRules, members.lookup rule.leaf = others.lookup rule.leaf)
    : AgreeAs lists role (.object members) (.object others) := by
  refine agree_checkObject ?_ leaves
  exact fun checklist known a listed hard => .of_eq (attributes checklist known a listed hard)

-----------------------------------------------------------------------------------------
-- Values that hold instances
-----------------------------------------------------------------------------------------

/-- A value in place of another one: the same, or a related instance. -/
inductive Replaces (related : List (String × Json) → List (String × Json) → Prop)
    : Json → Json → Prop
  | kept (v : Json)
    : Replaces related v v
  | swapped {members others : List (String × Json)} (pair : related members others)
    : Replaces related (.object members) (.object others)

/-- Two values hold instances, one or a list of them, that replace each other in their order. -/
inductive HoldsAlike (related : List (String × Json) → List (String × Json) → Prop)
    : Json → Json → Prop
  | single {v w : Json} (replaces : Replaces related v w)
    : HoldsAlike related v w
  | list {items others : List Json} (each : List.Forall₂ (Replaces related) items others)
    : HoldsAlike related (.array items) (.array others)

/-- For a role related instances are as good as each other: they agree, and have the same name. -/
def Interchange (lists : Checklists) (role : StructuralRole)
    (related : List (String × Json) → List (String × Json) → Prop)
    : Prop :=
  ∀ members others, related members others →
    AgreeAs lists role (.object members) (.object others)
    ∧ ∀ leaf, role.keyLeaf? = some leaf → members.lookup leaf = others.lookup leaf

section Interchange

variable {role : StructuralRole} {related : List (String × Json) → List (String × Json) → Prop}
  (good : Interchange lists role related)
include good

theorem Replaces.agree {v w : Json} (replaces : Replaces related v w)
    : AgreeAs lists role v w := by
  cases replaces with
  | kept v => exact fun _ => .refl _
  | swapped pair => exact (good _ _ pair).1

/-- Items that replace each other have the same path, and agree as single instances. -/
theorem Replaces.agree_item {v w : Json} (replaces : Replaces related v w) (path : String)
    (position : Nat)
    : Agree (checkInstance lists role v (itemPath path role v position))
        (checkInstance lists role w (itemPath path role w position)) := by
  cases replaces with
  | kept v => exact .refl _
  | @swapped members others pair =>
      obtain ⟨agree, named⟩ := good _ _ pair
      have samePath
          : itemPath path role (.object members) position
            = itemPath path role (.object others) position := by
        unfold itemPath
        cases names : role.keyLeaf? with
        | none => rfl
        | some leaf =>
            have same : (Json.object members).get? leaf = (Json.object others).get? leaf :=
              named leaf names
            rw [Option.bind_some, Option.bind_some, same]
      rw [samePath]
      exact agree _

/-- Values that hold interchangeable instances agree. -/
theorem HoldsAlike.agree {v w : Json} (alike : HoldsAlike related v w)
    : AgreeAs lists role v w := by
  cases alike with
  | single replaces => exact replaces.agree good
  | @list items others each =>
      intro path
      rw [checkValue_array, checkValue_array]
      refine .all ?_
      rw [List.forall₂_map_left_iff, List.forall₂_map_right_iff]
      have positioned
          : ∀ start, List.Forall₂
              (fun v w : Json × Nat => Replaces related v.1 w.1 ∧ v.2 = w.2)
              (items.zipIdx start) (others.zipIdx start) := by
        induction each with
        | nil => exact fun _ => .nil
        | cons first _ ih => exact fun start => .cons ⟨first, rfl⟩ (ih (start + 1))
      refine (positioned 0).imp ?_
      rintro ⟨v, position⟩ ⟨w, _⟩ ⟨replaces, rfl⟩
      exact replaces.agree_item good path position

end Interchange

-----------------------------------------------------------------------------------------
-- The capabilities of ports
-----------------------------------------------------------------------------------------

/-- The names under which a port states its capabilities in some version. -/
def capabilityNames
    : List String :=
  ["port-capabilities", "supported-interface-capability"]

/-- Two ports are the same but for their capabilities. -/
def PortsAlike (members others : List (String × Json))
    : Prop :=
  ∀ name, name ∉ capabilityNames → members.lookup name = others.lookup name

/-- Two circuit packs are the same but for the capabilities of their ports. -/
structure PacksAlike (members others : List (String × Json))
    : Prop where
  elsewhere : ∀ name, name ≠ "ports" → members.lookup name = others.lookup name
  ports : Option.Rel (HoldsAlike PortsAlike) (members.lookup "ports") (others.lookup "ports")

/-- Two configurations are the same but for the capabilities of ports of circuit packs. -/
structure DevicesAlike (device other : Json)
    : Prop where
  elsewhere : ∀ name, name ≠ "circuit-packs" → device.get? name = other.get? name
  packs
    : Option.Rel (HoldsAlike PacksAlike) (device.get? "circuit-packs") (other.get? "circuit-packs")

end Conformance

namespace Registry

open Conformance

variable {version : ModelVersion} (inUse : version ∈ builtin.versions)
include inUse

/-- In the versions in use ports are as good as each other with whatever capabilities. -/
theorem interchange_ports
    : Interchange (builtin.checklist? version) .port PortsAlike := by
  have asked
      : ∀ version ∈ builtin.versions, ∀ checklist ∈ builtin.checklist? version .port,
          ∀ a ∈ checklist.attributes, a.soft = false → a.name ∉ capabilityNames := by
    decide +kernel
  have restricted
      : ∀ rule ∈ StructuralRole.port.leafRules, rule.leaf ∉ capabilityNames := by
    decide
  intro members others alike
  constructor
  · refine agree_of_same ?_ fun rule restricts => alike _ (restricted rule restricts)
    intro checklist known a listed hard
    exact alike _ (asked version inUse checklist known a listed hard)
  · rintro _ ⟨⟩
    exact alike "port-name" (by decide)

/-- So are circuit packs with such ports. -/
theorem interchange_packs
    : Interchange (builtin.checklist? version) .circuitPack PacksAlike := by
  have nests
      : ∀ version ∈ builtin.versions, ∀ checklist ∈ builtin.checklist? version .circuitPack,
          ∀ a ∈ checklist.attributes, a.name = "ports" → a.nested = some .port := by
    decide +kernel
  have restricted
      : ∀ rule ∈ StructuralRole.circuitPack.leafRules, rule.leaf ≠ "ports" := by
    decide
  intro members others alike
  constructor
  · refine agree_checkObject ?_ fun rule restricts =>
      alike.elsewhere _ (restricted rule restricts)
    intro checklist known a listed _
    by_cases holdsPorts : a.name = "ports"
    · have port := nests version inUse checklist known a listed holdsPorts
      have ports := alike.ports
      rw [AgreeUnder, holdsPorts, port]
      generalize members.lookup "ports" = here, others.lookup "ports" = there at ports ⊢
      cases ports with
      | none => exact .none
      | some hold =>
          refine .some ?_
          rintro _ ⟨⟩
          exact hold.agree (interchange_ports inUse)
    · exact .of_eq (alike.elsewhere _ holdsPorts)
  · rintro _ ⟨⟩
    exact alike.elsewhere "circuit-pack-name" (by decide)

end Registry

namespace Checker

open Conformance

-----------------------------------------------------------------------------------------
-- Subtrees and the report
-----------------------------------------------------------------------------------------

/-- Two checks of a subtree have the same result and the same defects that count. -/
structure SameCheck (check again : TreeCheck)
    : Prop where
  result : check.result = again.result
  errors
    : check.defects.filter StructuralDefect.isError
      = again.defects.filter StructuralDefect.isError

theorem instances_alike {related : List (String × Json) → List (String × Json) → Prop} {v w : Json}
    (alike : HoldsAlike related v w)
    : instances v = instances w := by
  cases alike with
  | single replaces => cases replaces <;> rfl
  | list each => exact each.length_eq

/-- Each subtree of two configurations that are the same but for the capabilities of ports is
checked with the same result, or in none of them.
-/
theorem checkTree?_alike {version : ModelVersion} (inUse : version ∈ Registry.builtin.versions)
    {device other : Json} (alike : DevicesAlike device other) (tree : DeviceTree)
    : Option.Rel SameCheck (checkTree? ⟨Registry.builtin, version⟩ device tree)
        (checkTree? ⟨Registry.builtin, version⟩ other tree) := by
  by_cases here : tree = .circuitPacks
  · subst here
    have packs := alike.packs
    unfold checkTree?
    cases checklists ⟨Registry.builtin, version⟩ DeviceTree.circuitPacks.role with
    | none => exact .none
    | some checklist =>
        simp only [DeviceTree.key]
        generalize device.get? "circuit-packs" = v, other.get? "circuit-packs" = w at packs ⊢
        cases packs with
        | none => exact .some ⟨rfl, rfl⟩
        | some hold =>
            have agree := hold.agree (Registry.interchange_packs inUse) "circuit-packs"
            refine .some ⟨?_, agree.errors⟩
            exact congrArg₂ (TreeResult.mk _) agree.valid (instances_alike hold)
  · have named : tree.key ≠ "circuit-packs" := by
      cases tree <;> first | exact absurd rfl here | decide
    have same (check : Option TreeCheck) : Option.Rel SameCheck check check := by
      cases check with
      | none => exact .none
      | some check => exact .some ⟨rfl, rfl⟩
    unfold checkTree?
    rw [alike.elsewhere _ named]
    exact same _

theorem results_of_same {checks others : List TreeCheck}
    (same : List.Forall₂ SameCheck checks others)
    : checks.map TreeCheck.result = others.map TreeCheck.result := by
  induction same with
  | nil => rfl
  | cons first _ ih => rw [List.map_cons, List.map_cons, first.result, ih]

theorem errors_of_same {checks others : List TreeCheck}
    (same : List.Forall₂ SameCheck checks others)
    : (checks.flatMap TreeCheck.defects).filter StructuralDefect.isError
      = (others.flatMap TreeCheck.defects).filter StructuralDefect.isError := by
  induction same with
  | nil => rfl
  | cons first _ ih =>
      rw [List.flatMap_cons, List.flatMap_cons, List.filter_append, List.filter_append,
        first.errors, ih]

/-- The report on a device does not depend on the capabilities that ports of circuit packs state, as
far as anything in it counts.
-/
theorem checkDevice_alike {version : ModelVersion} (inUse : version ∈ Registry.builtin.versions)
    {document other : Json} (alike : DevicesAlike (deviceRoot document) (deviceRoot other))
    (category : Option DeviceCategory)
    : let report := checkDevice ⟨Registry.builtin, version⟩ document category
      let again := checkDevice ⟨Registry.builtin, version⟩ other category
      report.results = again.results
      ∧ report.isValid = again.isValid
      ∧ report.errors = again.errors := by
  have stated : declaredCategory? (deviceRoot document) = declaredCategory? (deviceRoot other) := by
    have info := alike.elsewhere "info" (by decide)
    simp only [declaredCategory?, info]
  have checks
      : ∀ trees : List DeviceTree, List.Forall₂ SameCheck
          (trees.filterMap (checkTree? ⟨Registry.builtin, version⟩ (deviceRoot document)))
          (trees.filterMap (checkTree? ⟨Registry.builtin, version⟩ (deviceRoot other))) := by
    intro trees
    refine List.rel_filterMap (R := (· = ·)) ?_ (List.forall₂_refl _)
    rintro tree _ rfl
    exact checkTree?_alike inUse alike tree
  have results := results_of_same (checks (DeviceTree.required
    (category.or (declaredCategory? (deviceRoot other)))))
  have errors := errors_of_same (checks (DeviceTree.required
    (category.or (declaredCategory? (deviceRoot other)))))
  simp only [ConformanceReport.isValid, ConformanceReport.errors, checkDevice, stated, results,
    List.filter_append, errors, and_self]

/-- Soft attributes never decide conformance. Whatever two instances of a role have under a name
that its checklist lists as soft at most and that no rule restricts, a check of them gives the same
flag and the same defects that count. In each version in use the capabilities that the ports of
circuit packs state, or do not state, change neither the result of a subtree nor what counts in a
report.
-/
theorem soft_attributes_never_decide
    : (∀ (c : Checker) role name members others path,
        (∀ key, key ≠ name → members.lookup key = others.lookup key)
        → (∀ checklist, c.checklists role = some checklist →
            ∀ a ∈ checklist.attributes, a.name = name → a.soft = true)
        → (∀ rule ∈ role.leafRules, rule.leaf ≠ name)
        → let outcome := c.checkRole role (.object members) path
          let again := c.checkRole role (.object others) path
          outcome.valid = again.valid
          ∧ outcome.defects.filter StructuralDefect.isError
            = again.defects.filter StructuralDefect.isError)
      ∧ ∀ version ∈ Registry.builtin.versions, ∀ document other category,
          DevicesAlike (deviceRoot document) (deviceRoot other)
          → let report := checkDevice ⟨Registry.builtin, version⟩ document category
            let again := checkDevice ⟨Registry.builtin, version⟩ other category
            report.results = again.results
            ∧ report.isValid = again.isValid
            ∧ report.errors = again.errors := by
  refine ⟨?roles, fun version inUse document other category alike =>
    checkDevice_alike inUse alike category⟩
  intro c role name members others path same soft free
  have agree : AgreeAs c.checklists role (.object members) (.object others) := by
    refine agree_of_same ?_ fun rule restricts => same _ (free rule restricts)
    intro checklist known a listed hard
    apply same
    intro named
    rw [soft checklist known a listed named] at hard
    cases hard
  exact ⟨(agree path).valid, (agree path).errors⟩

/-- A device with one circuit pack and one port, of which no more is stated than some capabilities.
-/
def bareDevice (capabilities : List (String × Json))
    : Json :=
  .object [("circuit-packs", .array [.object [("ports", .array [.object capabilities])]])]

/-- A capability that is no object gives a warning where a missing one gave another, and the errors
stay.
-/
theorem soft_attributes_never_decide_port
    : let c : Checker := ⟨Registry.builtin, .ofTag "2.2.1"⟩
      let malformed := [("supported-interface-capability", Json.bool true)]
      c.version ∈ Registry.builtin.versions
      ∧ DevicesAlike (deviceRoot (bareDevice [])) (deviceRoot (bareDevice malformed))
      ∧ (c.checkRole .port (.object []) "").defects.filter StructuralDefect.isError
        = (c.checkRole .port (.object malformed) "").defects.filter StructuralDefect.isError
      ∧ (c.checkDevice (bareDevice []) none).errors
        = (c.checkDevice (bareDevice malformed) none).errors
      ∧ (c.checkDevice (bareDevice []) none).warnings
        ≠ (c.checkDevice (bareDevice malformed) none).warnings := by
  intro c malformed
  have inUse : c.version ∈ Registry.builtin.versions := by decide +kernel
  have elsewhere
      : ∀ key, key ≠ "supported-interface-capability"
          → List.lookup key [] = malformed.lookup key := by
    intro key other
    rw [Keyed.lookup_cons, if_neg other]
  have ports : PortsAlike [] malformed := by
    intro key free
    refine elsewhere key ?_
    rintro rfl
    exact free (by decide)
  have packs
      : PacksAlike [("ports", .array [.object []])] [("ports", .array [.object malformed])] := by
    refine ⟨?_, .some (.list (.cons (.swapped ports) .nil))⟩
    intro key other
    rw [Keyed.lookup_cons, Keyed.lookup_cons, if_neg other, if_neg other]
  have alike : DevicesAlike (deviceRoot (bareDevice [])) (deviceRoot (bareDevice malformed)) := by
    refine ⟨?_, .some (.list (.cons (.swapped packs) .nil))⟩
    intro key other
    have root (capabilities : List (String × Json))
        : deviceRoot (bareDevice capabilities) = bareDevice capabilities :=
      rfl
    rw [root, root, bareDevice, bareDevice, Json.get?, Json.get?, Keyed.lookup_cons,
      Keyed.lookup_cons, if_neg other, if_neg other]
  obtain ⟨roles, reports⟩ := soft_attributes_never_decide
  refine ⟨inUse, alike, ?_, (reports _ inUse _ _ none alike).2.2, by decide +kernel⟩
  have soft
      : ∀ checklist ∈ c.checklists .port, ∀ a ∈ checklist.attributes,
          a.name = "supported-interface-capability" → a.soft = true := by
    decide +kernel
  exact (roles c .port _ [] malformed "" elsewhere soft (by decide)).2

end Checker

end Lightpath
