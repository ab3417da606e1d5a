import Lightpath.Proofs.Model.CountedDefects

/-!
The check of a device said once more as a walk that hands one list of defects from part to part and
adds to it whatever it finds. It is proved equal to the outcomes, which know of no such list:
nothing that a part adds depends on what was found before it, and no part is passed over because
another one is not valid. So each subtree of a device, and each item of a list, can be checked on
its own.
-/

namespace Lightpath

/-- A check that says whether its part is valid and adds its defects to those found so far. -/
abbrev Walk :=
  StateM (List StructuralDefect) Bool

namespace Walk

/-- A part found not valid for one defect. -/
def fault (d : StructuralDefect)
    : Walk := do
  modify (· ++ [d])
  pure false

/-- One more walk, with the flag of those before. It is made whether they were valid or not. -/
def further (valid : Bool) (walk : Walk)
    : Walk := do
  let own ← walk
  pure (own && valid)

/-- All walks in order, valid if each of them is. -/
def every (walks : List Walk)
    : Walk :=
  walks.foldlM further true

/-- A walk gathers an outcome: after whatever was found before, it adds the defects of the outcome
and gives its flag.
-/
def Gathers (walk : Walk) (outcome : Outcome)
    : Prop :=
  ∀ found, walk found = (outcome.valid, found ++ outcome.defects)

end Walk

namespace Conformance

-----------------------------------------------------------------------------------------
-- The walk
-----------------------------------------------------------------------------------------

/-- A walk that still has to be told the role and the path. -/
abbrev PendingWalk :=
  StructuralRole → String → Walk

/-- A rule on a leaf among the members of an instance. -/
def walkLeaf (role : StructuralRole) (path : String) (members : List (String × Json))
    (rule : LeafRule)
    : Walk :=
  match members.lookup rule.leaf with
  | none => pure true
  | some v =>
      if rule.admits v then pure true
      else Walk.fault {
        path := path, role := some role, leaf := rule.leaf
        kind := .invalidValue (leafText v) }

/-- One attribute. What a soft attribute nests is walked with a list of its own, whose defects are
added without their weight.
-/
def walkAttribute (role : StructuralRole) (path : String) (walks : List (String × PendingWalk))
    (a : Attribute)
    : Walk :=
  match walks.lookup a.name with
  | none => do
      let missing : StructuralDefect :=
        { path := path, role := some role, leaf := a.name, kind := .missingAttribute }
      if a.soft then
        modify (· ++ [missing.soften])
        pure true
      else Walk.fault missing
  | some walk =>
      match a.nested with
      | none => pure true
      | some nested => do
          if a.soft then
            let (_, scratch) := walk nested (joinPath path a.name) []
            modify (· ++ scratch.map StructuralDefect.soften)
            pure true
          else walk nested (joinPath path a.name)

/-- An object as an instance of a role. -/
def walkObject (lists : Checklists) (members : List (String × Json))
    (walks : List (String × PendingWalk)) (role : StructuralRole) (path : String)
    : Walk :=
  match lists role with
  | none => pure true
  | some checklist => do
      let attributes ← Walk.every (checklist.attributes.map (walkAttribute role path walks))
      let leaves ← Walk.every (role.leafRules.map (walkLeaf role path members))
      pure (attributes && leaves)

/-- A value that is no object as an instance of a role. -/
def walkRefused (lists : Checklists) (role : StructuralRole) (path : String)
    : Walk :=
  match lists role with
  | none => pure true
  | some _ => Walk.fault (notAnObject role path)

mutual

/-- A value that holds one instance of a role or a list of them. -/
def walkValue (lists : Checklists)
    : Json → PendingWalk
  | .object members => walkObject lists members (walkMembers lists members)
  | .array items => fun role path =>
      Walk.every ((walkItems lists items).mapIdx fun i item =>
        item.2 role (itemPath path role item.1 i))
  | _ => fun role path => Walk.fault (notAnObject role path)

/-- The walks of the items of a list, each beside its item. -/
def walkItems (lists : Checklists)
    : List Json → List (Json × PendingWalk)
  | [] => []
  | v :: rest =>
      (v, if v.isObject then walkValue lists v else walkRefused lists) :: walkItems lists rest

/-- The walks of the members of an object, by name. -/
def walkMembers (lists : Checklists)
    : List (String × Json) → List (String × PendingWalk)
  | [] => []
  | (k, v) :: rest => (k, walkValue lists v) :: walkMembers lists rest

end

/-- A value as a single instance of a role. -/
def walkInstance (lists : Checklists) (role : StructuralRole) (v : Json) (path : String)
    : Walk :=
  if v.isObject then walkValue lists v role path else walkRefused lists role path

end Conformance

namespace Checker

/-- One subtree of a device. -/
def walkTree (c : Checker) (device : Json) (tree : DeviceTree)
    : StateM (List StructuralDefect) (Option TreeResult) :=
  match c.checklists tree.role with
  | none => pure none
  | some _ =>
      match device.get? tree.key with
      | none => do
          modify (· ++ [{ path := "", role := none, leaf := tree.key, kind := .missingTree }])
          pure (some ⟨tree, false, 0⟩)
      | some v => do
          let valid ← Conformance.walkValue c.checklists v tree.role tree.key
          pure (some ⟨tree, valid, instances v⟩)

/-- Subtrees in turn, with the results of those that are checked. -/
def walkTrees (c : Checker) (device : Json)
    : List DeviceTree → StateM (List StructuralDefect) (List TreeResult)
  | [] => pure []
  | tree :: rest => do
      let result ← c.walkTree device tree
      let others ← c.walkTrees device rest
      pure (result.toList ++ others)

/-- The report on a device by one walk through all its subtrees, with one list of defects. -/
def walkDevice (c : Checker) (document : Json) (category : Option DeviceCategory)
    : ConformanceReport :=
  let device := deviceRoot document
  let category := category.or (declaredCategory? device)
  let opening := if category.isNone then [unknownCategory] else []
  let (results, defects) := c.walkTrees device (DeviceTree.required category) opening
  { version := c.version, category := category, results := results, defects := defects }

end Checker

-----------------------------------------------------------------------------------------
-- Walks gather outcomes
-----------------------------------------------------------------------------------------

namespace Walk

theorem gathers_pass
    : Gathers (pure true) .pass := by
  intro found
  exact congrArg (Prod.mk true) (List.append_nil found).symm

theorem gathers_fault (d : StructuralDefect)
    : Gathers (fault d) (.fault d) :=
  fun _ => rfl

/-- Two walks in turn gather one outcome after the other. -/
theorem Gathers.both {first second : Walk} {a b : Outcome} (one : first.Gathers a)
    (other : second.Gathers b)
    : Gathers (do let valid ← first; let more ← second; pure (valid && more)) (a ++ b) := by
  intro found
  change ((first found).1 && (second (first found).2).1, (second (first found).2).2) = _
  rw [one, other, List.append_assoc]
  rfl

/-- Walks in turn gather all outcomes if each one gathers its own. Induction on the items, with the
flag of those before.
-/
theorem gathers_every {α : Type} {walk : α → Walk} {outcome : α → Outcome} {items : List α}
    (each : ∀ a ∈ items, (walk a).Gathers (outcome a))
    : Gathers (every (items.map walk)) (.all (items.map outcome)) := by
  have turns
      : ∀ valid found,
          ((items.map walk).foldlM further valid : Walk) found
          = (valid && (Outcome.all (items.map outcome)).valid,
              found ++ (Outcome.all (items.map outcome)).defects) := by
    induction items with
    | nil =>
        intro valid found
        change (valid, found) = (valid && true, found ++ [])
        rw [Bool.and_true, List.append_nil]
    | cons first rest ih =>
        obtain ⟨here, later⟩ := List.forall_mem_cons.mp each
        intro valid found
        rw [List.map_cons, List.map_cons, List.foldlM_cons]
        change (List.foldlM further ((walk first found).1 && valid) (rest.map walk) : Walk)
          (walk first found).2 = _
        rw [ih later, here, List.append_assoc, Bool.and_comm _ valid, Bool.and_assoc]
        rfl
  intro found
  exact (turns true found).trans (by rw [Bool.true_and])

end Walk

namespace Conformance

variable {lists : Checklists}

theorem gathers_walkLeaf (role : StructuralRole) (path : String)
    (members : List (String × Json)) (rule : LeafRule)
    : (walkLeaf role path members rule).Gathers (checkLeaf role path members rule) := by
  unfold walkLeaf checkLeaf
  cases members.lookup rule.leaf with
  | none => exact Walk.gathers_pass
  | some v =>
      simp only
      split
      · exact Walk.gathers_pass
      · exact Walk.gathers_fault _

theorem gathers_walkRefused (role : StructuralRole) (path : String)
    : (walkRefused lists role path).Gathers (refuse lists role path) := by
  unfold walkRefused refuse
  cases lists role with
  | none => exact Walk.gathers_pass
  | some checklist => exact Walk.gathers_fault _

theorem lookup_walkMembers (members : List (String × Json)) (name : String)
    : (walkMembers lists members).lookup name
      = (members.lookup name).map (walkValue lists) := by
  induction members with
  | nil => rfl
  | cons first rest ih =>
      rw [walkMembers, Keyed.lookup_cons, Keyed.lookup_cons, ih]
      split <;> rfl

theorem walkItems_eq (items : List Json)
    : walkItems lists items
      = items.map fun v => (v, fun role path => walkInstance lists role v path) := by
  induction items with
  | nil => rfl
  | cons first rest ih =>
      rw [walkItems, ih, List.map_cons]
      cases plain : first.isObject <;> simp [walkInstance, plain]

/-- The walk of a value gathers what its check says, whatever the role and the path. -/
def Gathered (lists : Checklists) (v : Json)
    : Prop :=
  ∀ role path, (walkValue lists v role path).Gathers (checkValue lists v role path)

theorem Gathered.instance {v : Json} (whole : Gathered lists v) (role : StructuralRole)
    (path : String)
    : (walkInstance lists role v path).Gathers (checkInstance lists role v path) := by
  unfold walkInstance checkInstance
  split
  · exact whole role path
  · exact gathers_walkRefused role path

/-- The walk of an attribute gathers its outcome if that of its value does. A soft attribute adds
what its own list has come to, which is no other than what would have been added to the common one.
-/
theorem gathers_walkAttribute (role : StructuralRole) (path : String)
    {members : List (String × Json)} {a : Attribute}
    (part : ∀ v, members.lookup a.name = some v → Gathered lists v)
    : (walkAttribute role path (walkMembers lists members) a).Gathers
        (checkAttribute role path (checkMembers lists members) a) := by
  unfold walkAttribute checkAttribute
  rw [lookup_walkMembers, lookup_checkMembers]
  cases found : members.lookup a.name with
  | none =>
      cases soft : a.soft with
      | true => exact fun _ => rfl
      | false => exact Walk.gathers_fault _
  | some v =>
      cases a.nested with
      | none => exact Walk.gathers_pass
      | some inner =>
          have gathered := part v found inner (joinPath path a.name)
          cases soft : a.soft with
          | true =>
              intro before
              have alone := gathered []
              change (true, before ++ List.map _ (walkValue lists v inner _ []).2) = _
              rw [alone]
              rfl
          | false => exact gathered

theorem gathers_walkObject {members : List (String × Json)}
    (parts : ∀ m ∈ members, Gathered lists m.2) (role : StructuralRole) (path : String)
    : (walkObject lists members (walkMembers lists members) role path).Gathers
        (checkObject lists members (checkMembers lists members) role path) := by
  unfold walkObject checkObject
  cases lists role with
  | none => exact Walk.gathers_pass
  | some checklist =>
      have attributes
          : ∀ a ∈ checklist.attributes,
              (walkAttribute role path (walkMembers lists members) a).Gathers
                (checkAttribute role path (checkMembers lists members) a) := by
        intro a _
        exact gathers_walkAttribute role path fun v held =>
          parts (a.name, v) (Keyed.mem_of_lookup held)
      have leaves := Walk.gathers_every fun rule (_ : rule ∈ role.leafRules) =>
        gathers_walkLeaf role path members rule
      exact Walk.Gathers.both (Walk.gathers_every attributes) leaves

/-- A list is walked as its items are, each at its own path, and so it is checked. -/
theorem walkValue_array (items : List Json) (role : StructuralRole) (path : String)
    : walkValue lists (.array items) role path
      = Walk.every (items.zipIdx.map fun item =>
          walkInstance lists role item.1 (itemPath path role item.1 item.2)) := by
  rw [walkValue, walkItems_eq]
  simp only [List.mapIdx_eq_zipIdx_map, List.zipIdx_map, List.map_map]
  rfl

theorem checkValue_array (items : List Json) (role : StructuralRole) (path : String)
    : checkValue lists (.array items) role path
      = Outcome.all (items.zipIdx.map fun item =>
          checkInstance lists role item.1 (itemPath path role item.1 item.2)) := by
  rw [checkValue, checkItems_eq]
  simp only [List.mapIdx_eq_zipIdx_map, List.zipIdx_map, List.map_map]
  rfl

/-- Every value is walked as it is checked. Induction on the document. -/
theorem gathered (v : Json)
    : Gathered lists v := by
  induction v using Json.induction with
  | plain v single scalar =>
      intro role path
      cases v with
      | object members => cases single
      | array items => cases scalar
      | null | bool _ | number _ | string _ => exact Walk.gathers_fault _
  | array items ih =>
      intro role path
      rw [walkValue_array, checkValue_array]
      apply Walk.gathers_every
      intro item member
      exact (ih item.1 (List.fst_mem_of_mem_zipIdx member)).instance role _
  | object members ih => exact gathers_walkObject ih

/-- A walk of a list adds what its items have when walked alone, and is valid if they all are. -/
theorem walkValue_array_run (items : List Json) (role : StructuralRole) (path : String)
    (found : List StructuralDefect)
    : let alone := fun item : Json × Nat =>
        walkInstance lists role item.1 (itemPath path role item.1 item.2) []
      walkValue lists (.array items) role path found
      = (items.zipIdx.all fun item => (alone item).1,
          found ++ items.zipIdx.flatMap fun item => (alone item).2) := by
  intro alone
  have each
      : ∀ item, alone item
          = ((checkInstance lists role item.1 (itemPath path role item.1 item.2)).valid,
              (checkInstance lists role item.1 (itemPath path role item.1 item.2)).defects) :=
    fun item => (gathered item.1).instance role _ []
  rw [gathered (.array items) role path, checkValue_array, Outcome.all_eq, List.all_map,
    List.flatMap_map]
  simp only [each]
  rfl

end Conformance

namespace Checker

-----------------------------------------------------------------------------------------
-- Subtrees and the report
-----------------------------------------------------------------------------------------

/-- A walk through a subtree gives its result and adds what it contributes, whatever was found
before.
-/
theorem walkTree_run (c : Checker) (device : Json) (tree : DeviceTree)
    (found : List StructuralDefect)
    : c.walkTree device tree found
      = ((c.checkTree? device tree).map TreeCheck.result,
          found ++ c.contribution device tree) := by
  unfold walkTree contribution checkTree?
  cases c.checklists tree.role with
  | none => exact congrArg (Prod.mk none) (List.append_nil found).symm
  | some checklist =>
      cases device.get? tree.key with
      | none => rfl
      | some v =>
          have whole : Conformance.Gathered c.checklists v := Conformance.gathered v
          change (some (TreeResult.mk tree (Conformance.walkValue _ v _ _ found).1 _),
            (Conformance.walkValue _ v _ _ found).2) = _
          rw [whole tree.role tree.key found]
          rfl

theorem walkTrees_run (c : Checker) (device : Json) (trees : List DeviceTree)
    (found : List StructuralDefect)
    : c.walkTrees device trees found
      = ((trees.filterMap (c.checkTree? device)).map TreeCheck.result,
          found ++ trees.flatMap (c.contribution device)) := by
  induction trees generalizing found with
  | nil => exact congrArg (Prod.mk []) (List.append_nil found).symm
  | cons tree rest ih =>
      change ((c.walkTree device tree found).1.toList
          ++ (c.walkTrees device rest (c.walkTree device tree found).2).1,
        (c.walkTrees device rest (c.walkTree device tree found).2).2) = _
      rw [walkTree_run, ih, List.flatMap_cons, List.append_assoc, List.filterMap_cons]
      cases c.checkTree? device tree <;> rfl

/-- One walk through all subtrees gives the report. -/
theorem walkDevice_eq (c : Checker) (document : Json) (category : Option DeviceCategory)
    : c.walkDevice document category = c.checkDevice document category := by
  simp only [walkDevice, checkDevice, walkTrees_run, flatMap_contribution]

/-- Each subtree of a device is checked on its own, although one list of defects goes through all
of them. For a given category the report holds, subtree by subtree, what a walk of the subtree alone
gives. A walk of a subtree depends on nothing but the value at its key: not on the rest of the
document, and not on the defects found before. Every value is walked as it is checked, and a list
adds what each of its items has when walked alone at its own path.
-/
theorem subtrees_walked_alone (c : Checker)
    : (∀ document category,
        let report := c.walkDevice document (some category)
        let trees := DeviceTree.required (some category)
        let alone := fun tree => c.walkTree (deviceRoot document) tree []
        report = c.checkDevice document (some category)
        ∧ report.results = trees.filterMap (fun tree => (alone tree).1)
        ∧ report.defects = trees.flatMap fun tree => (alone tree).2)
      ∧ (∀ document other tree,
          (deviceRoot document).get? tree.key = (deviceRoot other).get? tree.key →
          ∃ result defects, ∀ found,
            c.walkTree (deviceRoot document) tree found = (result, found ++ defects)
            ∧ c.walkTree (deviceRoot other) tree found = (result, found ++ defects))
      ∧ (∀ v, Conformance.Gathered c.checklists v)
      ∧ ∀ items role path found,
          let alone := fun item : Json × Nat =>
            Conformance.walkInstance c.checklists role item.1
              (Conformance.itemPath path role item.1 item.2) []
          Conformance.walkValue c.checklists (.array items) role path found
          = (items.zipIdx.all fun item => (alone item).1,
              found ++ items.zipIdx.flatMap fun item => (alone item).2) := by
  refine ⟨?reports, ?apart, Conformance.gathered, Conformance.walkValue_array_run⟩
  case reports =>
    intro document category report trees alone
    refine ⟨walkDevice_eq c document (some category), ?results, ?defects⟩
    case results =>
      change (c.walkTrees (deviceRoot document) trees []).1 = _
      rw [walkTrees_run, List.map_filterMap]
      simp only [alone, walkTree_run]
    case defects =>
      change (c.walkTrees (deviceRoot document) trees []).2 = _
      rw [walkTrees_run]
      simp only [alone, walkTree_run, List.nil_append]
  case apart =>
    intro document other tree held
    have checks
        : c.checkTree? (deviceRoot document) tree = c.checkTree? (deviceRoot other) tree := by
      unfold checkTree?
      rw [held]
    refine ⟨_, _, fun found => ⟨walkTree_run c _ tree found, ?_⟩⟩
    rw [walkTree_run, contribution, contribution, checks]

end Checker

end Lightpath
