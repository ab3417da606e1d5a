import Lightpath.Model.Conformance

/-!
The report on a whole device: for each subtree that its category calls for, whether the subtree is
valid, and the defects of all of them. Each subtree is checked on its own.
-/

namespace Lightpath

/-- A subtree of a device's configuration. -/
inductive DeviceTree where
  | info
  | shelves
  | circuitPacks
  | xponders
  | degrees
  | sharedRiskGroups
deriving DecidableEq, Repr

namespace DeviceTree

/-- All subtrees. -/
def all
    : List DeviceTree :=
  [.info, .shelves, .circuitPacks, .xponders, .degrees, .sharedRiskGroups]

/-- The name of a subtree in a configuration. -/
def key
    : DeviceTree → String
  | .info => "info"
  | .shelves => "shelves"
  | .circuitPacks => "circuit-packs"
  | .xponders => "xponder"
  | .degrees => "degree"
  | .sharedRiskGroups => "shared-risk-group"

/-- The word of a subtree in a report. -/
def word
    : DeviceTree → String
  | .info => "info"
  | .shelves => "shelves"
  | .circuitPacks => "circuit-packs"
  | .xponders => "xponders"
  | .degrees => "degrees"
  | .sharedRiskGroups => "shared-risk-groups"

/-- The role of the instances in a subtree. -/
def role
    : DeviceTree → StructuralRole
  | .info => .info
  | .shelves => .shelf
  | .circuitPacks => .circuitPack
  | .xponders => .xponder
  | .degrees => .degree
  | .sharedRiskGroups => .sharedRiskGroup

/-- The subtrees that a category of device has to have. -/
def required
    : Option DeviceCategory → List DeviceTree
  | none => [.info, .shelves, .circuitPacks]
  | some .xponder => [.info, .shelves, .circuitPacks, .xponders]
  | some .roadm => [.info, .shelves, .circuitPacks, .degrees, .sharedRiskGroups]

end DeviceTree

/-- The result for one subtree. -/
structure TreeResult where
  tree : DeviceTree
  valid : Bool
  instances : Nat
deriving DecidableEq, Repr

namespace TreeResult

/-- The members of the document of a result, in the order of their listing. -/
def fields (r : TreeResult)
    : List (String × Json) :=
  [("tree", .string r.tree.word), ("valid", .bool r.valid), ("instances", .ofNat r.instances)]

/-- The document of a result. -/
def toJson (r : TreeResult)
    : Json :=
  Json.ofMembers r.fields

end TreeResult

/-- A check of one subtree: its result and its defects. -/
structure TreeCheck where
  result : TreeResult
  defects : List StructuralDefect
deriving DecidableEq, Repr

/-- The report on a device. -/
structure ConformanceReport where
  version : ModelVersion
  category : Option DeviceCategory
  results : List TreeResult
  defects : List StructuralDefect
deriving DecidableEq, Repr

namespace ConformanceReport

/-- Whether the category is known and every subtree is valid. -/
def isValid (r : ConformanceReport)
    : Bool :=
  r.category.isSome && r.results.all TreeResult.valid

/-- Whether a subtree is valid, if it was checked. -/
def treeValid? (r : ConformanceReport) (tree : DeviceTree)
    : Option Bool :=
  (r.results.find? fun t => t.tree = tree).map TreeResult.valid

/-- The defects that count. -/
def errors (r : ConformanceReport)
    : List StructuralDefect :=
  r.defects.filter StructuralDefect.isError

/-- The defects that do not count. -/
def warnings (r : ConformanceReport)
    : List StructuralDefect :=
  r.defects.filter fun d => !d.isError

/-- The document of a report. -/
def toJson (r : ConformanceReport)
    : Json :=
  Json.ofMembers [
    ("version", .string r.version.text),
    ("category", Json.ofOption (fun c => .string c.word) r.category),
    ("results", .array (r.results.map TreeResult.toJson)),
    ("defects", .array (r.defects.map StructuralDefect.toJson))]

end ConformanceReport

/-- A checker for one version that the registry knows. -/
structure Checker where
  registry : Registry
  version : ModelVersion
deriving DecidableEq, Repr

namespace Checker

/-- The checker for a version, unless the registry does not know it. -/
def ofRegistry (registry : Registry) (version : ModelVersion)
    : Except RegistryError Checker :=
  if registry.contains version then .ok ⟨registry, version⟩
  else .error (.unknownVersion version)

/-- The checklists of the checker's version. -/
def checklists (c : Checker)
    : Checklists :=
  c.registry.checklist? c.version

/-- The outcome of a value as an instance of a role. -/
def checkRole (c : Checker) (role : StructuralRole) (v : Json) (path : String)
    : Outcome :=
  Conformance.checkInstance c.checklists role v path

/-- The number of instances that a value holds. -/
def instances
    : Json → Nat
  | .array items => items.length
  | _ => 1

/-- The check of one subtree, unless the version has no checklist for its instances. -/
def checkTree? (c : Checker) (device : Json) (tree : DeviceTree)
    : Option TreeCheck :=
  match c.checklists tree.role with
  | none => none
  | some _ =>
      match device.get? tree.key with
      | none =>
          some {
            result := ⟨tree, false, 0⟩
            defects := [{ path := "", role := none, leaf := tree.key, kind := .missingTree }] }
      | some v =>
          let outcome := Conformance.checkValue c.checklists v tree.role tree.key
          some ⟨⟨tree, outcome.valid, instances v⟩, outcome.defects⟩

/-- The names under which a device hands out its configuration. -/
def rootKeys
    : List String :=
  ["org-openroadm-device:org-openroadm-device", "org-openroadm-device"]

/-- The configuration in a document, with or without its wrappers. -/
def deviceRoot (document : Json)
    : Json :=
  let inner := (document.get? "data").getD document
  (rootKeys.findSome? inner.get?).getD inner

/-- The category that a configuration states of its device. -/
def declaredCategory? (device : Json)
    : Option DeviceCategory := do
  let info ← device.get? "info"
  let nodeType ← info.get? "node-type"
  let text ← nodeType.string?
  DeviceCategory.ofText? (Json.localName text)

/-- The defect of a device whose category is not known. -/
def unknownCategory
    : StructuralDefect :=
  { path := "info", role := some .info, leaf := "node-type", kind := .unknownCategory }

/-- The report on a device of a given category, or of the category that it states itself. -/
def checkDevice (c : Checker) (document : Json) (category : Option DeviceCategory)
    : ConformanceReport :=
  let device := deviceRoot document
  let category := category.or (declaredCategory? device)
  let checks := (DeviceTree.required category).filterMap (c.checkTree? device)
  { version := c.version
    category := category
    results := checks.map TreeCheck.result
    defects := (if category.isNone then [unknownCategory] else [])
      ++ checks.flatMap TreeCheck.defects }

end Checker

end Lightpath
