import Lightpath.Model.Role
import Lightpath.Node.Tag

/-!
Checklists: what an instance of a role has to have in one version of the device model. An attribute
can hold instances of a further role, and it can be soft, so that its absence is no fault.
-/

namespace Lightpath

/-- An attribute that a checklist asks for. -/
structure Attribute where
  name : String
  nested : Option StructuralRole := none
  soft : Bool := false
deriving DecidableEq, Repr

namespace Attribute

/-- The attribute that a document describes. -/
def ofJson? (format : DocumentFormat) (v : Json)
    : Option Attribute := do
  let r ← JsonRecord.inFormat? format ["name", "nested", "soft"] v
  some {
    name := ← r.required "name" Json.string?
    nested := ← r.optional "nested" (StructuralRole.ofJson? format)
    soft := ← r.orElse "soft" false Json.bool? }

/-- The document of an attribute. -/
def toJson (a : Attribute)
    : Json :=
  Json.ofFields [
    ("name", some (.string a.name)),
    ("nested", a.nested.map fun r => .string r.word),
    ("soft", if a.soft then some (.bool true) else none)]

end Attribute

/-- What is asked of an instance of a role, in order. -/
structure Checklist where
  role : StructuralRole
  attributes : List Attribute
deriving DecidableEq, Repr

namespace Checklist

/-- The names of the attributes in order. -/
def names (c : Checklist)
    : List String :=
  c.attributes.map Attribute.name

/-- The checklist that a document describes. -/
def ofJson? (format : DocumentFormat) (v : Json)
    : Option Checklist := do
  let r ← JsonRecord.inFormat? format ["role", "attributes"] v
  some {
    role := ← r.required "role" (StructuralRole.ofJson? format)
    attributes := ← r.required "attributes" (Json.list? (Attribute.ofJson? format)) }

/-- The document of a checklist. -/
def toJson (c : Checklist)
    : Json :=
  Json.ofMembers [
    ("role", .string c.role.word),
    ("attributes", .array (c.attributes.map Attribute.toJson))]

end Checklist

/-- The checklists of one version of the model. -/
structure Descriptor where
  version : ModelVersion
  checklists : List Checklist := []
deriving DecidableEq, Repr

namespace Descriptor

/-- The descriptor that a document describes. -/
def ofJson? (format : DocumentFormat) (v : Json)
    : Option Descriptor := do
  let r ← JsonRecord.inFormat? format ["version", "checklist"] v
  some {
    version := ← r.required "version" ModelVersion.ofJson?
    checklists := ← r.orElse "checklist" [] (Json.list? (Checklist.ofJson? format)) }

/-- The document of a descriptor. -/
def toJson (d : Descriptor)
    : Json :=
  Json.ofMembers [
    ("version", .string d.version.text),
    ("checklist", .array (d.checklists.map Checklist.toJson))]

/-- The descriptors that a whole file holds. -/
def listOfJson? (format : DocumentFormat) (v : Json)
    : Option (List Descriptor) := do
  let r ← JsonRecord.inFormat? format ["version"] v
  r.orElse "version" [] (Json.list? (ofJson? format))

end Descriptor

end Lightpath
