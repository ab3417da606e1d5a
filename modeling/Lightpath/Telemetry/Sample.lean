import Lightpath.Json.Envelope
import Lightpath.Json.Writer
import Lightpath.Session.Resource

/-!
Samples of performance monitoring, and finding that of a resource in a document. Only an entry that
states the resource's own instance path counts, and the first item in it with a type and a measured
value gives the sample.
-/

namespace Lightpath

/-- One measured value of a resource. -/
structure PmSample where
  resource : ResourceId
  type : String
  extension : Option String := none
  location : Option String := none
  direction : Option String := none
  granularity : Option String := none
  value : String
  unit : Option String := none
  validity : Option String := none
deriving DecidableEq, Repr

namespace PmSample

/-- The names of the fields in a document, in their order. -/
def fields
    : List String :=
  ["resource", "pm-type", "extension", "location", "direction", "granularity", "value", "unit",
    "validity"]

/-- The sample that a document describes. -/
def ofJson? (v : Json)
    : Option PmSample := do
  let r ← JsonRecord.ofFullJson? fields v
  some {
    resource := ← r.required "resource" ResourceId.ofJson?
    type := ← r.required "pm-type" Json.string?
    extension := ← r.optional "extension" Json.string?
    location := ← r.optional "location" Json.string?
    direction := ← r.optional "direction" Json.string?
    granularity := ← r.optional "granularity" Json.string?
    value := ← r.required "value" Json.string?
    unit := ← r.optional "unit" Json.string?
    validity := ← r.optional "validity" Json.string? }

/-- The document of a sample. -/
def toJson (s : PmSample)
    : Json :=
  Json.ofMembers [
    ("resource", s.resource.toJson),
    ("pm-type", .string s.type),
    ("extension", Json.ofOption .string s.extension),
    ("location", Json.ofOption .string s.location),
    ("direction", Json.ofOption .string s.direction),
    ("granularity", Json.ofOption .string s.granularity),
    ("value", .string s.value),
    ("unit", Json.ofOption .string s.unit),
    ("validity", Json.ofOption .string s.validity)]

/-- The text of a measured value: a string as it is, any other value in its compact form. -/
def valueText
    : Json → String
  | .string s => s
  | v => v.compact

/-- The sample in one item of an entry. -/
def ofItem? (resource : ResourceId) (item : Json)
    : Option PmSample := do
  let measurements ← item.field? "measurement"
  let measurement ← measurements.asList.head?
  let value ← measurement.field? "pmParameterValue"
  let type ← item.textField? "type"
  some {
    resource := resource
    type := type
    extension := item.textField? "extension"
    location := item.textField? "location"
    direction := item.textField? "direction"
    granularity := measurement.textField? "granularity"
    value := valueText value
    unit := measurement.textField? "pmParameterUnit"
    validity := measurement.textField? "validity" }

/-- The list of entries in a document, inside its container or bare. -/
def entries? (document : Json)
    : Option Json :=
  let root := document.unwrapData
  ((root.field? "current-pm-list").bind fun list => list.field? "current-pm-entry").or
    (root.field? "current-pm-entry")

/-- Whether an entry is about a resource: the type may be left out, the instance may not. -/
def isAbout (resource : ResourceId) (entry : Json)
    : Bool :=
  (match entry.textField? "pm-resource-type" with
    | some type => type = resource.type.word
    | none => true)
  && entry.textField? "pm-resource-instance" = some resource.instancePath

/-- The sample of a resource in a document. -/
def find? (document : Json) (resource : ResourceId)
    : Option PmSample := do
  let entries ← entries? document
  let entry ← entries.asList.find? (isAbout resource)
  let items ← entry.field? "current-pm"
  items.asList.findSome? (ofItem? resource)

end PmSample

end Lightpath
