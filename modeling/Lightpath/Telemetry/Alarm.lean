import Lightpath.Json.Envelope
import Lightpath.Session.Resource
import Lightpath.Telemetry.LooseInstant

/-!
Active alarms and the list of them in a document. An alarm without an id is passed over; what else is
missing or not understood is left empty.
-/

namespace Lightpath

/-- One active alarm. -/
structure Alarm where
  id : String
  resourceType : Option String := none
  resource : Option ResourceId := none
  cause : Option String := none
  severity : Option String := none
  raised : Option Instant := none
deriving DecidableEq, Repr

namespace Alarm

/-- The names of the fields in a document, in their order. -/
def fields
    : List String :=
  ["id", "resource-type", "resource", "probable-cause", "severity", "raise-time"]

/-- The alarm that a document describes; the moment may be written loosely. -/
def ofJson? (v : Json)
    : Option Alarm := do
  let r ← JsonRecord.ofFullJson? fields v
  some {
    id := ← r.required "id" Json.string?
    resourceType := ← r.optional "resource-type" Json.string?
    resource := ← r.optional "resource" ResourceId.ofJson?
    cause := ← r.optional "probable-cause" Json.string?
    severity := ← r.optional "severity" Json.string?
    raised := ← r.optional "raise-time" fun v => v.string?.bind Instant.ofLooseText? }

/-- The document of an alarm. -/
def toJson (a : Alarm)
    : Json :=
  Json.ofMembers [
    ("id", .string a.id),
    ("resource-type", Json.ofOption .string a.resourceType),
    ("resource", Json.ofOption ResourceId.toJson a.resource),
    ("probable-cause", Json.ofOption .string a.cause),
    ("severity", Json.ofOption .string a.severity),
    ("raise-time", Json.ofOption (fun i => .string i.text) a.raised)]

/-- Whether an alarm is about a resource, by its type and its identity. -/
def concerns (a : Alarm) (resource : ResourceId)
    : Bool :=
  a.resourceType = some resource.type.word && a.resource = some resource

/-- The alarm in one item of a list, unless it has no id. -/
def ofItem? (item : Json)
    : Option Alarm := do
  let id ← item.textField? "id"
  let resource := item.field? "resource"
  some {
    id := id
    resourceType := do (← (← resource).field? "resourceType").textField? "type"
    resource := do ResourceId.ofJson? (← (← resource).field? "resource").withLocalNames
    cause := do (← item.field? "probableCause").textField? "cause"
    severity := item.textField? "severity"
    raised := do Instant.ofText? (← item.textField? "raiseTime") }

/-- The alarms in a document, or nothing if it has no list of them. -/
def list? (document : Json)
    : Option (List Alarm) := do
  let list ← document.unwrapData.field? "active-alarm-list"
  match list.field? "activeAlarms" with
  | some alarms => some (alarms.asList.filterMap ofItem?)
  | none => some []

end Alarm

end Lightpath
