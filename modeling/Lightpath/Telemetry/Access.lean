import Lightpath.Session.Collaborators
import Lightpath.Telemetry.Alarm
import Lightpath.Telemetry.Sample

/-!
Access to a node's telemetry. Each access opens a session, makes one read and closes the session again
whatever came of the read; an access that fails gives nothing.
-/

namespace Lightpath

namespace Telemetry

variable {σ κ : Type}

/-- The document that a session of its own reads, if it can be opened and read. -/
def read (source : SessionSource σ κ) (node : String) (request : ReadRequest)
    : StateM σ (Option Json) := do
  match ← source.openSession node with
  | .error _ => pure none
  | .ok session =>
      let result ← source.read session request
      let _ ← source.close session
      pure result.toOption

/-- The present sample of a resource. -/
def sample (source : SessionSource σ κ) (node : String) (resource : ResourceId)
    : StateM σ (Option PmSample) := do
  let document ← read source node (.currentPm resource)
  pure (document.bind fun d => PmSample.find? d resource)

/-- The active alarms of a node. -/
def alarms (source : SessionSource σ κ) (node : String)
    : StateM σ (Option (List Alarm)) := do
  let document ← read source node .activeAlarms
  pure (document.bind Alarm.list?)

/-- Whether an active alarm is about a resource. -/
def hasAlarm (source : SessionSource σ κ) (node : String) (resource : ResourceId)
    : StateM σ Bool := do
  let found ← alarms source node
  pure ((found.getD []).any fun a => a.concerns resource)

end Telemetry

end Lightpath
