import Lightpath.Session.Resource
import Lightpath.Text.Replace

/-!
What a management session can be asked to read, as a filter on the device's data and as a path below
the place where the controller mounts the device.
-/

namespace Lightpath

/-- A read request. -/
inductive ReadRequest where
  | deviceConfig
  | currentPm (resource : ResourceId)
  | activeAlarms
deriving DecidableEq, Repr

namespace ReadRequest

/-- The text of a request. -/
def text
    : ReadRequest → String
  | .deviceConfig => "device config"
  | .currentPm resource => "current PM of " ++ resource.text
  | .activeAlarms => "active alarms"

/-- One character inside an element of a filter. -/
def escapeChar (c : Char)
    : List Char :=
  if c = '&' then "&amp;".toList
  else if c = '<' then "&lt;".toList
  else if c = '>' then "&gt;".toList
  else [c]

/-- A text inside an element of a filter. -/
def escape (s : String)
    : String :=
  String.ofList (s.toList.flatMap escapeChar)

/-- The instance path with the mark `d:` of the device's name space at its steps and leaves. -/
def markedPath (path : String)
    : String :=
  let path := Text.replace path ResourceId.deviceRoot "d:org-openroadm-device"
  let path := Text.replace path "/interface[name=" "/d:interface[d:name="
  let path := Text.replace path "/circuit-packs[circuit-pack-name="
    "/d:circuit-packs[d:circuit-pack-name="
  Text.replace path "/ports[port-name=" "/d:ports[d:port-name="

/-- The filter that selects the data of a request. -/
def subtreeFilter
    : ReadRequest → String
  | .deviceConfig => "<org-openroadm-device xmlns=\"http://org/openroadm/device\"/>"
  | .currentPm resource =>
      "<current-pm-list xmlns=\"http://org/openroadm/pm\"><current-pm-entry>"
        ++ "<pm-resource-type>" ++ resource.type.word ++ "</pm-resource-type>"
        ++ "<pm-resource-type-extension></pm-resource-type-extension>"
        ++ "<pm-resource-instance xmlns:d=\"http://org/openroadm/device\">"
        ++ escape (markedPath resource.instancePath)
        ++ "</pm-resource-instance></current-pm-entry></current-pm-list>"
  | .activeAlarms => "<active-alarm-list xmlns=\"http://org/openroadm/alarm\"/>"

/-- The path segments of a request below the mount point, not yet encoded. -/
def segments
    : ReadRequest → List String
  | .deviceConfig => [ResourceId.deviceRoot]
  | .currentPm resource =>
      ["org-openroadm-pm:current-pm-list",
        "current-pm-entry=" ++ resource.type.word ++ ",," ++ resource.instancePath]
  | .activeAlarms => ["org-openroadm-alarm:active-alarm-list"]

end ReadRequest

end Lightpath
