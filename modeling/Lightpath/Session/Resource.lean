import Lightpath.Json.Word

/-!
The resources of a node that telemetry is about: an interface by its name, or a port by the names of
its circuit pack and itself.
-/

namespace Lightpath

/-- The sorts of monitored resource. -/
inductive ResourceType where
  | port
  | interface
deriving DecidableEq, Repr

namespace ResourceType

/-- Both sorts. -/
def all
    : List ResourceType :=
  [.port, .interface]

/-- The word of a sort. -/
def word
    : ResourceType → String
  | .port => "port"
  | .interface => "interface"

/-- The sort that a document states by its exact word. -/
def ofJson?
    : Json → Option ResourceType :=
  Json.enum? .json all word

end ResourceType

/-- A monitored resource. -/
inductive ResourceId where
  | interface (name : String)
  | port (circuitPack name : String)
deriving DecidableEq, Repr

namespace ResourceId

/-- The sort of a resource. -/
def type
    : ResourceId → ResourceType
  | .interface _ => .interface
  | .port _ _ => .port

/-- The container that holds all of a device. -/
def deviceRoot
    : String :=
  "org-openroadm-device:org-openroadm-device"

/-- The path that identifies a resource within a device. -/
def instancePath
    : ResourceId → String
  | .interface name => "/" ++ deviceRoot ++ "/interface[name='" ++ name ++ "']"
  | .port circuitPack name =>
      "/" ++ deviceRoot ++ "/circuit-packs[circuit-pack-name='" ++ circuitPack
        ++ "']/ports[port-name='" ++ name ++ "']"

/-- The text of a resource. -/
def text
    : ResourceId → String
  | .interface name => "interface " ++ name
  | .port circuitPack name => "port " ++ circuitPack ++ "/" ++ name

/-- The resource that the only member of an object describes. -/
def ofJson?
    : Json → Option ResourceId
  | .object [("interface", .object members)] => do
      let r : JsonRecord := ⟨members⟩
      some (.interface (← r.required "interface-name" Json.string?))
  | .object [("port", .object members)] => do
      let r : JsonRecord := ⟨members⟩
      some (.port (← r.required "circuit-pack-name" Json.string?)
        (← r.required "port-name" Json.string?))
  | _ => none

/-- The document of a resource. -/
def toJson
    : ResourceId → Json
  | .interface name =>
      Json.ofMembers [("interface", Json.ofMembers [("interface-name", .string name)])]
  | .port circuitPack name =>
      Json.ofMembers [("port", Json.ofMembers [("circuit-pack-name", .string circuitPack),
        ("port-name", .string name)])]

end ResourceId

end Lightpath
