import Lightpath.Model.Registry

/-!
The checklists of the device models in use: versions 1.2.1, 2.2.1 and 7.1.
-/

namespace Lightpath

namespace Builtin

/-- An attribute that is only asked to be present. -/
def leaf (name : String)
    : Attribute :=
  { name := name }

/-- An attribute that holds instances of a role. -/
def nested (name : String) (role : StructuralRole)
    : Attribute :=
  { name := name, nested := some role }

/-- An attribute that may be absent and whose faults do not count. -/
def soft (name : String) (role : StructuralRole)
    : Attribute :=
  { name := name, nested := some role, soft := true }

/-- A checklist of leaves and further attributes. -/
def checklist (role : StructuralRole) (leaves : List String) (more : List Attribute)
    : Checklist :=
  ⟨role, leaves.map leaf ++ more⟩

/-- The leaves of the device information in every version. -/
def info
    : List String :=
  ["node-id", "node-number", "node-type", "clli", "vendor", "model", "serial-id"]

/-- The leaves of a shelf. -/
def shelf
    : List String :=
  ["shelf-name", "shelf-type", "rack", "shelf-position", "administrative-state", "vendor",
    "model", "serial-id", "operational-state"]

/-- The leaves of a circuit pack. -/
def circuitPack
    : List String :=
  ["circuit-pack-name", "circuit-pack-type", "shelf", "slot", "vendor", "model", "serial-id",
    "administrative-state", "operational-state", "equipment-state"]

/-- The leaves of a port. -/
def port
    : List String :=
  ["port-name", "port-type", "port-qual", "port-direction", "administrative-state",
    "operational-state"]

/-- The leaves of a degree. -/
def degree
    : List String :=
  ["degree-number", "max-wavelengths", "circuit-packs", "connection-ports"]

/-- The leaves of a shared-risk group. -/
def sharedRiskGroup
    : List String :=
  ["srg-number", "max-add-drop-ports", "wavelength-duplication", "circuit-packs",
    "current-provisioned-add-drop-ports"]

/-- The checklist of a circuit pack in every version. -/
def circuitPacks
    : Checklist :=
  checklist .circuitPack circuitPack [nested "ports" .port]

/-- The checklist of a port that lists its capabilities itself. -/
def plainPorts
    : Checklist :=
  checklist .port port [soft "supported-interface-capability" .capability]

/-- The checklists of xponders and their ports. -/
def xponders
    : List Checklist :=
  [checklist .xponder ["xpdr-number", "xpdr-type"] [nested "xpdr-port" .xponderPort],
    checklist .xponderPort ["index", "circuit-pack-name", "port-name"] []]

/-- The checklists of a roadm's own parts. -/
def roadmParts
    : List Checklist :=
  [checklist .degree degree [], checklist .sharedRiskGroup sharedRiskGroup []]

/-- The checklist of a capability. -/
def capabilities
    : Checklist :=
  checklist .capability ["if-cap-type"] []

/-- The checklists of version 1.2.1. -/
def version121
    : Descriptor :=
  { version := .ofTag "1.2.1"
    checklists := [
      checklist .info info [],
      checklist .shelf shelf [],
      circuitPacks,
      plainPorts,
      capabilities] ++ roadmParts }

/-- The checklists of version 2.2.1. -/
def version221
    : Descriptor :=
  { version := .ofTag "2.2.1"
    checklists := [
      checklist .info (info ++ ["softwareVersion"]) [],
      checklist .shelf shelf [nested "slots" .slot],
      checklist .slot ["slot-name", "label", "provisioned-circuit-pack"] [],
      circuitPacks,
      plainPorts,
      capabilities] ++ xponders ++ roadmParts }

/-- The checklists of version 7.1. -/
def version71
    : Descriptor :=
  { version := .ofTag "7.1"
    checklists := [
      checklist .info (info ++ ["software-version", "openroadm-version"]) [],
      checklist .shelf shelf [nested "slots" .slot],
      checklist .slot ["slot-name", "label", "provisioned-circuit-pack", "slot-status"] [],
      circuitPacks,
      checklist .port port [soft "port-capabilities" .capabilities],
      checklist .capabilities [] [nested "supported-interface-capability" .capability],
      capabilities] ++ xponders ++ roadmParts }

end Builtin

/-- The registry of the versions in use. -/
def Registry.builtin
    : Registry :=
  [Builtin.version121, Builtin.version221, Builtin.version71].foldl Registry.insert {}

end Lightpath
