import Lightpath.Session.Resource
import Lightpath.Simulation.Specimen.Table

/-!
The configurations of two nodes to try things on, a transponder and a roadm; both conform to version
2.2.1 of the device model.
-/

namespace Lightpath

namespace Specimen

/-- A leaf that holds a text. -/
def textLeaf (name text : String)
    : String × Json :=
  (name, .string text)

/-- A leaf that holds a number. -/
def numberLeaf (name : String) (n : Nat)
    : String × Json :=
  (name, .ofNat n)

/-- The information of a device. -/
def deviceInfo (node nodeType : String)
    : List (String × Json) :=
  [textLeaf "node-id" node, numberLeaf "node-number" 1, textLeaf "node-type" nodeType,
    textLeaf "clli" "NodeA", textLeaf "vendor" "vendorA", textLeaf "model" "model1",
    textLeaf "serial-id" "0000001", textLeaf "softwareVersion" "openroadm2.2.1"]

/-- A slot of a shelf by its position, with its circuit pack. -/
def slot (position : Nat) (circuitPack : String)
    : Json :=
  Json.ofMembers [
    textLeaf "slot-name" (toString (position + 1)),
    textLeaf "label" (toString (position + 1)),
    textLeaf "provisioned-circuit-pack" circuitPack]

/-- The shelf that holds circuit packs. -/
def shelf (circuitPacks : List String)
    : Json :=
  Json.ofMembers [
    textLeaf "shelf-name" "1",
    textLeaf "shelf-type" "Shelf",
    textLeaf "rack" "rack1",
    textLeaf "shelf-position" "1",
    textLeaf "administrative-state" "inService",
    textLeaf "vendor" "vendorA",
    textLeaf "model" "Shelf",
    textLeaf "serial-id" "S0001",
    textLeaf "operational-state" "inService",
    ("slots", .array (circuitPacks.mapIdx slot))]

/-- A port of a circuit pack with its capabilities. -/
def devicePort (name : String) (qualifier : PortQualifier) (capabilities : List String)
    : Json :=
  let listed := capabilities.map fun c => Json.ofMembers [textLeaf "if-cap-type" (capability c)]
  Json.ofMembers [
    textLeaf "port-name" name,
    textLeaf "port-type" "port",
    textLeaf "port-qual" qualifier.word,
    textLeaf "port-direction" "bidirectional",
    textLeaf "administrative-state" "inService",
    textLeaf "operational-state" "inService",
    ("supported-interface-capability", .array listed)]

/-- The circuit pack in a slot, with its one port. -/
def circuitPack (name : String) (slot : Nat) (port : Json)
    : Json :=
  Json.ofMembers [
    textLeaf "circuit-pack-name" name,
    textLeaf "circuit-pack-type" "port",
    textLeaf "shelf" "1",
    textLeaf "slot" (toString slot),
    textLeaf "vendor" "vendorA",
    textLeaf "model" "CP",
    textLeaf "serial-id" ("CP000" ++ toString slot),
    textLeaf "administrative-state" "inService",
    textLeaf "operational-state" "inService",
    textLeaf "equipment-state" "not-reserved-inuse",
    ("ports", .array [port])]

/-- A configuration inside the container of its device. -/
def device (members : List (String × Json))
    : Json :=
  Json.ofMembers [(ResourceId.deviceRoot, Json.ofMembers members)]

/-- A place in a list of references, with the circuit pack it refers to and further leaves. -/
def reference (index : Nat) (circuitPack : String) (more : List (String × Json))
    : Json :=
  Json.ofMembers ([numberLeaf "index" index, textLeaf "circuit-pack-name" circuitPack] ++ more)

/-- The configuration of the transponder, given its information. -/
def transponderWith (info : List (String × Json))
    : Json :=
  device [
    ("info", Json.ofMembers info),
    ("shelves", .array [shelf ["1/0/1-PLUG-NET", "1/0/C1-PLUG-CLIENT"]]),
    ("circuit-packs", .array [
      circuitPack "1/0/1-PLUG-NET" 1 (devicePort "1" .xponderNetwork ["if-OCH-OTU4-ODU4"]),
      circuitPack "1/0/C1-PLUG-CLIENT" 2 (devicePort "C1" .xponderClient ["if-100GE"])]),
    ("xponder", .array [Json.ofMembers [
      numberLeaf "xpdr-number" 1,
      textLeaf "xpdr-type" "tpdr",
      ("xpdr-port", .array [
        reference 1 "1/0/1-PLUG-NET" [textLeaf "port-name" "1"],
        reference 2 "1/0/C1-PLUG-CLIENT" [textLeaf "port-name" "C1"]])]])]

/-- The configuration of the transponder. -/
def transponderDevice
    : Json :=
  transponderWith (deviceInfo transponder.node "xpdr")

/-- The configuration of the transponder without its serial number. -/
def transponderWithoutSerial
    : Json :=
  transponderWith (Keyed.erase "serial-id" (deviceInfo transponder.node "xpdr"))

/-- The degree of a number on its circuit pack. -/
def degree (number : Nat) (circuitPack : String)
    : Json :=
  Json.ofMembers [
    numberLeaf "degree-number" number,
    numberLeaf "max-wavelengths" 96,
    ("circuit-packs", .array [reference 1 circuitPack []]),
    ("connection-ports", .array [reference 1 circuitPack [textLeaf "port-name" "L1"]])]

/-- The configuration of the roadm. -/
def roadmDevice
    : Json :=
  device [
    ("info", Json.ofMembers (deviceInfo roadm.node "rdm")),
    ("shelves", .array [shelf ["1/0", "2/0", "3/0"]]),
    ("circuit-packs", .array [
      circuitPack "1/0" 1 (devicePort "L1" .roadmExternal []),
      circuitPack "2/0" 2 (devicePort "L1" .roadmExternal []),
      circuitPack "3/0" 3 (devicePort "C1" .roadmExternal [])]),
    ("degree", .array [degree 1 "1/0", degree 2 "2/0"]),
    ("shared-risk-group", .array [Json.ofMembers [
      numberLeaf "srg-number" 1,
      numberLeaf "max-add-drop-ports" 16,
      textLeaf "wavelength-duplication" "one-per-srg",
      ("circuit-packs", .array [reference 1 "3/0" []]),
      numberLeaf "current-provisioned-add-drop-ports" 1]])]

end Specimen

end Lightpath
