import Lightpath.Node.PortTable

/-!
The port tables of three nodes to try things on: a transponder, a switchponder of a muxponder and a
switch, and a roadm of two degrees.
-/

namespace Lightpath

namespace Specimen

/-- The port tables of the three nodes. -/
inductive Kind where
  | transponder
  | switchponder
  | roadm
deriving DecidableEq, Repr

/-- What a node of a type and a model version says of itself. -/
def info (nodeType version : String)
    : NodeInfo :=
  { nodeType := some nodeType
    modelVersion := some version
    clli := some "NodeA"
    vendor := some "vendorA" }

/-- The full name of a capability. -/
def capability (name : String)
    : String :=
  "org-openroadm-port-types:" ++ name

/-- A port of an xponder with its one capability. -/
def xponderPort (name : String) (qualifier : PortQualifier) (kind : XponderKind)
    (circuitPack supportingPort capabilityName : String)
    : Port :=
  { name := name
    qualifierText := some qualifier.word
    xponderText := some kind.word
    circuitPack := circuitPack
    supportingPort := supportingPort
    capabilityTexts := [capability capabilityName] }

/-- An outer port of a roadm. -/
def roadmPort (name circuitPack supportingPort : String)
    : Port :=
  { name := name
    qualifierText := some PortQualifier.roadmExternal.word
    circuitPack := circuitPack
    supportingPort := supportingPort }

/-- A transponder: one network port and one client port, each connected to the other. -/
def transponder
    : PortTable :=
  { node := "XPDR-A1"
    info := info "xpdr" "2.2.1"
    ports := [
      { xponderPort "XPDR1-NETWORK1" .xponderNetwork .transponder "1/0/1-PLUG-NET" "1"
          "if-OCH-OTU4-ODU4" with connectionMap := some "XPDR1-CLIENT1" },
      { xponderPort "XPDR1-CLIENT1" .xponderClient .transponder "1/0/C1-PLUG-CLIENT" "C1"
          "if-100GE" with connectionMap := some "XPDR1-NETWORK1" }] }

/-- The client port at a position of the muxponder. -/
def muxponderClient (position : Nat)
    : Port :=
  let pack := "CP1-SFP" ++ toString position
  xponderPort ("XPDR1-CLIENT" ++ toString position) .switchClient .muxponder pack
    (pack ++ "-P1") "if-10GE-ODU2e"

/-- The client port at a position of the switch. -/
def switchClient (position : Nat)
    : Port :=
  let pack := "CP" ++ toString (position + 1) ++ "-QSFP1"
  xponderPort ("XPDR2-CLIENT" ++ toString position) .switchClient .switch pack
    (pack ++ "-P1") "if-100GE-ODU4"

/-- A switchponder: a muxponder of four clients at 10 Gbit/s, whose pool is not blocking, and a
switch of two clients at 100 Gbit/s, whose pool is.
-/
def switchponder
    : PortTable :=
  { node := "SPDR-SA1"
    info := info "xpdr" "7.1"
    ports := [
      xponderPort "XPDR1-NETWORK1" .switchNetwork .muxponder "CP1-CFP0" "CP1-CFP0-P1"
        "if-OCH-OTU4-ODU4",
      xponderPort "XPDR2-NETWORK1" .switchNetwork .switch "CP5-CFP" "CP5-CFP-P1"
        "if-otsi-otsigroup"]
      ++ [1, 2, 3, 4].map muxponderClient ++ [1, 2].map switchClient
    pools := [
      { number := 1
        kindText := PoolKind.nonBlocking.word
        groups := [{
          number := 1
          ports := ["XPDR1-NETWORK1", "XPDR1-CLIENT1", "XPDR1-CLIENT2", "XPDR1-CLIENT3",
            "XPDR1-CLIENT4"]
          bandwidthUnit := some 10000000000 }] },
      { number := 2
        kindText := PoolKind.blocking.word
        groups := [{
          number := 1
          ports := ["XPDR2-NETWORK1", "XPDR2-CLIENT1", "XPDR2-CLIENT2"] }] }] }

/-- A roadm: two degrees and one port to add and drop at. -/
def roadm
    : PortTable :=
  { node := "ROADM-A1"
    info := info "rdm" "2.2.1"
    ports := [
      roadmPort "DEG1-TTP-TXRX" "1/0" "L1",
      roadmPort "DEG2-TTP-TXRX" "2/0" "L1",
      roadmPort "SRG1-PP1-TXRX" "3/0" "C1"] }

/-- The table of a node by its kind. -/
def table
    : Kind → PortTable
  | .transponder => transponder
  | .switchponder => switchponder
  | .roadm => roadm

/-- The kind of node that a word names. -/
def Kind.ofWord?
    : String → Option Kind
  | "transponder" => some .transponder
  | "switchponder" => some .switchponder
  | "roadm" => some .roadm
  | _ => none

/-- The document in which a controller hands out tables. -/
def document (tables : List PortTable)
    : Json :=
  Json.ofMembers [("transportpce-portmapping:nodes", .array (tables.map PortTable.toJson))]

end Specimen

end Lightpath
