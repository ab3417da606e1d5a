import Lightpath.Json.Envelope
import Lightpath.Json.Shown
import Lightpath.Model.LeafRule
import Lightpath.Node.PortTable
import Lightpath.Port.Rate
import Lightpath.Simulation.Rendering

/-!
How a simulated node renders requests for optical paths and client services. Names and bodies are
those of a device of its own make; frequencies and tributary slots are taken from the request.
-/

namespace Lightpath

/-- A node's ports and the rates that some of them are set to. -/
structure Renderer where
  table : PortTable
  rates : List (String × SignalRate) := []
deriving Repr

namespace Renderer

/-- The rate that a network port runs at: the one it is set to, else the first that it can carry,
else the lowest.
-/
def rateFor (r : Renderer) (port : Port)
    : SignalRate :=
  (r.rates.lookup port.name).getD ((SignalRate.ofCapabilities port).head?.getD .g100)

/-- The spectrum of a request as the request states it. -/
structure RequestedSpectrum where
  range : String
  center : Json
  lowEdge : Json
  highEdge : Json
  width : Json
  modulation : Json
deriving Repr

/-- A member that a request has to state. -/
def stated (request : Json) (name : String)
    : Except RenderError Json :=
  match request.field? name with
  | some v => .ok v
  | none => .error (.rejected ("missing " ++ name))

/-- A slot number that a request has to state. -/
def slot (request : Json) (name : String)
    : Except RenderError Nat := do
  match (← stated request name).nat? with
  | some n => .ok n
  | none => .error (.rejected (name ++ " is not a slot number"))

/-- The spectrum that a request states. -/
def RequestedSpectrum.ofRequest (request : Json)
    : Except RenderError RequestedSpectrum := do
  let lowest ← slot request "lower-spectral-slot-number"
  let highest ← slot request "higher-spectral-slot-number"
  let center ← stated request "center-freq"
  let lowEdge ← stated request "min-freq"
  let highEdge ← stated request "max-freq"
  let width ← stated request "nmc-width"
  let modulation ← stated request "modulation-format"
  .ok {
    range := toString lowest ++ ":" ++ toString highest
    center := center, lowEdge := lowEdge, highEdge := highEdge
    width := width, modulation := modulation }

/-- The port at an end of a path. -/
def portAt (r : Renderer) (node : Json) (key : String)
    : Except RenderError Port :=
  match node.textField? key with
  | none => .error (.rejected ("missing " ++ key))
  | some name =>
      match r.table.port? name with
      | some port => .ok port
      | none => .error (.rejected ("unknown logical connection point " ++ name))

/-- An interface on a port as the node holds it. -/
def interface (name listKey type : String) (port : Port) (supporting : Option String)
    (layer : String) (content : List (String × Json))
    : RenderedResource :=
  { name := name
    listKey := listKey
    config := Json.ofFields [
      ("name", some (.string name)),
      ("type", some (.string ("org-openroadm-interfaces:" ++ type))),
      ("administrative-state", some (.string "inService")),
      ("operational-state", some (.string "inService")),
      ("supporting-circuit-pack-name", some (.string port.circuitPack)),
      ("supporting-port", some (.string port.supportingPort)),
      ("supporting-interface-list", supporting.map fun s => Json.ofStrings [s]),
      (layer, some (Json.ofMembers content))] }

/-- An Ethernet interface of a speed in Mbit/s. -/
def ethernet (name : String) (port : Port) (speed : Nat)
    : RenderedResource :=
  interface name "eth-interface-id" "ethernetCsmacd" port none
    "org-openroadm-ethernet-interfaces:ethernet" [
      ("speed", .ofNat speed), ("fec", .string "off"), ("duplex", .string "full"),
      ("mtu", .ofNat 9000)]

/-- A data unit over another interface. -/
def dataUnit (name : String) (port : Port) (supporting : String)
    (content : List (String × Json))
    : RenderedResource :=
  interface name "odu-interface-id" "otnOdu" port (some supporting)
    "org-openroadm-otn-odu-interfaces:odu" content

/-- The content of a data unit that ends on the line side. -/
def terminated (rate : String)
    : List (String × Json) :=
  [("rate", .string ("org-openroadm-otn-common-types:" ++ rate)),
    ("odu-function", .string "org-openroadm-otn-common-types:ODU-TTP"),
    ("monitoring-mode", .string "terminated"),
    ("tx-sapi", .string "AA")]

/-- The line side of a port that runs at the lowest rate. -/
def wholeLine (port : Port)
    : List RenderedResource :=
  let transport := port.name ++ "-OTU"
  [interface transport "otu-interface-id" "otnOtu" port none
      "org-openroadm-otn-otu-interfaces:otu" [
        ("rate", .string "org-openroadm-otn-common-types:OTU4"),
        ("fec", .string "org-openroadm-common-types:scfec"),
        ("degm-intervals", .ofNat 2)],
    dataUnit (port.name ++ "-ODU4") port transport (terminated "ODU4")]

/-- The line side of a port that runs at a number of slices. -/
def slicedLine (port : Port) (slices : Nat) (spectrum : RequestedSpectrum)
    : List RenderedResource :=
  let rate := toString (slices * 100) ++ "G"
  let signalRate := "org-openroadm-common-optical-channel-types:R" ++ rate ++ "-otsi"
  let signal := port.name ++ "-" ++ spectrum.range
  let group := port.name ++ "-OTSIGROUP-" ++ rate
  let transport := port.name ++ "-OTUC" ++ toString slices
  [interface signal "och-interface-id" "otsi" port none
      "org-openroadm-optical-tributary-signal-interfaces:otsi" [
        ("frequency", spectrum.center),
        ("otsi-rate", .string signalRate),
        ("modulation-format", spectrum.modulation),
        ("fec", .string "org-openroadm-common-types:ofec"),
        ("provision-mode", .string "explicit"),
        ("transmit-power", .number (.integer (-5)))],
    interface group "och-interface-id" "otsi-group" port (some signal)
      "org-openroadm-otsi-group-interfaces:otsi-group" [
        ("group-id", .ofNat 1),
        ("group-rate", .string signalRate)],
    interface transport "otu-interface-id" "otnOtu" port (some group)
      "org-openroadm-otn-otu-interfaces:otu" [
        ("rate", .string "org-openroadm-otn-common-types:OTUCn"),
        ("otucn-n-rate", .ofNat slices)],
    dataUnit (port.name ++ "-ODUC" ++ toString slices) port transport
      (terminated "ODUCn" ++ [("oducn-n-rate", .ofNat slices)])]

/-- The line side of a port at a rate. -/
def line (port : Port) (rate : SignalRate) (spectrum : RequestedSpectrum)
    : List RenderedResource :=
  match rate with
  | .g100 => wholeLine port
  | .g200 => slicedLine port 2 spectrum
  | .g300 => slicedLine port 3 spectrum
  | .g400 => slicedLine port 4 spectrum

/-- The path on a network port, with the Ethernet interface of a client if there is one. -/
def xponder (r : Renderer) (network : Port) (client : Option Port)
    (spectrum : RequestedSpectrum)
    : Rendering :=
  let rate := r.rateFor network
  let ends := match client with
    | some c => [ethernet (c.name ++ "-ETHERNET") c (rate.gbps * 1000)]
    | none => []
  { description := "optical service on " ++ network.name
    resources := line network rate spectrum ++ ends }

/-- A network media channel on a port. -/
def networkChannel (port : Port) (supporting : Option String) (spectrum : RequestedSpectrum)
    : RenderedResource :=
  interface (port.name ++ "-nmc-" ++ spectrum.range) "och-interface-id"
    "networkMediaChannelConnectionTerminationPoint" port supporting
    "org-openroadm-network-media-channel-interfaces:nmc-ctp" [
      ("frequency", spectrum.center),
      ("width", spectrum.width)]

/-- The path between two ports of a roadm, of which one is the degree. -/
def roadm (source destination degree drop : Port) (spectrum : RequestedSpectrum)
    : Rendering :=
  let media := degree.name ++ "-mc-" ++ spectrum.range
  let connection := source.name ++ "-" ++ destination.name ++ "-" ++ spectrum.range
  { description := "add/drop " ++ source.name ++ " -> " ++ destination.name
    resources := [
      interface media "och-interface-id" "mediaChannelTrailTerminationPoint" degree none
        "org-openroadm-media-channel-interfaces:mc-ttp" [
          ("min-freq", spectrum.lowEdge),
          ("max-freq", spectrum.highEdge)],
      networkChannel degree (some media) spectrum,
      networkChannel drop none spectrum,
      { name := connection
        listKey := "connection-id"
        config := Json.ofMembers [
          ("connection-name", .string connection),
          ("opticalControlMode", .string "off"),
          ("target-output-power", .ofDouble (.ofFloat (-3.0))),
          ("source", Json.ofMembers [
            ("src-if", .string (source.name ++ "-nmc-" ++ spectrum.range))]),
          ("destination", Json.ofMembers [
            ("dst-if", .string (destination.name ++ "-nmc-" ++ spectrum.range))])] }] }

/-- The rendering of a request for an optical path. -/
def optical (r : Renderer) (request node : Json)
    : Except RenderError Rendering := do
  let spectrum ← RequestedSpectrum.ofRequest request
  let destination ← r.portAt node "dest-tp"
  match node.textField? "src-tp" with
  | none =>
      if destination.role? = some .network then .ok (r.xponder destination none spectrum)
      else .error (.rejected ("cannot render a path to " ++ destination.name))
  | some _ =>
      let source ← r.portAt node "src-tp"
      match source.role?, destination.role? with
      | some .client, some .network => .ok (r.xponder destination (some source) spectrum)
      | some .riskGroup, some .degree =>
          .ok (roadm source destination destination source spectrum)
      | some .degree, some .riskGroup =>
          .ok (roadm source destination source destination spectrum)
      | _, _ => .error (.rejected ("cannot render a path to " ++ destination.name))

/-- The slice and the place in it that a slot's text states. -/
def slotParts? (text : String)
    : Option (Nat × Nat) :=
  match text.toList.span (· ≠ '.') with
  | (slice, _ :: place) => do
      let slice ← LeafRule.numeral? (String.ofList slice)
      let place ← LeafRule.numeral? (String.ofList place)
      some (slice, place)
  | (_, []) => none

/-- The fault of one slot of a payload in slices. -/
def slicedSlotFault? (slices : Nat) (slot : Json)
    : Option RenderError :=
  match slot.string?.bind slotParts? with
  | none => some (.rejected ("malformed opucn slot " ++ slot.compact))
  | some (slice, place) =>
      if slice = 0 ∨ slices < slice ∨ place = 0 ∨ 20 < place then
        some (.rejected ("opucn slot " ++ slot.compact ++ " outside the payload"))
      else none

/-- The array that a request has to state. -/
def statedItems (request : Json) (name : String)
    : Except RenderError (List Json) :=
  match (request.field? name).bind Json.items? with
  | some items => .ok items
  | none => .error (.rejected ("missing " ++ name))

/-- The slots of a client on a parent in slices, if they are within the payload and as many as
needed.
-/
def slicedSlots (request : Json) (slices needed : Nat)
    : Except RenderError (List Json) := do
  let slots ← statedItems request "opucn-trib-slots"
  match slots.findSome? (slicedSlotFault? slices) with
  | some e => .error e
  | none =>
      if slots.length = needed then .ok slots
      else .error (.rejected
        (toString slots.length ++ " opucn slots, expected " ++ toString needed))

/-- Whether a value is the number of a slot of a parent that is carried whole. -/
def isWholeSlot (v : Json)
    : Bool :=
  v.nat?.any fun n => 1 ≤ n && n ≤ 80

/-- The slots of a client on a parent that is carried whole, if they are within the payload and
as many as needed.
-/
def wholeSlots (request : Json) (needed : Nat)
    : Except RenderError (List Json) := do
  let slots ← statedItems request "trib-slot"
  if !slots.all isWholeSlot then
    .error (.rejected
      ("trib-slot " ++ Text.bracketed Json.shown slots ++ " outside the ODU4 payload"))
  else if slots.length = needed then .ok slots
  else .error (.rejected (toString slots.length ++ " trib slots, expected " ++ toString needed))

/-- The allocation of a client that takes a number of slots of 1.25 Gbit/s. -/
def allocation (request : Json) (rate : SignalRate) (needed : Nat)
    : Except RenderError Json := do
  match (request.field? "trib-port-number").bind Json.nat? with
  | none => .error (.rejected "missing trib-port-number")
  | some 0 => .error (.rejected "missing trib-port-number")
  | some port =>
      match rate.slices? with
      | some slices =>
          let slots ← slicedSlots request slices (needed / 4)
          .ok (Json.ofMembers [
            ("trib-port-number", .ofNat port), ("opucn-trib-slots", .array slots)])
      | none =>
          let slots ← wholeSlots request needed
          .ok (Json.ofMembers [("trib-port-number", .ofNat port), ("trib-slots", .array slots)])

/-- The make of a client service at a rate: the ending of its Ethernet interface, its data unit,
its speed in Mbit/s and the slots it takes.
-/
def clientMake (rate : Option Nat)
    : Except RenderError (String × String × Nat × Nat) :=
  match rate with
  | some 10 => .ok ("ETHERNET10G", "ODU2e", 10000, 8)
  | some 100 => .ok ("ETHERNET100G", "ODU4", 100000, 80)
  | other => .error (.rejected
      ("unsupported service-rate " ++ Text.shownOption (fun n => toString n) other))

/-- The data unit of a port at a rate. -/
def parentName (port : Port) (rate : SignalRate)
    : String :=
  match rate with
  | .g100 => port.name ++ "-ODU4"
  | .g200 => port.name ++ "-ODUC2"
  | .g300 => port.name ++ "-ODUC3"
  | .g400 => port.name ++ "-ODUC4"

/-- The rendering of a request for a client service. -/
def clientService (r : Renderer) (request node : Json)
    : Except RenderError Rendering := do
  let client ← r.portAt node "client-tp"
  let network ← r.portAt node "network-tp"
  let (ending, unit, speed, needed) ←
    clientMake ((request.field? "service-rate").bind Json.nat?)
  let rate := r.rateFor network
  let slots ← allocation request rate needed
  let eth := client.name ++ "-" ++ ending
  let unitRate := ("rate", Json.string ("org-openroadm-otn-common-types:" ++ unit))
  .ok {
    description := unit ++ " client service " ++ client.name ++ " on " ++ network.name
    resources := [
      ethernet eth client speed,
      dataUnit (client.name ++ "-" ++ unit) client eth [
        unitRate,
        ("odu-function", .string "org-openroadm-otn-common-types:ODU-TTP-CTP"),
        ("monitoring-mode", .string "terminated"),
        ("tx-sapi", .string "AA")],
      dataUnit (network.name ++ "-" ++ unit ++ "-" ++ client.name) network
        (parentName network rate) [
          unitRate,
          ("odu-function", .string "org-openroadm-otn-common-types:ODU-CTP"),
          ("monitoring-mode", .string "monitored"),
          ("parent-odu-allocation", slots)]] }

/-- The part of a request that is about this node. -/
def nodePart (r : Renderer) (request : Json)
    : Except RenderError Json :=
  let nodes := ((request.field? "nodes").map Json.asList).getD []
  match nodes.find? fun n => n.textField? "node-id" = some r.table.node with
  | some node => .ok node
  | none => .error (.rejected ("node " ++ r.table.node ++ " is not on the path"))

/-- The rendering of a request by the call that it is made with. -/
def render (r : Renderer) (rpc : String) (request : Json)
    : Except RenderError Rendering := do
  let node ← r.nodePart request
  if rpc = "transportpce-device-renderer:service-path" then r.optical request node
  else if rpc = "transportpce-device-renderer:otn-service-path" then
    r.clientService request node
  else .error (.unknownRpc rpc)

end Renderer

end Lightpath
