import Lightpath.Service.Plan

/-!
Plans of optical paths: the network side of an xponder port with or without the Ethernet interface
of a client, and the two directions of an add and drop path through a roadm. Each is put together
from what has to be computed for it.
-/

namespace Lightpath

namespace Plan

/-- The members of a request for an optical path, given the width of its spectrum. -/
def opticalMembers (ctx : PlanContext) (width : Json) (service modulation : String)
    (node : List (String × Json))
    : List (String × Json) :=
  [("service-name", .string service),
    ("modulation-format", .string modulation),
    ("center-freq", ctx.spectrum.centerJson),
    ("nmc-width", width),
    ("min-freq", ctx.spectrum.lowEdgeJson),
    ("max-freq", ctx.spectrum.highEdgeJson),
    ("lower-spectral-slot-number", .ofNat ctx.spectrum.lowest),
    ("higher-spectral-slot-number", .ofNat ctx.spectrum.highest),
    ("nodes", .array [Json.ofMembers node])]

/-- The network side of a port at a rate that is carried whole, from the lowest layer. -/
def wholeStack (port : Port) (rate : SignalRate)
    : List PlannedResource :=
  let transport := ResourceName.transportUnit port.name rate
  [transportUnit transport port none [
      ("rate", .string (transportWord "OTU4")),
      ("fec", .string (commonWord rate.errorCorrection))],
    dataUnit (ResourceName.dataUnit port.name rate) port transport [
      ("rate", .string (transportWord "ODU4")),
      ("odu-function", .string (transportWord "ODU-TTP")),
      ("monitoring-mode", .string "terminated")]]

/-- The network side of a port at a rate carried in slices, from the lowest layer. -/
def slicedStack (spectrum : Spectrum) (port : Port) (rate : SignalRate) (slices : Nat)
    : List PlannedResource :=
  let signal := ResourceName.signal port.name spectrum
  let group := ResourceName.signalGroup port.name rate
  let transport := ResourceName.transportUnit port.name rate
  [interface signal .opticalChannel "otsi" port none
      "org-openroadm-optical-tributary-signal-interfaces:otsi" [
        ("frequency", spectrum.centerJson),
        ("otsi-rate", .string (signalRateWord rate)),
        ("modulation-format", .string rate.modulation),
        ("fec", .string (commonWord rate.errorCorrection)),
        ("provision-mode", .string "explicit")],
    interface group .opticalChannel "otsi-group" port (some signal)
      "org-openroadm-otsi-group-interfaces:otsi-group" [
        ("group-id", .ofNat 1),
        ("group-rate", .string (signalRateWord rate))],
    transportUnit transport port (some group) [
      ("rate", .string (transportWord "OTUCn")),
      ("otucn-n-rate", .ofNat slices)],
    dataUnit (ResourceName.dataUnit port.name rate) port transport [
      ("rate", .string (transportWord "ODUCn")),
      ("oducn-n-rate", .ofNat slices),
      ("odu-function", .string (transportWord "ODU-TTP")),
      ("monitoring-mode", .string "terminated")]]

/-- The network side of a port. -/
def networkStack (spectrum : Spectrum) (port : Port) (rate : SignalRate)
    : List PlannedResource :=
  match rate.slices? with
  | none => wholeStack port rate
  | some n => slicedStack spectrum port rate n

/-- The optical path on a network port, given the width of its spectrum and the speed of the client
if there is one.
-/
def opticalOf (ctx : PlanContext) (network : Port) (client : Option Port) (rate : SignalRate)
    (width : Json) (speed : Nat)
    : Plan :=
  let ends := match client with
    | some c => [("src-tp", Json.string c.name)]
    | none => []
  { label := network.name ++ " " ++ rate.word ++ match client with
      | some c => " <- " ++ c.name
      | none => ""
    rpc := opticalRpc
    resources := networkStack ctx.spectrum network rate ++ match client with
      | some c => [ethernet (ResourceName.ethernet c.name) c speed]
      | none => []
    primary := ResourceName.transportUnit network.name rate
    node := ctx.node
    members := opticalMembers ctx width (ctx.service ++ "-" ++ network.name) rate.modulation
      ([("node-id", .string ctx.node), ("dest-tp", .string network.name)] ++ ends) }

/-- The optical path on a network port: with a client the whole path of a transponder, without
one the network side that client services are carried on.
-/
def optical (ctx : PlanContext) (network : Port) (client : Option Port) (rate : SignalRate)
    : Plan :=
  opticalOf ctx network client rate ctx.spectrum.widthJson (rate.gbps * 1000)

/-- A network media channel on a port, given the width of its spectrum. -/
def networkChannel (spectrum : Spectrum) (width : Json) (port : Port)
    (supporting : Option String)
    : PlannedResource :=
  interface (ResourceName.networkChannel port.name spectrum) .opticalChannel
    "networkMediaChannelConnectionTerminationPoint" port supporting
    "org-openroadm-network-media-channel-interfaces:nmc-ctp" [
      ("frequency", spectrum.centerJson),
      ("width", width)]

/-- The media channel on a degree. -/
def mediaChannel (spectrum : Spectrum) (port : Port)
    : PlannedResource :=
  interface (ResourceName.mediaChannel port.name spectrum) .opticalChannel
    "mediaChannelTrailTerminationPoint" port none
    "org-openroadm-media-channel-interfaces:mc-ttp" [
      ("min-freq", spectrum.lowEdgeJson),
      ("max-freq", spectrum.highEdgeJson)]

/-- The cross-connection between the network media channels of two ports. -/
def crossConnection (spectrum : Spectrum) (source destination : String)
    : PlannedResource :=
  let name := ResourceName.connection source destination spectrum
  { name := name
    kind := .connection
    expected := Json.ofMembers [
      ("connection-name", .string name),
      ("opticalControlMode", .string "off"),
      ("source", Json.ofMembers [
        ("src-if", .string (ResourceName.networkChannel source spectrum))]),
      ("destination", Json.ofMembers [
        ("dst-if", .string (ResourceName.networkChannel destination spectrum))])] }

/-- One direction of a path through a roadm, given the width of its spectrum. -/
def roadmOf (ctx : PlanContext) (source destination : Port) (degreeIsSource : Bool)
    (width : Json)
    : Plan :=
  let degree := if degreeIsSource then source else destination
  let drop := if degreeIsSource then destination else source
  let media := ResourceName.mediaChannel degree.name ctx.spectrum
  { label := source.name ++ " -> " ++ destination.name
    rpc := opticalRpc
    resources := [
      mediaChannel ctx.spectrum degree,
      networkChannel ctx.spectrum width degree (some media),
      networkChannel ctx.spectrum width drop none,
      crossConnection ctx.spectrum source.name destination.name]
    primary := media
    node := ctx.node
    members := opticalMembers ctx width
      (ctx.service ++ "-" ++ source.name ++ "-" ++ destination.name) SignalRate.g100.modulation
      [("node-id", .string ctx.node), ("src-tp", .string source.name),
        ("dest-tp", .string destination.name)] }

/-- One direction of a path through a roadm. One end is the degree, which carries the media
channel; the other is a shared-risk-group port.
-/
def roadm (ctx : PlanContext) (source destination : Port) (degreeIsSource : Bool)
    : Plan :=
  roadmOf ctx source destination degreeIsSource ctx.spectrum.widthJson

end Plan

end Lightpath
