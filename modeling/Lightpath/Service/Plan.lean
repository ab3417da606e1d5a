import Lightpath.Service.Name

/-!
A plan for one service on a node: the request that creates and deletes it, and the resources that are
expected to appear with the part of their configuration that is known beforehand.
-/

namespace Lightpath

/-- What all plans of a run share. -/
structure PlanContext where
  node : String
  service : String
  spectrum : Spectrum
deriving DecidableEq, Repr

/-- A resource that a service is expected to make, with the known part of its configuration. -/
structure PlannedResource where
  name : String
  kind : ResourceKind
  expected : Json
deriving Repr

namespace PlannedResource

/-- Whether the resource is a cross-connection, which nodes keep apart from interfaces. -/
def isConnection (r : PlannedResource)
    : Bool :=
  r.kind = .connection

end PlannedResource

/-- A plan: its label, the call it is made by, its resources in the order of their creation, the
interface that is monitored, and the members of the request without the operation.
-/
structure Plan where
  label : String
  rpc : String
  resources : List PlannedResource
  primary : String
  node : String
  members : List (String × Json)
deriving Repr

namespace Plan

/-- The call that sets up optical paths. -/
def opticalRpc
    : String :=
  "transportpce-device-renderer:service-path"

/-- The call that sets up client services. -/
def clientRpc
    : String :=
  "transportpce-device-renderer:otn-service-path"

/-- The request for an operation. -/
def request (p : Plan) (operation : Operation)
    : Json :=
  Json.ofMembers [
    ("input", Json.ofMembers (p.members ++ [("operation", .string operation.word)]))]

/-- The names of the planned resources of a kind. -/
def namesOf (p : Plan) (kind : ResourceKind)
    : List String :=
  (p.resources.filter fun r => r.kind = kind).map PlannedResource.name

/-- The entry in which a node lists what it created, as far as the plan knows it. -/
def expectedEntry (p : Plan)
    : Json :=
  let listed := ResourceKind.all.filterMap fun kind =>
    if (p.namesOf kind).isEmpty then none else some (kind.listKey, Json.ofStrings (p.namesOf kind))
  Json.ofMembers (("node-id", .string p.node) :: listed)

/-- The planned resource of a name. -/
def resource? (p : Plan) (name : String)
    : Option PlannedResource :=
  p.resources.find? fun r => r.name = name

end Plan

namespace Plan

/-- The type of an interface with the module that defines it. -/
def interfaceType (type : String)
    : String :=
  "org-openroadm-interfaces:" ++ type

/-- A word of the module of transport units. -/
def transportWord (word : String)
    : String :=
  "org-openroadm-otn-common-types:" ++ word

/-- A word of the module of common types. -/
def commonWord (word : String)
    : String :=
  "org-openroadm-common-types:" ++ word

/-- The word for the rate of an optical signal. -/
def signalRateWord (rate : SignalRate)
    : String :=
  "org-openroadm-common-optical-channel-types:R" ++ rate.word ++ "-otsi"

/-- An interface on a port, over another interface if one is given, with the container of its
type.
-/
def interface (name : String) (kind : ResourceKind) (type : String) (port : Port)
    (supporting : Option String) (container : String) (content : List (String × Json))
    : PlannedResource :=
  { name := name
    kind := kind
    expected := Json.ofFields [
      ("name", some (.string name)),
      ("type", some (.string (interfaceType type))),
      ("administrative-state", some (.string "inService")),
      ("supporting-circuit-pack-name", some (.string port.circuitPack)),
      ("supporting-port", some (.string port.supportingPort)),
      ("supporting-interface-list", supporting.map fun s => Json.ofStrings [s]),
      (container, some (Json.ofMembers content))] }

/-- A transport unit. -/
def transportUnit (name : String) (port : Port) (supporting : Option String)
    (content : List (String × Json))
    : PlannedResource :=
  interface name .transportUnit "otnOtu" port supporting
    "org-openroadm-otn-otu-interfaces:otu" content

/-- A data unit. -/
def dataUnit (name : String) (port : Port) (supporting : String)
    (content : List (String × Json))
    : PlannedResource :=
  interface name .dataUnit "otnOdu" port (some supporting)
    "org-openroadm-otn-odu-interfaces:odu" content

/-- An Ethernet interface of a speed in Mbit/s. -/
def ethernet (name : String) (port : Port) (speed : Nat)
    : PlannedResource :=
  interface name .ethernet "ethernetCsmacd" port none
    "org-openroadm-ethernet-interfaces:ethernet" [("speed", .ofNat speed)]

end Plan

end Lightpath
