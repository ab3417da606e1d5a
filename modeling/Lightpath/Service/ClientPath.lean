import Lightpath.Service.Plan

/-!
Plans of client services. Each client of a network port takes tributary slots of the data unit that
the port carries, by its position among the clients; there is no plan for a client past the
capacity. A plan is put together from what has to be computed for it.
-/

namespace Lightpath

namespace Plan

/-- The tributary slots of the client at a position on a parent that is carried whole. -/
def wholeSlots (kind : ClientKind) (position : Nat)
    : List Nat :=
  (List.range kind.wholeSlots).map fun s => position * kind.wholeSlots + s + 1

/-- The text of a slot of a parent carried in slices: its slice and its place there. -/
def slotName (slice place : Nat)
    : String :=
  toString slice ++ "." ++ toString place

/-- The text of a slot counted from zero. -/
def slotText (slot : Nat)
    : String :=
  slotName (slot / ClientKind.slicePayload + 1) (slot % ClientKind.slicePayload + 1)

/-- The tributary slots of the client at a position on a parent carried in slices. -/
def slicedSlots (kind : ClientKind) (position : Nat)
    : List String :=
  (List.range kind.slicedSlots).map fun s => slotText (position * kind.slicedSlots + s)

/-- The slots of the client at a position as a list of a document. -/
def slotList (rate : SignalRate) (kind : ClientKind) (position : Nat)
    : Json :=
  if rate.isSliced then Json.ofStrings (slicedSlots kind position)
  else .array ((wholeSlots kind position).map .ofNat)

/-- The slots of a client as the request names them. -/
def slotMembers (rate : SignalRate) (slots : Json)
    : List (String × Json) :=
  [(if rate.isSliced then "opucn-trib-slots" else "trib-slot", slots)]

/-- The slots of a client as the configuration of its data unit names them. -/
def allocation (rate : SignalRate) (tributaryPort : Nat) (slots : Json)
    : Json :=
  Json.ofMembers [
    ("trib-port-number", .ofNat tributaryPort),
    (if rate.isSliced then "opucn-trib-slots" else "trib-slots", slots)]

/-- The resources of a client service, from the client side, given the speed of the client, its
tributary port and its slots.
-/
def clientResources (network : Port) (rate : SignalRate) (client : Port) (kind : ClientKind)
    (speed tributaryPort : Nat) (slots : Json)
    : List PlannedResource :=
  let eth := ResourceName.clientEthernet client.name kind
  [ethernet eth client speed,
    dataUnit (ResourceName.clientDataUnit client.name kind) client eth [
      ("rate", .string (transportWord kind.dataUnit)),
      ("odu-function", .string (transportWord "ODU-TTP-CTP")),
      ("monitoring-mode", .string "terminated")],
    dataUnit (ResourceName.tributary network.name kind client.name) network
      (ResourceName.dataUnit network.name rate) [
        ("rate", .string (transportWord kind.dataUnit)),
        ("odu-function", .string (transportWord "ODU-CTP")),
        ("monitoring-mode", .string "monitored"),
        ("parent-odu-allocation", allocation rate tributaryPort slots)]]

/-- The part of a request for a client service that names its ends. -/
def clientNode (ctx : PlanContext) (network client : Port)
    : Json :=
  Json.ofMembers [
    ("node-id", .string ctx.node),
    ("client-tp", .string client.name),
    ("network-tp", .string network.name)]

/-- The members of a request for a client service before the slots. -/
def clientMembers (ctx : PlanContext) (network client : Port) (kind : ClientKind)
    (tributaryPort : Nat)
    : List (String × Json) :=
  [("service-name", .string (ctx.service ++ "-" ++ client.name)),
    ("service-format", .string "Ethernet"),
    ("service-rate", .ofNat kind.gbps),
    ("ethernet-encoding", .string "eth TTP"),
    ("nodes", .array [clientNode ctx network client]),
    ("trib-port-number", .ofNat tributaryPort)]

/-- The service of a client of a network port, given the speed of the client, its tributary port and
its slots.
-/
def clientOf (ctx : PlanContext) (network : Port) (rate : SignalRate) (client : Port)
    (kind : ClientKind) (speed tributaryPort : Nat) (slots : Json)
    : Plan :=
  { label := network.name ++ " " ++ toString kind.gbps ++ "G <- " ++ client.name
    rpc := clientRpc
    resources := clientResources network rate client kind speed tributaryPort slots
    primary := ResourceName.clientEthernet client.name kind
    node := ctx.node
    members := clientMembers ctx network client kind tributaryPort ++ slotMembers rate slots }

/-- The service of the client at a position on a network port. -/
def clientAt (ctx : PlanContext) (network : Port) (rate : SignalRate) (client : Port)
    (kind : ClientKind) (position : Nat)
    : Plan :=
  clientOf ctx network rate client kind (kind.gbps * 1000) (position + 1)
    (slotList rate kind position)

/-- The service of the client at a position on a network port, if the port has slots for it. -/
def client? (ctx : PlanContext) (network : Port) (rate : SignalRate) (client : Port)
    (kind : ClientKind) (position : Nat)
    : Option Plan :=
  if position < kind.capacity rate then some (clientAt ctx network rate client kind position)
  else none

end Plan

end Lightpath
