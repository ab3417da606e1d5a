import Lightpath.Port.Basic
import Lightpath.Topology.Defect

/-!
The topology of a node: for each network port the clients that can reach it, for each degree the
shared-risk-group ports that can be added and dropped on it. Records stand in the order of their
ports' names.
-/

namespace Lightpath

/-- A network port with its clients. -/
structure NetworkRecord where
  port : Port
  kind : Option XponderKind
  clients : List Port := []
  bandwidthUnit : Option Nat := none
deriving DecidableEq, Repr

namespace NetworkRecord

/-- The record of a port that nothing is linked to yet. -/
def ofPort (p : Port)
    : NetworkRecord :=
  { port := p, kind := p.xponderKind }

/-- Whether a port of this name is among the clients. -/
def isLinked (r : NetworkRecord) (name : String)
    : Bool :=
  r.clients.any fun c => c.name = name

/-- The record with one more client, unless a client of its name is there already. -/
def link (r : NetworkRecord) (client : Port)
    : NetworkRecord :=
  if r.isLinked client.name then r else { r with clients := r.clients ++ [client] }

/-- The names of the clients in the order of their linking. -/
def clientNames (r : NetworkRecord)
    : List String :=
  r.clients.map Port.name

/-- The document of a record. -/
def toJson (r : NetworkRecord)
    : Json :=
  Json.ofMembers [
    ("role", .string "network"),
    ("port", r.port.toJson),
    ("xponder_type", Json.ofOption (fun k => .string k.word) r.kind),
    ("linked_clients", .array (r.clients.map Port.toJson)),
    ("bandwidth_unit", Json.ofOption Json.ofNat r.bandwidthUnit)]

end NetworkRecord

/-- A degree port with its shared-risk-group ports. -/
structure DegreeRecord where
  port : Port
  riskGroups : List Port := []
deriving DecidableEq, Repr

namespace DegreeRecord

/-- The document of a record. -/
def toJson (r : DegreeRecord)
    : Json :=
  Json.ofMembers [
    ("role", .string "degree"),
    ("port", r.port.toJson),
    ("linked_srgs", .array (r.riskGroups.map Port.toJson))]

end DegreeRecord

/-- A record of either sort. -/
inductive PortRecord where
  | network (record : NetworkRecord)
  | degree (record : DegreeRecord)
deriving DecidableEq, Repr

namespace PortRecord

/-- The port that a record is about. -/
def port
    : PortRecord → Port
  | .network r => r.port
  | .degree r => r.port

/-- The name of that port. -/
def name (r : PortRecord)
    : String :=
  r.port.name

/-- The record of a network port. -/
def network?
    : PortRecord → Option NetworkRecord
  | .network r => some r
  | .degree _ => none

/-- The record of a degree. -/
def degree?
    : PortRecord → Option DegreeRecord
  | .degree r => some r
  | .network _ => none

/-- The defect of a port without any partner. -/
def linkageDefect?
    : PortRecord → Option TopologyDefect
  | .network r => if r.clients.isEmpty then some (.unlinkedNetwork r.port.name) else none
  | .degree r => if r.riskGroups.isEmpty then some (.unlinkedDegree r.port.name) else none

/-- The document of a record. -/
def toJson
    : PortRecord → Json
  | .network r => r.toJson
  | .degree r => r.toJson

end PortRecord

/-- The records of a node in ascending order of their ports' names, each name once. -/
structure Topology where
  records : List PortRecord := []
deriving DecidableEq, Repr

namespace Topology

/-- The record of a port. -/
def get? (t : Topology) (name : String)
    : Option PortRecord :=
  t.records.find? fun r => r.name = name

/-- The record of a network port. -/
def network? (t : Topology) (name : String)
    : Option NetworkRecord :=
  (t.get? name).bind PortRecord.network?

/-- The record of a degree. -/
def degree? (t : Topology) (name : String)
    : Option DegreeRecord :=
  (t.get? name).bind PortRecord.degree?

/-- Whether a port is a network port of the topology. -/
def isNetwork (t : Topology) (name : String)
    : Bool :=
  (t.network? name).isSome

/-- The network ports in order. -/
def networks (t : Topology)
    : List NetworkRecord :=
  t.records.filterMap PortRecord.network?

/-- The degrees in order. -/
def degrees (t : Topology)
    : List DegreeRecord :=
  t.records.filterMap PortRecord.degree?

/-- The names of all ports with a record. -/
def names (t : Topology)
    : List String :=
  t.records.map PortRecord.name

/-- The list with a record at its place, unless one of its name is there already. -/
def place (record : PortRecord)
    : List PortRecord → List PortRecord
  | [] => [record]
  | r :: rest =>
      if record.name < r.name then record :: r :: rest
      else if record.name = r.name then r :: rest
      else r :: place record rest

/-- The topology with one more record; the first of a name stays. -/
def insert (t : Topology) (record : PortRecord)
    : Topology :=
  ⟨place record t.records⟩

/-- The topology with the record of one network port changed. -/
def updateNetwork (t : Topology) (name : String) (f : NetworkRecord → NetworkRecord)
    : Topology :=
  ⟨t.records.map fun
    | .network r => if r.port.name = name then .network (f r) else .network r
    | r => r⟩

/-- The topology with the record of every degree changed. -/
def updateDegrees (t : Topology) (f : DegreeRecord → DegreeRecord)
    : Topology :=
  ⟨t.records.map fun
    | .degree r => .degree (f r)
    | r => r⟩

/-- The defects of ports without any partner, in order. -/
def linkageDefects (t : Topology)
    : List TopologyDefect :=
  t.records.filterMap PortRecord.linkageDefect?

/-- The document of a topology: the records by the names of their ports. -/
def toJson (t : Topology)
    : Json :=
  Json.ofMembers (t.records.map fun r => (r.name, r.toJson))

end Topology

end Lightpath
