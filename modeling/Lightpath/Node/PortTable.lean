import Lightpath.Node.ReadError
import Lightpath.Node.Tag
import Lightpath.Port.Basic
import Lightpath.Port.SwitchingPool

/-!
The port table of a node, and the documents in which a controller hands out such tables: a list of
nodes under one of three names or a single node, either of them bare or inside `data`.
-/

namespace Lightpath

/-- What a node says of itself. -/
structure NodeInfo where
  nodeType : Option String := none
  modelVersion : Option String := none
  clli : Option String := none
  vendor : Option String := none
  model : Option String := none
deriving DecidableEq, Repr

namespace NodeInfo

/-- The names of the fields in a document, in their order. -/
def fields
    : List String :=
  ["node-type", "openroadm-version", "node-clli", "node-vendor", "node-model"]

/-- The node information that a document describes. -/
def ofJson? (v : Json)
    : Option NodeInfo := do
  let r ← JsonRecord.ofJson? fields v
  some {
    nodeType := ← r.optional "node-type" Json.string?
    modelVersion := ← r.optional "openroadm-version" Json.string?
    clli := ← r.optional "node-clli" Json.string?
    vendor := ← r.optional "node-vendor" Json.string?
    model := ← r.optional "node-model" Json.string? }

/-- The document that describes node information. -/
def toJson (info : NodeInfo)
    : Json :=
  Json.ofFields [
    ("node-type", info.nodeType.map .string),
    ("openroadm-version", info.modelVersion.map .string),
    ("node-clli", info.clli.map .string),
    ("node-vendor", info.vendor.map .string),
    ("node-model", info.model.map .string)]

end NodeInfo

/-- The ports and switching pools of one node. -/
structure PortTable where
  node : String
  info : NodeInfo := {}
  ports : List Port := []
  pools : List SwitchingPool := []
deriving DecidableEq, Repr

namespace PortTable

/-- The category of the device, if its node type names one. -/
def category? (t : PortTable)
    : Option DeviceCategory :=
  t.info.nodeType.bind DeviceCategory.ofText?

/-- The version of the device's model, if stated. -/
def version? (t : PortTable)
    : Option ModelVersion :=
  t.info.modelVersion.map ModelVersion.ofTag

/-- The first port of a name. -/
def port? (t : PortTable) (name : String)
    : Option Port :=
  t.ports.find? fun p => p.name = name

/-- The names of the fields in a document, in their order. -/
def fields
    : List String :=
  ["node-id", "node-info", "mapping", "switching-pool-lcp"]

/-- The table that a document describes. -/
def ofJson? (v : Json)
    : Option PortTable := do
  let r ← JsonRecord.ofJson? fields v
  some {
    node := ← r.required "node-id" Json.string?
    info := ← r.orElse "node-info" {} NodeInfo.ofJson?
    ports := ← r.orElse "mapping" [] (Json.list? Port.ofJson?)
    pools := ← r.orElse "switching-pool-lcp" [] (Json.list? SwitchingPool.ofJson?) }

/-- The document that describes a table. -/
def toJson (t : PortTable)
    : Json :=
  Json.ofFields [
    ("node-id", some (.string t.node)),
    ("node-info", some t.info.toJson),
    ("mapping", some (.array (t.ports.map Port.toJson))),
    ("switching-pool-lcp", some (.array (t.pools.map SwitchingPool.toJson)))]

/-- The names under which a document keeps its nodes; an earlier one goes first. -/
def nodeKeys
    : List String :=
  ["transportpce-portmapping:nodes", "nodes", "node"]

/-- The nodes that a document lists. -/
def nodesIn (document : Json)
    : Except ReadError (List Json) :=
  match nodeKeys.findSome? document.get? with
  | some (.array nodes) => .ok nodes
  | some (.object members) => .ok [.object members]
  | some found => .error (.nodesNotAList found)
  | none => if (document.get? "node-id").isSome then .ok [document] else .error .noNodes

/-- The tables of all nodes in a document. -/
def ofDocument (document : Json)
    : Except ReadError (List PortTable) := do
  let nodes ← nodesIn ((document.get? "data").getD document)
  match nodes.mapM ofJson? with
  | some tables => .ok tables
  | none => .error .unreadableNode

end PortTable

end Lightpath
