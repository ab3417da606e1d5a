import Lightpath.Node.PortTable
import Lightpath.Topology.Record

/-!
Rebuilding a topology from a port table. Network ports and degrees get a record each, then clients are
linked by their own cross-reference, then by the groups of switching pools, and at last every
shared-risk-group port is linked to every degree. A port that several groups list is linked by none
of them.
-/

namespace Lightpath

/-- The items whose name does not occur before, in their order. -/
def firstPerName (ports : List Port)
    : List Port :=
  ports.foldl (fun kept p => if kept.any (·.name = p.name) then kept else kept ++ [p]) []

/-- A topology with the defects of the table it was rebuilt from. -/
structure Reconstruction where
  topology : Topology
  defects : List TopologyDefect
deriving DecidableEq, Repr

namespace Reconstruction

/-- The defects of the table, then those of unlinked ports. -/
def allDefects (r : Reconstruction)
    : List TopologyDefect :=
  r.defects ++ r.topology.linkageDefects

/-- Whether there is no defect at all. -/
def isClean (r : Reconstruction)
    : Bool :=
  r.allDefects.isEmpty

/-- A defect for each row whose name stands in an earlier row, given the names seen so far. -/
def duplicateRows (seen : List String)
    : List Port → List TopologyDefect
  | [] => []
  | p :: rest =>
      if p.name ∈ seen then .duplicateRow p.name :: duplicateRows seen rest
      else duplicateRows (p.name :: seen) rest

/-- The record that a port starts with, if its role calls for one. -/
def seed? (p : Port)
    : Option PortRecord :=
  match p.role? with
  | some .network => some (.network (.ofPort p))
  | some .degree => some (.degree { port := p })
  | _ => none

/-- A record for every network port and degree, from the first such row of its name. -/
def seeds (ports : List Port)
    : Topology :=
  (ports.filterMap seed?).foldl Topology.insert {}

/-- The topology with a client linked where its cross-reference points. -/
def linkDirect (t : Topology) (p : Port)
    : Topology :=
  if p.role? = some .client then
    match p.connectionMap with
    | some target => t.updateNetwork target fun r => r.link p
    | none => t
  else t

/-- The groups of all pools, each with the numbers of its pool and itself. -/
def numberedGroups (pools : List SwitchingPool)
    : List ((Nat × Nat) × PoolGroup) :=
  pools.flatMap fun pool => pool.groups.map fun g => ((pool.number, g.number), g)

/-- The numbers of the groups that list a port, each once, in their order. -/
def memberships (pools : List SwitchingPool) (name : String)
    : List (Nat × Nat) :=
  (((numberedGroups pools).filter fun g => name ∈ g.2.ports).map Prod.fst).eraseDups

/-- The ports that several groups list with the numbers of those, in the order of names. -/
def sharedMembers (pools : List SwitchingPool)
    : List (String × List (Nat × Nat)) :=
  let names := Keyed.ofList ((pools.flatMap SwitchingPool.members).map fun n => (n, ()))
  (names.map fun n => (n.1, memberships pools n.1)).filter fun m => 1 < m.2.length

/-- The first row of a name. -/
def row? (ports : List Port) (name : String)
    : Option Port :=
  ports.find? fun p => p.name = name

/-- The record with clients linked by a group, and with the group's bandwidth unit if stated. -/
def linkGroup (group : PoolGroup) (clients : List Port) (r : NetworkRecord)
    : NetworkRecord :=
  let linked := clients.foldl NetworkRecord.link r
  match group.bandwidthUnit with
  | some unit => { linked with bandwidthUnit := some unit }
  | none => linked

/-- One group resolved: its only network port gets the other members as clients. -/
def resolveGroup (ports : List Port) (shared : List String) (pool : Nat) (group : PoolGroup)
    (r : Reconstruction)
    : Reconstruction :=
  match group.ports.filter r.topology.isNetwork with
  | [network] =>
      if network ∈ shared then r
      else
        let others := group.ports.filter fun n => n ≠ network && !shared.contains n
        let clients := others.filterMap (row? ports)
        let missing := others.filter fun n => (row? ports n).isNone
        { topology := r.topology.updateNetwork network (linkGroup group clients)
          defects := r.defects ++ missing.map (.unknownMember pool group.number) }
  | networks =>
      { r with defects := r.defects ++ [.unresolvedGroup pool group.number networks] }

/-- The defect that keeps a pool from being resolved at all. -/
def poolDefect? (pool : SwitchingPool)
    : Option TopologyDefect :=
  match pool.kind? with
  | none => some (.unknownPoolKind pool.number pool.kindText)
  | some .nonBlocking =>
      if pool.groups.length = 1 then none else some (.groupCount pool.number pool.groups.length)
  | some .blocking => none

/-- One pool resolved, group by group. -/
def resolvePool (ports : List Port) (shared : List String) (r : Reconstruction)
    (pool : SwitchingPool)
    : Reconstruction :=
  match poolDefect? pool with
  | some defect => { r with defects := r.defects ++ [defect] }
  | none => pool.groups.foldl (fun r g => resolveGroup ports shared pool.number g r) r

/-- The shared-risk-group ports of a table, the first row of each name that has this role. -/
def riskGroupPorts (ports : List Port)
    : List Port :=
  firstPerName (ports.filter fun p => p.role? = some .riskGroup)

/-- The topology of a list of ports and switching pools. -/
def ofPorts (ports : List Port) (pools : List SwitchingPool)
    : Reconstruction :=
  let shared := sharedMembers pools
  let direct := ports.foldl linkDirect (seeds ports)
  let start : Reconstruction :=
    { topology := direct
      defects := duplicateRows [] ports ++ shared.map fun m => .sharedMember m.1 m.2 }
  let resolved := pools.foldl (resolvePool ports (shared.map Prod.fst)) start
  { resolved with
    topology := resolved.topology.updateDegrees fun r =>
      { r with riskGroups := riskGroupPorts ports } }

/-- The topology of a port table. -/
def ofTable (table : PortTable)
    : Reconstruction :=
  ofPorts table.ports table.pools

end Reconstruction

end Lightpath
