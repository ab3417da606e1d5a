import Lightpath.Proofs.Topology.DeclaredLinkage

/-!
The defects that a table is reported with, said without any pass over it: rows that repeat a name,
then shared members, then what is wrong with each pool in the order of the pools.
-/

namespace Lightpath

namespace Declared

/-- The defects of one group of a pool. A group without exactly one network port is unresolved; one
whose network port is in conflict is passed over, and any other is searched for unknown members.
-/
def groupDefects (ports : List Port) (pools : List SwitchingPool) (pool : Nat) (group : PoolGroup)
    : List TopologyDefect :=
  match group.ports.filter (isNetwork ports) with
  | [network] =>
      if Conflicting pools network then []
      else
        let others := group.ports.filter fun n => n ≠ network ∧ ¬ Conflicting pools n
        (others.filter fun n => (Reconstruction.row? ports n).isNone).map
          (.unknownMember pool group.number)
  | networks => [.unresolvedGroup pool group.number networks]

/-- The defects of one pool: what keeps it from counting, or else those of its groups. -/
def poolDefects (ports : List Port) (pools : List SwitchingPool) (pool : SwitchingPool)
    : List TopologyDefect :=
  match Reconstruction.poolDefect? pool with
  | some defect => [defect]
  | none => pool.groups.flatMap (groupDefects ports pools pool.number)

end Declared

namespace Reconstruction

section Pools

variable (ports : List Port) (pools : List SwitchingPool)

/-- Resolving a group adds its declared defects to those found before. -/
theorem defects_resolveGroup (pool : Nat) (group : PoolGroup) (r : Reconstruction)
    (seeded : r.topology.isNetwork = Declared.isNetwork ports)
    : (resolveGroup ports ((sharedMembers pools).map Prod.fst) pool group r).defects
      = r.defects ++ Declared.groupDefects ports pools pool group := by
  rw [resolveGroup, seeded, Declared.groupDefects]
  generalize group.ports.filter (Declared.isNetwork ports) = networks
  rcases networks with _ | ⟨network, _ | ⟨second, more⟩⟩
  · rfl
  · simp only [mem_sharedMembers]
    by_cases conflict : Declared.Conflicting pools network
    · simp only [if_pos conflict, List.append_nil]
    · simp only [if_neg conflict, filter_unshared]
  · rfl

/-- Resolving groups keeps the network ports of the topology. -/
theorem isNetwork_resolveGroup (pool : Nat) (group : PoolGroup) (r : Reconstruction)
    (seeded : r.topology.isNetwork = Declared.isNetwork ports)
    : (resolveGroup ports ((sharedMembers pools).map Prod.fst) pool group r).topology.isNetwork
      = Declared.isNetwork ports :=
  (relinks_resolveGroup ports pools pool group r seeded).isNetwork.trans seeded

theorem defects_resolvePool (r : Reconstruction) (pool : SwitchingPool)
    (seeded : r.topology.isNetwork = Declared.isNetwork ports)
    : (resolvePool ports ((sharedMembers pools).map Prod.fst) r pool).defects
      = r.defects ++ Declared.poolDefects ports pools pool := by
  rw [resolvePool, Declared.poolDefects]
  cases poolDefect? pool with
  | some defect => rfl
  | none =>
      simp only
      generalize pool.groups = groups
      induction groups generalizing r with
      | nil => simp
      | cons g rest ih =>
          rw [List.foldl_cons, ih _ (isNetwork_resolveGroup ports pools pool.number g r seeded),
            defects_resolveGroup ports pools pool.number g r seeded, List.flatMap_cons,
            List.append_assoc]

/-- Resolving pools adds their declared defects in the order of the pools. -/
theorem defects_resolvePools (more : List SwitchingPool) (r : Reconstruction)
    (seeded : r.topology.isNetwork = Declared.isNetwork ports)
    : (more.foldl (resolvePool ports ((sharedMembers pools).map Prod.fst)) r).defects
      = r.defects ++ more.flatMap (Declared.poolDefects ports pools) := by
  induction more generalizing r with
  | nil => simp
  | cons pool rest ih =>
      have kept := (relinks_resolvePool ports pools r pool seeded).isNetwork.trans seeded
      rw [List.foldl_cons, ih _ kept, defects_resolvePool ports pools r pool seeded,
        List.flatMap_cons, List.append_assoc]

end Pools

/-- A table is reported with its repeated rows, the shared members of its pools, and the defects of
each pool, in this order and with nothing else.
-/
theorem ofPorts_defects (ports : List Port) (pools : List SwitchingPool)
    : (ofPorts ports pools).defects
      = duplicateRows [] ports
        ++ (sharedMembers pools).map (fun m => .sharedMember m.1 m.2)
        ++ pools.flatMap (Declared.poolDefects ports pools) := by
  have seeded := (relinks_direct ports (seeds ports)).isNetwork.trans (isNetwork_seeds ports)
  exact defects_resolvePools ports pools pools _ seeded

end Reconstruction

end Lightpath
