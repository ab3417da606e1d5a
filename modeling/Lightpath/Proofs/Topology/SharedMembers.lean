import Lightpath.Proofs.Topology.Defects
import Lightpath.Proofs.Topology.FirstRows

/-!
Ports that several groups list. A port listed under different group numbers is reported once and
left to itself: no pool links it, and none is resolved with it. Groups are told apart by their
numbers alone, so that this catches every shared port only where no two groups have the same
numbers.
-/

namespace Lightpath

/-- The port that a defect reports as shared. -/
def TopologyDefect.sharedPort?
    : TopologyDefect → Option String
  | .sharedMember port _ => some port
  | _ => none

/-- The clients of a record that bear a name. -/
def NetworkRecord.clientsNamed (name : String) (r : NetworkRecord)
    : List Port :=
  r.clients.filter fun c => c.name = name

namespace Declared

/-- Several groups of the pools list a port, whatever numbers they carry. -/
def SeveralList (pools : List SwitchingPool) (name : String)
    : Prop :=
  1 < (pools.flatMap SwitchingPool.groups).countP fun g => name ∈ g.ports

instance (pools : List SwitchingPool) (name : String)
    : Decidable (SeveralList pools name) := by
  unfold SeveralList
  infer_instance

/-- No two groups carry the same numbers of pool and group. -/
def DistinctNumbers (pools : List SwitchingPool)
    : Prop :=
  ((Reconstruction.numberedGroups pools).map Prod.fst).Nodup

-----------------------------------------------------------------------------------------
-- Groups by their numbers
-----------------------------------------------------------------------------------------

/-- The numbered groups that list a port. -/
def listing (pools : List SwitchingPool) (name : String)
    : List ((Nat × Nat) × PoolGroup) :=
  (Reconstruction.numberedGroups pools).filter fun g => name ∈ g.2.ports

theorem severalList_iff (pools : List SwitchingPool) (name : String)
    : SeveralList pools name ↔ 1 < (listing pools name).length := by
  have groups
      : pools.flatMap SwitchingPool.groups
        = (Reconstruction.numberedGroups pools).map Prod.snd := by
    simp [Reconstruction.numberedGroups, List.map_flatMap, Function.comp_def]
  rw [SeveralList, groups, List.countP_map, listing, List.countP_eq_length_filter]
  rfl

theorem conflicting_iff (pools : List SwitchingPool) (name : String)
    : Conflicting pools name
      ↔ ∃ g ∈ listing pools name, ∃ h ∈ listing pools name, g.1 ≠ h.1 := by
  rw [← Reconstruction.one_lt_memberships, Reconstruction.memberships,
    Reconstruction.one_lt_length_eraseDups]
  constructor
  · rintro ⟨_, first, _, second, differ⟩
    obtain ⟨g, listed, rfl⟩ := List.mem_map.mp first
    obtain ⟨h, also, rfl⟩ := List.mem_map.mp second
    exact ⟨g, listed, h, also, differ⟩
  · rintro ⟨g, listed, h, also, differ⟩
    exact ⟨g.1, List.mem_map_of_mem listed, h.1, List.mem_map_of_mem also, differ⟩

/-- Groups with different numbers are several groups. -/
theorem severalList_of_conflicting {pools : List SwitchingPool} {name : String}
    (conflict : Conflicting pools name)
    : SeveralList pools name := by
  obtain ⟨g, listed, h, also, differ⟩ := (conflicting_iff pools name).mp conflict
  rw [severalList_iff]
  match listing pools name, listed, also with
  | [only], listed, also =>
      rw [List.mem_singleton] at listed also
      exact absurd (by rw [listed, also]) differ
  | _ :: _ :: _, _, _ => simp

/-- Where numbers are distinct, several groups have different ones. -/
theorem conflicting_of_severalList {pools : List SwitchingPool} {name : String}
    (distinct : DistinctNumbers pools) (several : SeveralList pools name)
    : Conflicting pools name := by
  rw [severalList_iff] at several
  rw [conflicting_iff]
  have different : ((listing pools name).map Prod.fst).Nodup :=
    (List.filter_sublist.map _).nodup distinct
  match listing pools name, several, different with
  | g :: h :: rest, _, different =>
      refine ⟨g, by simp, h, by simp, ?_⟩
      intro same
      simp [same] at different

/-- No group links clients to a network port in conflict. -/
theorem groupsOf_of_conflicting (ports : List Port) {pools : List SwitchingPool} {name : String}
    (conflict : Conflicting pools name)
    : groupsOf ports pools name = [] := by
  simp [groupsOf, conflict]

end Declared

namespace Reconstruction

-----------------------------------------------------------------------------------------
-- What is reported
-----------------------------------------------------------------------------------------

theorem ascending_sharedMembers (pools : List SwitchingPool)
    : Keyed.Ascending (sharedMembers pools) := by
  rw [sharedMembers]
  refine List.Pairwise.sublist (List.filter_sublist.map _) ?_
  rw [List.map_map]
  exact Keyed.ascending_ofList _

theorem nodup_sharedMembers (pools : List SwitchingPool)
    : ((sharedMembers pools).map Prod.fst).Nodup :=
  (ascending_sharedMembers pools).nodup

/-- Neither repeated rows nor pools are reported as shared members. -/
theorem sharedPort?_duplicateRows (seen : List String) (ports : List Port)
    : (duplicateRows seen ports).filterMap TopologyDefect.sharedPort? = [] := by
  induction ports generalizing seen with
  | nil => rfl
  | cons p rest ih =>
      rw [duplicateRows]
      split
      · exact (List.filterMap_cons_none rfl).trans (ih seen)
      · exact ih (p.name :: seen)

theorem sharedPort?_poolDefect? {pool : SwitchingPool} {defect : TopologyDefect}
    (rejected : poolDefect? pool = some defect)
    : defect.sharedPort? = none := by
  rw [poolDefect?] at rejected
  split at rejected
  · cases rejected
    rfl
  · split at rejected
    · cases rejected
    · cases rejected
      rfl
  · cases rejected

theorem sharedPort?_groupDefects {ports : List Port} {pools : List SwitchingPool} {pool : Nat}
    {group : PoolGroup} {defect : TopologyDefect}
    (member : defect ∈ Declared.groupDefects ports pools pool group)
    : defect.sharedPort? = none := by
  rw [Declared.groupDefects] at member
  split at member
  · split at member
    · cases member
    · obtain ⟨unknown, -, rfl⟩ := List.mem_map.mp member
      rfl
  · cases List.mem_singleton.mp member
    rfl

theorem sharedPort?_poolDefects (ports : List Port) (pools : List SwitchingPool)
    (pool : SwitchingPool)
    : (Declared.poolDefects ports pools pool).filterMap TopologyDefect.sharedPort? = [] := by
  refine List.filterMap_eq_nil_iff.mpr ?_
  intro defect member
  rw [Declared.poolDefects] at member
  split at member
  · rename_i rejected
    rw [List.mem_singleton.mp member]
    exact sharedPort?_poolDefect? rejected
  · obtain ⟨group, -, found⟩ := List.mem_flatMap.mp member
    exact sharedPort?_groupDefects found

/-- The ports reported as shared are those found in several numbered groups, each once. -/
theorem sharedPorts_ofPorts (ports : List Port) (pools : List SwitchingPool)
    : (ofPorts ports pools).defects.filterMap TopologyDefect.sharedPort?
      = (sharedMembers pools).map Prod.fst := by
  have shared
      : ((sharedMembers pools).map fun m => TopologyDefect.sharedMember m.1 m.2).filterMap
          TopologyDefect.sharedPort? = (sharedMembers pools).map Prod.fst := by
    rw [List.filterMap_map, ← List.filterMap_eq_map]
    rfl
  have quiet
      : (pools.flatMap (Declared.poolDefects ports pools)).filterMap TopologyDefect.sharedPort?
        = [] := by
    rw [List.filterMap_flatMap]
    simp [sharedPort?_poolDefects]
  rw [ofPorts_defects, List.filterMap_append, List.filterMap_append, shared, quiet,
    sharedPort?_duplicateRows, List.nil_append, List.append_nil]

-----------------------------------------------------------------------------------------
-- What pools leave alone
-----------------------------------------------------------------------------------------

/-- The network record at a name is that of its declaring row, with what is declared for it. -/
theorem network?_ofPorts (ports : List Port) (pools : List SwitchingPool) (name : String)
    : (ofPorts ports pools).topology.network? name
      = ((Declared.row? ports name).map (Declared.record ports pools)).bind
          PortRecord.network? := by
  rw [Topology.network?, (ofPorts_topology ports pools).2]

/-- A port in conflict has the network record that it would have without any pools. -/
theorem network?_of_conflicting (ports : List Port) {pools : List SwitchingPool} {name : String}
    (conflict : Declared.Conflicting pools name)
    : (ofPorts ports pools).topology.network? name
      = (ofPorts ports []).topology.network? name := by
  have noGroups := Declared.groupsOf_of_conflicting ports conflict
  rw [network?_ofPorts, network?_ofPorts]
  cases found : Declared.row? ports name with
  | none => rfl
  | some p =>
      obtain ⟨-, rfl, -⟩ := row?_eq_some found
      simp only [Option.map_some, Declared.record, Declared.clients, Declared.bandwidthUnit,
        noGroups]
      rfl

theorem not_conflicting_of_mem_groupClients {ports : List Port} {pools : List SwitchingPool}
    {network : String} {group : PoolGroup} {client : Port}
    (linked : client ∈ Declared.groupClients ports pools network group)
    : ¬ Declared.Conflicting pools client.name := by
  obtain ⟨name, listed, found⟩ := List.mem_filterMap.mp linked
  have named : client.name = name := by simpa using List.find?_some found
  have apart : name ≠ network ∧ ¬ Declared.Conflicting pools name := by
    simpa using (List.mem_filter.mp listed).2
  rw [named]
  exact apart.2

/-- A client in conflict is linked to a network port as it would be without any pools: by its own
cross-reference or not at all.
-/
theorem clientsNamed_of_conflicting (ports : List Port) {pools : List SwitchingPool}
    {name : String} (conflict : Declared.Conflicting pools name) (network : String)
    : ((ofPorts ports pools).topology.network? network).map (NetworkRecord.clientsNamed name)
      = ((ofPorts ports []).topology.network? network).map
          (NetworkRecord.clientsNamed name) := by
  have pooled
      : ∀ p ∈ (Declared.groupsOf ports pools network).flatMap
            (Declared.groupClients ports pools network),
          decide (p.name = name) = false := by
    intro p member
    obtain ⟨group, -, linked⟩ := List.mem_flatMap.mp member
    rw [decide_eq_false_iff_not]
    rintro rfl
    exact not_conflicting_of_mem_groupClients linked conflict
  rw [network?_ofPorts, network?_ofPorts]
  cases found : Declared.row? ports network with
  | none => rfl
  | some p =>
      obtain ⟨-, rfl, -⟩ := row?_eq_some found
      by_cases isNetwork : p.role? = some .network
      · simp only [Option.map_some, Declared.record, isNetwork, if_true, Option.bind_some,
          PortRecord.network?, NetworkRecord.clientsNamed, Declared.clients]
        rw [Declared.filter_firstRows_append pooled]
        simp [Declared.groupsOf]
      · simp [Declared.record, isNetwork, PortRecord.network?]

/-- A group whose one network port is in conflict is passed over: nothing is linked and nothing
reported.
-/
theorem resolveGroup_of_conflicting (ports : List Port) {pools : List SwitchingPool}
    {name : String} (conflict : Declared.Conflicting pools name) (pool : Nat) {group : PoolGroup}
    {r : Reconstruction} (only : group.ports.filter r.topology.isNetwork = [name])
    : resolveGroup ports ((sharedMembers pools).map Prod.fst) pool group r = r := by
  rw [resolveGroup, only]
  exact if_pos ((mem_sharedMembers pools name).mpr conflict)

/-- Ports under different group numbers are caught. Such a port is reported as a shared member
exactly once and no other port is; the clients of its name that network ports have, and its own
record if it is a network port, are those that there would be without any pools; and whatever
state a group finds that has it as its one network port, the group is passed over. Different
numbers make different groups, and where no two groups have the same numbers these are all the
ports that several groups list.
-/
theorem ofPorts_catches_shared_members (ports : List Port) (pools : List SwitchingPool)
    (name : String)
    : let result := ofPorts ports pools
      let unpooled := ofPorts ports []
      (result.defects.filterMap TopologyDefect.sharedPort?).count name
        = (if Declared.Conflicting pools name then 1 else 0)
      ∧ (Declared.Conflicting pools name →
          (∀ network,
            (result.topology.network? network).map (NetworkRecord.clientsNamed name)
              = (unpooled.topology.network? network).map (NetworkRecord.clientsNamed name))
          ∧ result.topology.network? name = unpooled.topology.network? name
          ∧ ∀ pool group r, group.ports.filter r.topology.isNetwork = [name] →
              resolveGroup ports ((sharedMembers pools).map Prod.fst) pool group r = r)
      ∧ (Declared.Conflicting pools name → Declared.SeveralList pools name)
      ∧ (Declared.DistinctNumbers pools → Declared.SeveralList pools name →
          Declared.Conflicting pools name) := by
  refine ⟨?reported, ?spared, Declared.severalList_of_conflicting,
    Declared.conflicting_of_severalList⟩
  case reported =>
    rw [sharedPorts_ofPorts, (nodup_sharedMembers pools).count]
    simp only [mem_sharedMembers]
  case spared =>
    intro conflict
    exact ⟨clientsNamed_of_conflicting ports conflict, network?_of_conflicting ports conflict,
      fun pool _ _ only => resolveGroup_of_conflicting ports conflict pool only⟩

/-- Two network ports with a client between them. -/
def rivalPorts
    : List Port :=
  [{ name := "XPDR1-NETWORK1" }, { name := "XPDR1-NETWORK2" }, { name := "XPDR1-CLIENT1" }]

/-- A pool whose two groups have the same number and list the same client. -/
def rivalGroups
    : SwitchingPool :=
  { number := 1
    kindText := "blocking"
    groups := [
      { number := 1, ports := ["XPDR1-NETWORK1", "XPDR1-CLIENT1"] },
      { number := 1, ports := ["XPDR1-NETWORK2", "XPDR1-CLIENT1"] }] }

/-- A client that both groups of the pool list is linked to both network ports without a report. -/
theorem ofPorts_links_rival_groups
    : Declared.SeveralList [rivalGroups] "XPDR1-CLIENT1"
      ∧ (ofPorts rivalPorts [rivalGroups]).isClean = true
      ∧ (ofPorts rivalPorts [rivalGroups]).topology.networks.map NetworkRecord.clientNames
        = [["XPDR1-CLIENT1"], ["XPDR1-CLIENT1"]] := by
  decide

end Reconstruction

end Lightpath
