import Lightpath.Proofs.Keyed
import Lightpath.Proofs.Topology.Records
import Lightpath.Topology.Reconstruction

/-!
The linkage that rows and switching pools declare, said port by port without any pass over
them, and the proof that a rebuilt topology holds it exactly.
-/

namespace Lightpath

-----------------------------------------------------------------------------------------
-- The declared linkage
-----------------------------------------------------------------------------------------

namespace Declared

/-- The rows of a list whose name no earlier row has. -/
def firstRows
    : List Port → List Port
  | [] => []
  | p :: rest => p :: (firstRows rest).filter fun q => q.name ≠ p.name

/-- The row that declares a record for a name: the first of this name that is a network port
or a degree.
-/
def row? (ports : List Port) (name : String)
    : Option Port :=
  ports.find? fun p => p.name = name && (p.role? = some .network || p.role? = some .degree)

/-- Whether the record declared for a name is that of a network port. -/
def isNetwork (ports : List Port) (name : String)
    : Bool :=
  (row? ports name).any fun p => p.role? = some .network

/-- Two groups with different numbers list the port, whatever becomes of their pools. -/
def Conflicting (pools : List SwitchingPool) (name : String)
    : Prop :=
  ∃ pool ∈ pools, ∃ group ∈ pool.groups, ∃ other ∈ pools, ∃ rival ∈ other.groups,
    name ∈ group.ports
    ∧ name ∈ rival.ports
    ∧ (pool.number, group.number) ≠ (other.number, rival.number)

instance (pools : List SwitchingPool) (name : String)
    : Decidable (Conflicting pools name) := by
  unfold Conflicting
  infer_instance

/-- A pool counts if its kind is known and, being non-blocking, it has exactly one group. -/
def Counts (pool : SwitchingPool)
    : Prop :=
  pool.kind? = some .blocking ∨ (pool.kind? = some .nonBlocking ∧ pool.groups.length = 1)

instance (pool : SwitchingPool)
    : Decidable (Counts pool) := by
  unfold Counts
  infer_instance

/-- The groups that link clients to a network port, in order: it is the one network port that
they list, they list it once, and it is in no conflict.
-/
def groupsOf (ports : List Port) (pools : List SwitchingPool) (network : String)
    : List PoolGroup :=
  (pools.filter fun pool => Counts pool).flatMap fun pool =>
    pool.groups.filter fun group =>
      group.ports.filter (isNetwork ports) = [network] ∧ ¬ Conflicting pools network

theorem mem_groupsOf {ports : List Port} {pools : List SwitchingPool} {network : String}
    {group : PoolGroup}
    : group ∈ groupsOf ports pools network
      ↔ (∃ pool ∈ pools, Counts pool ∧ group ∈ pool.groups)
        ∧ group.ports.filter (isNetwork ports) = [network]
        ∧ ¬ Conflicting pools network := by
  rw [groupsOf, List.mem_flatMap]
  constructor
  · rintro ⟨pool, counted, chosen⟩
    obtain ⟨inPools, counts⟩ := List.mem_filter.mp counted
    obtain ⟨inGroups, resolves⟩ := List.mem_filter.mp chosen
    exact ⟨⟨pool, inPools, of_decide_eq_true counts, inGroups⟩, of_decide_eq_true resolves⟩
  · rintro ⟨⟨pool, inPools, counts, inGroups⟩, resolves⟩
    exact ⟨pool, List.mem_filter.mpr ⟨inPools, decide_eq_true counts⟩,
      List.mem_filter.mpr ⟨inGroups, decide_eq_true resolves⟩⟩

/-- The clients that a group declares for its network port: the first row of each other port
that it lists, unless that port is in conflict or has no row.
-/
def groupClients (ports : List Port) (pools : List SwitchingPool) (network : String)
    (group : PoolGroup)
    : List Port :=
  (group.ports.filter fun n => n ≠ network ∧ ¬ Conflicting pools n).filterMap fun n =>
    ports.find? fun p => p.name = n

/-- The clients that name a network port in their own rows. -/
def directClients (ports : List Port) (network : String)
    : List Port :=
  ports.filter fun p => p.role? = some .client ∧ p.connectionMap = some network

/-- All clients of a network port: the direct ones, then those of its groups. -/
def clients (ports : List Port) (pools : List SwitchingPool) (network : String)
    : List Port :=
  firstRows (directClients ports network
    ++ (groupsOf ports pools network).flatMap (groupClients ports pools network))

/-- The bandwidth unit of a network port: that of the last of its groups that states one. -/
def bandwidthUnit (ports : List Port) (pools : List SwitchingPool) (network : String)
    : Option Nat :=
  ((groupsOf ports pools network).filterMap PoolGroup.bandwidthUnit).getLast?

/-- The ports that are added and dropped on every degree. -/
def riskGroups (ports : List Port)
    : List Port :=
  firstRows (ports.filter fun p => p.role? = some .riskGroup)

/-- The record that a declaring row gets. -/
def record (ports : List Port) (pools : List SwitchingPool) (p : Port)
    : PortRecord :=
  if p.role? = some .network then
    .network {
      port := p
      kind := p.xponderKind
      clients := clients ports pools p.name
      bandwidthUnit := bandwidthUnit ports pools p.name }
  else .degree { port := p, riskGroups := riskGroups ports }

end Declared

namespace Reconstruction

-----------------------------------------------------------------------------------------
-- Rows kept once per name
-----------------------------------------------------------------------------------------

/-- A row is kept at the end unless its name is there already. -/
theorem firstPerName_concat (ports : List Port) (last : Port)
    : firstPerName (ports ++ [last])
      = if (firstPerName ports).any (·.name = last.name) then firstPerName ports
        else firstPerName ports ++ [last] := by
  rw [firstPerName, List.foldl_append]
  rfl

/-- Rows added in turn to some that are kept: what is new of them follows. -/
theorem foldl_kept (ports kept : List Port)
    : ports.foldl (fun kept p => if kept.any (·.name = p.name) then kept else kept ++ [p]) kept
      = kept ++ (Declared.firstRows ports).filter fun p => ¬ kept.any (·.name = p.name) := by
  induction ports generalizing kept with
  | nil => simp [Declared.firstRows]
  | cons p rest ih =>
      rw [List.foldl_cons, ih, Declared.firstRows]
      by_cases known : kept.any (·.name = p.name)
      · obtain ⟨q, held, named⟩ := List.any_eq_true.mp known
        have dropped
            : ∀ r : Port, (¬ kept.any (·.name = r.name)) → r.name ≠ p.name := by
          intro r new same
          exact new (List.any_eq_true.mpr ⟨q, held, by simpa [same] using named⟩)
        simp only [known, if_true, List.filter_cons, List.filter_filter, not_true_eq_false,
          decide_false, Bool.false_eq_true, if_false]
        congr 1
        refine List.filter_congr ?_
        intro r _
        by_cases new : kept.any (·.name = r.name)
        · simp [new]
        · simp [new, dropped r new]
      · simp only [known, Bool.false_eq_true, if_false, List.filter_cons, List.filter_filter,
          not_false_eq_true, decide_true, if_true, List.append_assoc, List.singleton_append,
          List.any_append, List.any_cons, List.any_nil, Bool.or_false]
        congr 2
        refine List.filter_congr ?_
        intro r _
        by_cases same : r.name = p.name
        · simp [same]
        · simp [same, Ne.symm same]

/-- Keeping the first row of each name in passing is dropping the later ones. -/
theorem firstPerName_eq (ports : List Port)
    : firstPerName ports = Declared.firstRows ports := by
  rw [firstPerName, foldl_kept]
  simp

/-- Linking clients in turn keeps the first of each name. -/
theorem foldl_link {r : NetworkRecord} {linked : List Port} (clients : List Port)
    (sofar : r.clients = firstPerName linked)
    : clients.foldl NetworkRecord.link r
      = { r with clients := firstPerName (linked ++ clients) } := by
  induction clients generalizing r linked with
  | nil => simp [← sofar]
  | cons c rest ih =>
      have step : (r.link c).clients = firstPerName (linked ++ [c]) := by
        rw [firstPerName_concat, NetworkRecord.link, NetworkRecord.isLinked, sofar]
        split <;> simp_all
      have others : r.link c = { r with clients := (r.link c).clients } := by
        rw [NetworkRecord.link]
        split <;> rfl
      rw [List.foldl_cons, ih step, others]
      simp

-----------------------------------------------------------------------------------------
-- Ports in conflict
-----------------------------------------------------------------------------------------

theorem one_lt_length_eraseDups {α : Type} [BEq α] [LawfulBEq α] (items : List α)
    : 1 < items.eraseDups.length ↔ ∃ a ∈ items, ∃ b ∈ items, a ≠ b := by
  cases items with
  | nil => simp
  | cons first rest =>
      have several
          : 1 < (first :: rest).eraseDups.length ↔ ∃ b ∈ rest, b ≠ first := by
        rw [List.eraseDups_cons, List.length_cons, Nat.lt_add_left_iff_pos,
          List.length_pos_iff_exists_mem]
        simp [List.mem_eraseDups]
      rw [several]
      constructor
      · rintro ⟨b, member, differs⟩
        exact ⟨b, List.mem_cons_of_mem _ member, first, by simp, differs⟩
      · rintro ⟨a, aMember, b, bMember, differ⟩
        by_cases same : a = first
        · subst same
          have later := (List.mem_cons.mp bMember).resolve_left (Ne.symm differ)
          exact ⟨b, later, Ne.symm differ⟩
        · exact ⟨a, (List.mem_cons.mp aMember).resolve_left same, same⟩

theorem mem_numberedGroups (pools : List SwitchingPool) (numbers : Nat × Nat) (group : PoolGroup)
    : (numbers, group) ∈ numberedGroups pools
      ↔ ∃ pool ∈ pools, group ∈ pool.groups ∧ numbers = (pool.number, group.number) := by
  simp only [numberedGroups, List.mem_flatMap, List.mem_map, Prod.mk.injEq]
  constructor
  · rintro ⟨pool, inPools, g, inGroups, rfl, rfl⟩
    exact ⟨pool, inPools, inGroups, rfl⟩
  · rintro ⟨pool, inPools, inGroups, rfl⟩
    exact ⟨pool, inPools, group, inGroups, rfl, rfl⟩

theorem mem_listing_numbers (pools : List SwitchingPool) (name : String) (numbers : Nat × Nat)
    : numbers ∈ ((numberedGroups pools).filter fun g => name ∈ g.2.ports).map Prod.fst
      ↔ ∃ pool ∈ pools, ∃ group ∈ pool.groups,
          name ∈ group.ports ∧ numbers = (pool.number, group.number) := by
  simp only [List.mem_map, List.mem_filter, Prod.exists, mem_numberedGroups, decide_eq_true_eq,
    exists_and_right, exists_eq_right]
  constructor
  · rintro ⟨group, ⟨pool, inPools, inGroups, same⟩, listed⟩
    exact ⟨pool, inPools, group, inGroups, listed, same⟩
  · rintro ⟨pool, inPools, group, inGroups, listed, same⟩
    exact ⟨group, ⟨pool, inPools, inGroups, same⟩, listed⟩

/-- Several group numbers list a port exactly if it is in conflict. -/
theorem one_lt_memberships (pools : List SwitchingPool) (name : String)
    : 1 < (memberships pools name).length ↔ Declared.Conflicting pools name := by
  rw [memberships, one_lt_length_eraseDups]
  simp only [mem_listing_numbers, Declared.Conflicting]
  constructor
  · rintro ⟨_, ⟨pool, inPools, group, inGroups, listed, rfl⟩, _,
      ⟨other, inOthers, rival, inRivals, alsoListed, rfl⟩, differ⟩
    exact ⟨pool, inPools, group, inGroups, other, inOthers, rival, inRivals, listed, alsoListed,
      differ⟩
  · rintro ⟨pool, inPools, group, inGroups, other, inOthers, rival, inRivals, listed, alsoListed,
      differ⟩
    exact ⟨_, ⟨pool, inPools, group, inGroups, listed, rfl⟩, _,
      ⟨other, inOthers, rival, inRivals, alsoListed, rfl⟩, differ⟩

/-- The ports that are found to be shared are those in conflict. -/
theorem mem_sharedMembers (pools : List SwitchingPool) (name : String)
    : name ∈ (sharedMembers pools).map Prod.fst ↔ Declared.Conflicting pools name := by
  rw [← one_lt_memberships]
  constructor
  · intro member
    obtain ⟨shared, held, rfl⟩ := List.mem_map.mp member
    obtain ⟨inMap, several⟩ := List.mem_filter.mp held
    obtain ⟨pair, _, rfl⟩ := List.mem_map.mp inMap
    simpa using several
  · intro several
    obtain ⟨pool, inPools, group, inGroups, _, _, _, _, listed, _⟩ :=
      (one_lt_memberships pools name).mp several
    have listedSomewhere : name ∈ pools.flatMap SwitchingPool.members :=
      List.mem_flatMap.mpr ⟨pool, inPools, List.mem_flatMap.mpr ⟨group, inGroups, listed⟩⟩
    have key
        : name ∈ Keyed.keys
            (Keyed.ofList ((pools.flatMap SwitchingPool.members).map fun n => (n, ()))) := by
      rw [Keyed.mem_keys_ofList]
      simpa [Keyed.keys] using listedSomewhere
    obtain ⟨pair, held, rfl⟩ := List.mem_map.mp key
    refine List.mem_map.mpr ⟨(pair.1, memberships pools pair.1), ?_, rfl⟩
    refine List.mem_filter.mpr ⟨List.mem_map.mpr ⟨pair, held, rfl⟩, ?_⟩
    simpa using several

/-- The members of a group that its network port is linked to are those in no conflict. -/
theorem filter_unshared (pools : List SwitchingPool) (network : String) (members : List String)
    : (members.filter fun n => n ≠ network && !((sharedMembers pools).map Prod.fst).contains n)
      = members.filter fun n => n ≠ network ∧ ¬ Declared.Conflicting pools n := by
  refine List.filter_congr ?_
  intro n _
  have agrees
      : ((sharedMembers pools).map Prod.fst).contains n
        = decide (Declared.Conflicting pools n) := by
    rw [List.contains_eq_mem]
    exact decide_eq_decide.mpr (mem_sharedMembers pools n)
  rw [agrees]
  simp

-----------------------------------------------------------------------------------------
-- The passes
-----------------------------------------------------------------------------------------

/-- A record is seeded at each name that has a row calling for one, from the first such row. -/
theorem get?_seeds (ports : List Port) (name : String)
    : (seeds ports).get? name = (Declared.row? ports name).bind seed? := by
  rw [seeds, (Topology.insert_all _).2, List.find?_filterMap, Declared.row?]
  congr 2
  funext p
  rw [seed?]
  cases p.role? with
  | none => simp
  | some role =>
      cases role <;> simp [PortRecord.name, PortRecord.port, NetworkRecord.ofPort] <;> rfl

/-- The network ports are those whose first seeding row is one. -/
theorem isNetwork_seeds (ports : List Port)
    : (seeds ports).isNetwork = Declared.isNetwork ports := by
  funext name
  rw [Topology.isNetwork, Topology.network?, get?_seeds, Declared.isNetwork]
  cases Declared.row? ports name with
  | none => rfl
  | some p =>
      simp only [Option.bind_some, seed?, Option.any_some]
      cases p.role? with
      | none => simp
      | some role => cases role <;> simp [PortRecord.network?]

/-- Linking by cross-reference links each client to the port that it names. -/
theorem relinks_linkDirect (t : Topology) (p : Port)
    : Topology.Relinks t (linkDirect t p) fun name r =>
        if p.role? = some .client ∧ p.connectionMap = some name then r.link p else r := by
  have keeps : ∀ r : NetworkRecord, (r.link p).port = r.port := by
    intro r
    rw [NetworkRecord.link]
    split <;> rfl
  rw [linkDirect]
  split
  · rename_i client
    cases names : p.connectionMap with
    | none => exact (Topology.Relinks.refl t).congr (by simp)
    | some target =>
        refine (Topology.Relinks.updateNetwork keeps t target).congr ?_
        intro name r
        simp [client, eq_comm]
  · rename_i other
    exact (Topology.Relinks.refl t).congr (by simp [other])

/-- All clients that name a port are linked to it in the order of the table. -/
theorem relinks_direct (ports : List Port) (t : Topology)
    : Topology.Relinks t (ports.foldl linkDirect t) fun name r =>
        (Declared.directClients ports name).foldl NetworkRecord.link r := by
  have pass := Topology.Relinks.foldl (fun t p _ => relinks_linkDirect t p) ports t rfl
  refine pass.congr ?_
  intro name r
  rw [Declared.directClients, List.foldl_filter]
  simp

theorem port_linkGroup (group : PoolGroup) (clients : List Port) (r : NetworkRecord)
    : (linkGroup group clients r).port = r.port := by
  have linked : (clients.foldl NetworkRecord.link r).port = r.port := by
    induction clients generalizing r with
    | nil => rfl
    | cons c rest ih =>
        rw [List.foldl_cons, ih, NetworkRecord.link]
        split <;> rfl
  rw [linkGroup]
  cases group.bandwidthUnit <;> exact linked

section Pools

variable (ports : List Port) (pools : List SwitchingPool)

/-- The change that one group makes at a name. -/
def groupChange (group : PoolGroup) (name : String) (r : NetworkRecord)
    : NetworkRecord :=
  if group.ports.filter (Declared.isNetwork ports) = [name] ∧ ¬ Declared.Conflicting pools name then
    linkGroup group (Declared.groupClients ports pools name group) r
  else r

/-- Resolving a group changes its network port as declared, and no other port. -/
theorem relinks_resolveGroup (pool : Nat) (group : PoolGroup) (r : Reconstruction)
    (seeded : r.topology.isNetwork = Declared.isNetwork ports)
    : Topology.Relinks r.topology
        (resolveGroup ports ((sharedMembers pools).map Prod.fst) pool group r).topology
        (groupChange ports pools group) := by
  rw [resolveGroup, seeded]
  split
  · rename_i network only
    by_cases shared : network ∈ (sharedMembers pools).map Prod.fst
    · have conflict := (mem_sharedMembers pools network).mp shared
      simp only [shared, if_true]
      refine (Topology.Relinks.refl _).congr ?_
      intro name record
      rw [groupChange, only]
      refine (if_neg ?_).symm
      rintro ⟨same, free⟩
      cases same
      exact free conflict
    · have free : ¬ Declared.Conflicting pools network :=
        fun conflict => shared ((mem_sharedMembers pools network).mpr conflict)
      simp only [shared, if_false]
      refine (Topology.Relinks.updateNetwork (port_linkGroup group _) _ _).congr ?_
      intro name record
      rw [groupChange, only]
      by_cases same : name = network
      · subst same
        rw [filter_unshared, if_pos rfl, if_pos ⟨rfl, free⟩]
        rfl
      · have others : ¬ ([network] = [name] ∧ ¬ Declared.Conflicting pools name) := by
          rintro ⟨single, _⟩
          cases single
          exact same rfl
        rw [if_neg same, if_neg others]
  · rename_i notSingle
    refine (Topology.Relinks.refl _).congr ?_
    intro name record
    rw [groupChange]
    refine (if_neg ?_).symm
    rintro ⟨single, _⟩
    exact notSingle name single

theorem poolDefect?_eq_none (pool : SwitchingPool)
    : poolDefect? pool = none ↔ Declared.Counts pool := by
  rw [poolDefect?, Declared.Counts]
  cases pool.kind? with
  | none => simp
  | some kind => cases kind <;> simp

/-- Resolving a pool makes the changes of its groups in turn, if it counts at all. -/
theorem relinks_resolvePool (r : Reconstruction) (pool : SwitchingPool)
    (seeded : r.topology.isNetwork = Declared.isNetwork ports)
    : Topology.Relinks r.topology
        (resolvePool ports ((sharedMembers pools).map Prod.fst) r pool).topology
        fun name record =>
          if Declared.Counts pool then
            pool.groups.foldl (fun record g => groupChange ports pools g name record) record
          else record := by
  rw [resolvePool]
  cases defect : poolDefect? pool with
  | none =>
      have counts := (poolDefect?_eq_none pool).mp defect
      simp only [counts, if_true]
      exact Topology.Relinks.foldl
        (fun r g known => relinks_resolveGroup ports pools pool.number g r known) _ r seeded
  | some found =>
      have rejected : ¬ Declared.Counts pool := by
        rw [← poolDefect?_eq_none, defect]
        exact Option.some_ne_none found
      exact (Topology.Relinks.refl _).congr (by simp [rejected])

/-- Resolving all pools links to each network port the clients of its groups, in their order. -/
theorem relinks_pools (r : Reconstruction)
    (seeded : r.topology.isNetwork = Declared.isNetwork ports)
    : Topology.Relinks r.topology
        (pools.foldl (resolvePool ports ((sharedMembers pools).map Prod.fst)) r).topology
        fun name record =>
          (Declared.groupsOf ports pools name).foldl
            (fun record g => linkGroup g (Declared.groupClients ports pools name g) record)
            record := by
  have pass :=
    Topology.Relinks.foldl
      (fun r pool known => relinks_resolvePool ports pools r pool known) pools r seeded
  refine pass.congr ?_
  intro name record
  rw [Declared.groupsOf, List.foldl_flatMap, List.foldl_filter]
  congr 1
  funext record pool
  simp only [decide_eq_true_eq, List.foldl_filter, groupChange]

end Pools

-----------------------------------------------------------------------------------------
-- The records that come out
-----------------------------------------------------------------------------------------

/-- Linking groups in turn keeps the first client of each name and the last bandwidth unit. -/
theorem foldl_linkGroup (clients : PoolGroup → List Port) (groups : List PoolGroup)
    {r : NetworkRecord} {linked : List Port} (sofar : r.clients = firstPerName linked)
    : groups.foldl (fun r g => linkGroup g (clients g) r) r
      = { r with
          clients := firstPerName (linked ++ groups.flatMap clients)
          bandwidthUnit :=
            ((groups.filterMap PoolGroup.bandwidthUnit).getLast?).or r.bandwidthUnit } := by
  induction groups generalizing r linked with
  | nil => simp [← sofar]
  | cons g rest ih =>
      have linkedNow := foldl_link (clients g) sofar
      have step
          : linkGroup g (clients g) r
            = { r with
                clients := firstPerName (linked ++ clients g)
                bandwidthUnit := g.bandwidthUnit.or r.bandwidthUnit } := by
        rw [linkGroup, linkedNow]
        cases g.bandwidthUnit <;> rfl
      rw [List.foldl_cons, step, ih rfl]
      cases unit : g.bandwidthUnit with
      | none => simp [unit]
      | some u => simp [unit, List.getLast?_cons]

theorem row?_eq_some {ports : List Port} {name : String} {p : Port}
    (found : Declared.row? ports name = some p)
    : p ∈ ports ∧ p.name = name ∧ (p.role? = some .network ∨ p.role? = some .degree) := by
  have chosen := List.find?_some found
  simp only [Bool.and_eq_true, Bool.or_eq_true, decide_eq_true_eq] at chosen
  exact ⟨List.mem_of_find?_eq_some found, chosen.1, chosen.2⟩

/-- The network records that a rebuilt topology is made from carry the clients of all passes. -/
theorem linked_record (ports : List Port) (pools : List SwitchingPool) (p : Port)
    : (Declared.groupsOf ports pools p.name).foldl
        (fun record g => linkGroup g (Declared.groupClients ports pools p.name g) record)
        ((Declared.directClients ports p.name).foldl NetworkRecord.link (.ofPort p))
      = { port := p
          kind := p.xponderKind
          clients := Declared.clients ports pools p.name
          bandwidthUnit := Declared.bandwidthUnit ports pools p.name } := by
  have direct := @foldl_link (.ofPort p) [] (Declared.directClients ports p.name) rfl
  rw [direct, List.nil_append, foldl_linkGroup _ _ rfl, Declared.clients, ← firstPerName_eq]
  simp [Declared.bandwidthUnit, NetworkRecord.ofPort]

/-- A rebuilt topology is in order, and at each name it has the declared record. -/
theorem ofPorts_topology (ports : List Port) (pools : List SwitchingPool)
    : Topology.Ascending (ofPorts ports pools).topology.records
      ∧ ∀ name,
          (ofPorts ports pools).topology.get? name
            = (Declared.row? ports name).map (Declared.record ports pools) := by
  have direct := relinks_direct ports (seeds ports)
  have seeded := direct.isNetwork.trans (isNetwork_seeds ports)
  have pooled :=
    relinks_pools ports pools
      { topology := ports.foldl linkDirect (seeds ports)
        defects :=
          duplicateRows [] ports ++ (sharedMembers pools).map fun m => .sharedMember m.1 m.2 }
      seeded
  have passes := direct.trans pooled
  have keeps : ∀ r : DegreeRecord, { r with riskGroups := riskGroupPorts ports }.port = r.port :=
    fun _ => rfl
  refine ⟨Topology.Ascending.updateDegrees keeps (passes.ascending ?_), ?_⟩
  · exact (Topology.insert_all _).1
  · intro name
    refine (Topology.get?_updateDegrees keeps _ name).trans ?_
    rw [passes.found, get?_seeds]
    cases found : Declared.row? ports name with
    | none => rfl
    | some p =>
        obtain ⟨-, rfl, network | degree⟩ := row?_eq_some found
        · simp [seed?, network, PortRecord.mapNetwork, PortRecord.mapDegree, linked_record,
            Declared.record]
        · simp [seed?, degree, PortRecord.mapNetwork, PortRecord.mapDegree, riskGroupPorts,
            firstPerName_eq, Declared.riskGroups, Declared.record]

/-- A network record of a rebuilt topology is a row of the table with what is declared for it.
-/
theorem network_declared {ports : List Port} {pools : List SwitchingPool} {r : NetworkRecord}
    (member : r ∈ (ofPorts ports pools).topology.networks)
    : r.port ∈ ports
      ∧ r.port.role? = some .network
      ∧ r.kind = r.port.xponderKind
      ∧ r.clients = Declared.clients ports pools r.port.name
      ∧ r.bandwidthUnit = Declared.bandwidthUnit ports pools r.port.name := by
  obtain ⟨ascending, found⟩ := ofPorts_topology ports pools
  have record := Topology.get?_of_mem_networks ascending member
  rw [found, Option.map_eq_some_iff] at record
  obtain ⟨p, declared, same⟩ := record
  obtain ⟨inTable, -, -⟩ := row?_eq_some declared
  rw [Declared.record] at same
  split at same
  · rename_i network
    cases same
    exact ⟨inTable, network, rfl, rfl, rfl⟩
  · cases same

/-- A degree of a rebuilt topology is a row of the table, with the risk groups of the table. -/
theorem degree_declared {ports : List Port} {pools : List SwitchingPool} {r : DegreeRecord}
    (member : r ∈ (ofPorts ports pools).topology.degrees)
    : r.port ∈ ports
      ∧ r.port.role? = some .degree
      ∧ r.riskGroups = Declared.riskGroups ports := by
  obtain ⟨ascending, found⟩ := ofPorts_topology ports pools
  have record := Topology.get?_of_mem_degrees ascending member
  rw [found, Option.map_eq_some_iff] at record
  obtain ⟨p, declared, same⟩ := record
  obtain ⟨inTable, -, role⟩ := row?_eq_some declared
  rw [Declared.record] at same
  split at same
  · cases same
  · rename_i notNetwork
    cases same
    exact ⟨inTable, role.resolve_left notNetwork, rfl⟩

/-- A rebuilt topology holds exactly the declared linkage. Its names stand in ascending order
and are those of rows that are network ports or degrees, with the first such row as the port
of the record. A network port has the declared clients and bandwidth unit, and every degree
has the risk groups of the table.
-/
theorem ofPorts_holds_declared_linkage (ports : List Port) (pools : List SwitchingPool)
    : let t := (ofPorts ports pools).topology
      t.names.Pairwise (· < ·)
      ∧ (∀ name,
          name ∈ t.names
          ↔ ∃ p ∈ ports, p.name = name ∧ (p.role? = some .network ∨ p.role? = some .degree))
      ∧ (∀ r ∈ t.records, Declared.row? ports r.name = some r.port)
      ∧ (∀ r ∈ t.networks,
          r.port.role? = some .network
          ∧ r.kind = r.port.xponderKind
          ∧ r.clients = Declared.clients ports pools r.port.name
          ∧ r.bandwidthUnit = Declared.bandwidthUnit ports pools r.port.name)
      ∧ (∀ r ∈ t.degrees,
          r.port.role? = some .degree ∧ r.riskGroups = Declared.riskGroups ports) := by
  intro t
  obtain ⟨ascending, found⟩ := ofPorts_topology ports pools
  refine ⟨List.pairwise_map.mpr ascending, ?names, ?rows, ?networks, ?degrees⟩
  case names =>
    intro name
    rw [Topology.mem_names_iff, found, Option.isSome_map, Declared.row?, List.find?_isSome]
    simp
  case rows =>
    intro r member
    have record := Topology.get?_of_mem ascending member
    rw [found, Option.map_eq_some_iff] at record
    obtain ⟨p, declared, rfl⟩ := record
    rw [declared, Declared.record]
    split <;> rfl
  case networks => exact fun r member => (network_declared member).2
  case degrees => exact fun r member => (degree_declared member).2

end Reconstruction

end Lightpath
