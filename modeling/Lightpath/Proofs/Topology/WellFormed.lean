import Lightpath.Proofs.Topology.Clean
import Lightpath.Proofs.Topology.SharedMembers
import Mathlib.Data.List.Nodup

/-!
Well-formed tables, said about rows and pools alone. Some passes are silent about what another pass
reports: a rejected pool hides its groups, a network port in conflict hides the other members of
its group. Together they still report something of every table that is not well formed.
-/

namespace Lightpath

namespace Declared

/-- A row that is a network port bears the name. -/
def HasNetworkRow (ports : List Port) (name : String)
    : Prop :=
  ∃ p ∈ ports, p.name = name ∧ p.role? = some .network

instance (ports : List Port) (name : String)
    : Decidable (HasNetworkRow ports name) := by
  unfold HasNetworkRow
  infer_instance

/-- The row of a client points at the name. -/
def IsMapped (ports : List Port) (name : String)
    : Prop :=
  ∃ p ∈ ports, p.role? = some .client ∧ p.connectionMap = some name

/-- A group lists the name beside another one. -/
def IsGrouped (pools : List SwitchingPool) (name : String)
    : Prop :=
  ∃ pool ∈ pools, ∃ group ∈ pool.groups, name ∈ group.ports ∧ ∃ n ∈ group.ports, n ≠ name

/-- What the rows and pools of a table have to satisfy. -/
structure WellFormed (ports : List Port) (pools : List SwitchingPool)
    : Prop where
  /-- All rows have different names. -/
  distinct : (ports.map Port.name).Nodup
  /-- The kind of each pool is known. -/
  kinds : ∀ pool ∈ pools, ∃ kind, pool.kind? = some kind
  /-- A non-blocking pool has one group. -/
  single : ∀ pool ∈ pools, pool.kind? = some .nonBlocking → pool.groups.length = 1
  /-- No two groups list the same port. -/
  unshared : ∀ name, ¬ SeveralList pools name
  /-- Each group lists a network port once, and no other one. -/
  network
    : ∀ pool ∈ pools, ∀ group ∈ pool.groups,
        group.ports.countP (fun n => HasNetworkRow ports n) = 1
  /-- Groups list rows of the table only. -/
  known
    : ∀ pool ∈ pools, ∀ group ∈ pool.groups, ∀ name ∈ group.ports,
        ∃ p ∈ ports, p.name = name
  /-- Each network port is the target of a client or shares a group with another port. -/
  linked
    : ∀ p ∈ ports, p.role? = some .network → IsMapped ports p.name ∨ IsGrouped pools p.name
  /-- A degree needs a shared-risk-group port. -/
  drops
    : ∀ p ∈ ports, p.role? = some .degree → ∃ g ∈ ports, g.role? = some .riskGroup

-----------------------------------------------------------------------------------------
-- Rows with different names
-----------------------------------------------------------------------------------------

section Distinct

variable {ports : List Port} (distinct : (ports.map Port.name).Nodup)
include distinct

theorem eq_of_name {p q : Port} (row : p ∈ ports) (other : q ∈ ports) (same : p.name = q.name)
    : p = q :=
  List.inj_on_of_nodup_map distinct row other same

/-- Under distinct names a network port or a degree declares its own record. -/
theorem row?_of_mem {p : Port} (row : p ∈ ports)
    (role : p.role? = some .network ∨ p.role? = some .degree)
    : row? ports p.name = some p := by
  cases found : row? ports p.name with
  | none =>
      have absent := List.find?_eq_none.mp found p row
      rcases role with network | degree
      · simp [network] at absent
      · simp [degree] at absent
  | some q =>
      obtain ⟨also, named, -⟩ := Reconstruction.row?_eq_some found
      rw [eq_of_name distinct also row named]

theorem isNetwork_eq
    : isNetwork ports = fun name => decide (HasNetworkRow ports name) := by
  funext name
  rw [Bool.eq_iff_iff, decide_eq_true_eq, isNetwork, Option.any_eq_true]
  constructor
  · intro declared
    obtain ⟨p, found, network⟩ := declared
    obtain ⟨row, named, -⟩ := Reconstruction.row?_eq_some found
    exact ⟨p, row, named, by simpa using network⟩
  · intro listed
    obtain ⟨p, row, rfl, network⟩ := listed
    exact ⟨p, row?_of_mem distinct row (Or.inl network), by simpa using network⟩

end Distinct

-----------------------------------------------------------------------------------------
-- Linked network ports
-----------------------------------------------------------------------------------------

theorem firstRows_eq_nil_iff (rows : List Port)
    : firstRows rows = [] ↔ rows = [] := by
  cases rows <;> simp [firstRows]

theorem directClients_ne_nil_iff (ports : List Port) (network : String)
    : directClients ports network ≠ [] ↔ IsMapped ports network := by
  rw [directClients, Ne, List.filter_eq_nil_iff, IsMapped]
  simp

/-- Where the pools are in order, a network port has clients exactly if one points at it or another
port stands in a group with it.
-/
theorem clients_ne_nil_iff {ports : List Port} {pools : List SwitchingPool} {network : String}
    (counts : ∀ pool ∈ pools, Counts pool)
    (peaceful : ∀ name, ¬ Conflicting pools name)
    (resolved
      : ∀ pool ∈ pools, ∀ group ∈ pool.groups,
          network ∈ group.ports → group.ports.filter (isNetwork ports) = [network])
    (known
      : ∀ pool ∈ pools, ∀ group ∈ pool.groups, ∀ n ∈ group.ports,
          (Reconstruction.row? ports n).isSome)
    : clients ports pools network ≠ [] ↔ IsMapped ports network ∨ IsGrouped pools network := by
  rw [clients, Ne, firstRows_eq_nil_iff, List.append_eq_nil_iff, not_and_or]
  apply or_congr (directClients_ne_nil_iff ports network)
  simp only [List.flatMap_eq_nil_iff, not_forall]
  constructor
  · intro someGroup
    obtain ⟨group, declared, linked⟩ := someGroup
    obtain ⟨⟨pool, inPools, -, inGroups⟩, only, -⟩ := mem_groupsOf.mp declared
    obtain ⟨client, member⟩ := List.exists_mem_of_ne_nil _ linked
    obtain ⟨n, other, -⟩ := List.mem_filterMap.mp member
    obtain ⟨inGroup, apart⟩ := List.mem_filter.mp other
    have inList : network ∈ group.ports.filter (isNetwork ports) := by simp [only]
    exact ⟨pool, inPools, group, inGroups, (List.mem_filter.mp inList).1, n, inGroup,
      (of_decide_eq_true apart).1⟩
  · intro grouped
    obtain ⟨pool, inPools, group, inGroups, listed, n, also, other⟩ := grouped
    have declared : group ∈ groupsOf ports pools network :=
      mem_groupsOf.mpr ⟨⟨pool, inPools, counts pool inPools, inGroups⟩,
        resolved pool inPools group inGroups listed, peaceful network⟩
    refine ⟨group, declared, ?_⟩
    obtain ⟨client, found⟩ := Option.isSome_iff_exists.mp (known pool inPools group inGroups n also)
    have left : n ∈ group.ports.filter fun n => n ≠ network ∧ ¬ Conflicting pools n :=
      List.mem_filter.mpr ⟨also, decide_eq_true ⟨other, peaceful n⟩⟩
    exact List.ne_nil_of_mem (List.mem_filterMap.mpr ⟨n, left, found⟩)

end Declared

namespace Reconstruction

-----------------------------------------------------------------------------------------
-- Silent passes
-----------------------------------------------------------------------------------------

theorem isSome_row?_iff (ports : List Port) (name : String)
    : (row? ports name).isSome ↔ ∃ p ∈ ports, p.name = name := by
  rw [row?, List.find?_isSome]
  simp

/-- No member is reported as shared exactly if no port is in conflict. -/
theorem sharedMembers_eq_nil_iff (pools : List SwitchingPool)
    : sharedMembers pools = [] ↔ ∀ name, ¬ Declared.Conflicting pools name := by
  simp only [← mem_sharedMembers]
  rw [← List.eq_nil_iff_forall_not_mem, List.map_eq_nil_iff]

section Pools

variable {ports : List Port} {pools : List SwitchingPool}

/-- Without conflicts, a group is silent exactly if it lists one network port and only rows. -/
theorem groupDefects_eq_nil_iff (peaceful : ∀ name, ¬ Declared.Conflicting pools name)
    (pool : Nat) (group : PoolGroup)
    : Declared.groupDefects ports pools pool group = []
      ↔ group.ports.countP (Declared.isNetwork ports) = 1
        ∧ ∀ name ∈ group.ports, (row? ports name).isSome := by
  rw [Declared.groupDefects, List.countP_eq_length_filter]
  split
  · rename_i network only
    simp only [only, peaceful, if_false, List.map_eq_nil_iff, List.filter_eq_nil_iff,
      List.mem_filter, List.length_singleton, true_and, not_false_eq_true, and_true,
      decide_eq_true_eq, Option.isNone_iff_eq_none, ← Option.isSome_iff_ne_none]
    constructor
    · intro others name listed
      by_cases here : name = network
      · -- the network port is not searched for, its record comes from a row
        have isNetwork : name ∈ group.ports.filter (Declared.isNetwork ports) := by
          simp [only, here]
        obtain ⟨p, found, -⟩ := (Option.any_eq_true _ _).mp (List.mem_filter.mp isNetwork).2
        obtain ⟨row, named, -⟩ := row?_eq_some found
        exact (isSome_row?_iff ports name).mpr ⟨p, row, named⟩
      · exact others name ⟨listed, here⟩
    · exact fun all name other => all name other.1
  · rename_i several
    apply iff_of_false (List.cons_ne_nil _ _)
    intro silent
    obtain ⟨network, only⟩ := List.length_eq_one_iff.mp silent.1
    exact several network only

theorem poolDefects_eq_nil_iff (peaceful : ∀ name, ¬ Declared.Conflicting pools name)
    (pool : SwitchingPool)
    : Declared.poolDefects ports pools pool = []
      ↔ Declared.Counts pool
        ∧ ∀ group ∈ pool.groups,
            group.ports.countP (Declared.isNetwork ports) = 1
            ∧ ∀ name ∈ group.ports, (row? ports name).isSome := by
  rw [← poolDefect?_eq_none, Declared.poolDefects]
  cases poolDefect? pool with
  | some defect => simp
  | none => simp [List.flatMap_eq_nil_iff, groupDefects_eq_nil_iff peaceful]

end Pools

-----------------------------------------------------------------------------------------
-- Clean tables are the well-formed ones
-----------------------------------------------------------------------------------------

/-- The passes over a table are silent exactly if the names of its rows are different, no port is in
conflict, and each pool counts and has groups of one network port and of rows only.
-/
theorem defects_eq_nil_iff (ports : List Port) (pools : List SwitchingPool)
    : (ofPorts ports pools).defects = []
      ↔ (ports.map Port.name).Nodup
        ∧ (∀ name, ¬ Declared.Conflicting pools name)
        ∧ ∀ pool ∈ pools,
            Declared.Counts pool
            ∧ ∀ group ∈ pool.groups,
                group.ports.countP (Declared.isNetwork ports) = 1
                ∧ ∀ name ∈ group.ports, (row? ports name).isSome := by
  rw [ofPorts_defects, List.append_eq_nil_iff, List.append_eq_nil_iff, List.map_eq_nil_iff,
    sharedMembers_eq_nil_iff, duplicateRows_eq_nil_iff, List.flatMap_eq_nil_iff, and_assoc]
  refine and_congr (by simp) (and_congr_right ?_)
  intro peaceful
  simp only [poolDefects_eq_nil_iff peaceful]

/-- Where names are different, no port lacks a partner exactly if each row of a network port has
declared clients and each row of a degree has declared risk groups.
-/
theorem linkageDefects_ofPorts_eq_nil_iff {ports : List Port} (pools : List SwitchingPool)
    (distinct : (ports.map Port.name).Nodup)
    : (ofPorts ports pools).topology.linkageDefects = []
      ↔ (∀ p ∈ ports, p.role? = some .network → Declared.clients ports pools p.name ≠ [])
        ∧ ∀ p ∈ ports, p.role? = some .degree → Declared.riskGroups ports ≠ [] := by
  rw [linkageDefects_eq_nil_iff]
  obtain ⟨-, found⟩ := ofPorts_topology ports pools
  have held
      : ∀ p ∈ ports, p.role? = some .network ∨ p.role? = some .degree →
          Declared.record ports pools p ∈ (ofPorts ports pools).topology.records := by
    intro p row role
    have record := found p.name
    rw [Declared.row?_of_mem distinct row role] at record
    exact List.mem_of_find?_eq_some record
  refine and_congr ⟨?networks, ?rows⟩ ⟨?degrees, ?degreeRows⟩
  case networks =>
    intro linked p row network
    have record := held p row (Or.inl network)
    rw [Declared.record, if_pos network] at record
    exact linked _ (List.mem_filterMap.mpr ⟨_, record, rfl⟩)
  case rows =>
    intro linked r member
    obtain ⟨row, network, -, clients, -⟩ := network_declared member
    rw [clients]
    exact linked r.port row network
  case degrees =>
    intro linked p row degree
    have record := held p row (Or.inr degree)
    rw [Declared.record, if_neg (by simp [degree])] at record
    exact linked _ (List.mem_filterMap.mpr ⟨_, record, rfl⟩)
  case degreeRows =>
    intro linked r member
    obtain ⟨row, degree, groups⟩ := degree_declared member
    rw [groups]
    exact linked r.port row degree

theorem riskGroups_ne_nil_iff (ports : List Port)
    : Declared.riskGroups ports ≠ [] ↔ ∃ g ∈ ports, g.role? = some .riskGroup := by
  rw [Declared.riskGroups, Ne, Declared.firstRows_eq_nil_iff, List.filter_eq_nil_iff]
  simp

theorem counts_iff (pool : SwitchingPool)
    : Declared.Counts pool
      ↔ (∃ kind, pool.kind? = some kind)
        ∧ (pool.kind? = some .nonBlocking → pool.groups.length = 1) := by
  rw [Declared.Counts]
  cases pool.kind? with
  | none => simp
  | some kind => cases kind <;> simp

/-- A table that the passes are silent about has a partner for every port exactly if each network
port is mapped or grouped and, given a degree, there is a shared-risk-group port.
-/
theorem linkageDefects_eq_nil_iff_partners {ports : List Port} {pools : List SwitchingPool}
    (silent : (ofPorts ports pools).defects = [])
    : (ofPorts ports pools).topology.linkageDefects = []
      ↔ (∀ p ∈ ports, p.role? = some .network →
            Declared.IsMapped ports p.name ∨ Declared.IsGrouped pools p.name)
        ∧ ∀ p ∈ ports, p.role? = some .degree → ∃ g ∈ ports, g.role? = some .riskGroup := by
  obtain ⟨distinct, peaceful, pooled⟩ := (defects_eq_nil_iff ports pools).mp silent
  have resolved
      : ∀ p ∈ ports, p.role? = some .network → ∀ pool ∈ pools, ∀ group ∈ pool.groups,
          p.name ∈ group.ports → group.ports.filter (Declared.isNetwork ports) = [p.name] := by
    intro p row network pool inPools group inGroups listed
    have one := ((pooled pool inPools).2 group inGroups).1
    rw [List.countP_eq_length_filter] at one
    obtain ⟨only, single⟩ := List.length_eq_one_iff.mp one
    have isNetwork : Declared.isNetwork ports p.name = true := by
      rw [Declared.isNetwork_eq distinct]
      exact decide_eq_true ⟨p, row, rfl, network⟩
    have inList := List.mem_filter.mpr ⟨listed, isNetwork⟩
    rw [single, List.mem_singleton] at inList
    rw [single, inList]
  rw [linkageDefects_ofPorts_eq_nil_iff pools distinct]
  simp only [riskGroups_ne_nil_iff]
  refine and_congr_left fun _ => forall₃_congr fun p row network => ?_
  exact Declared.clients_ne_nil_iff (fun pool inPools => (pooled pool inPools).1) peaceful
    (resolved p row network)
    (fun pool inPools group inGroups => ((pooled pool inPools).2 group inGroups).2)

/-- A table whose groups have different numbers is clean exactly if it is well formed. -/
theorem isClean_iff_wellFormed (ports : List Port) (pools : List SwitchingPool)
    (numbers : Declared.DistinctNumbers pools)
    : (ofPorts ports pools).isClean = true ↔ Declared.WellFormed ports pools := by
  rw [isClean_iff]
  constructor
  · intro clean
    obtain ⟨silent, partnered⟩ := clean
    obtain ⟨distinct, peaceful, pooled⟩ := (defects_eq_nil_iff ports pools).mp silent
    obtain ⟨linked, drops⟩ := (linkageDefects_eq_nil_iff_partners silent).mp partnered
    exact {
      distinct := distinct
      kinds := fun pool inPools => ((counts_iff pool).mp (pooled pool inPools).1).1
      single := fun pool inPools => ((counts_iff pool).mp (pooled pool inPools).1).2
      unshared := fun name several =>
        peaceful name (Declared.conflicting_of_severalList numbers several)
      network := by
        intro pool inPools group inGroups
        have one := ((pooled pool inPools).2 group inGroups).1
        rwa [Declared.isNetwork_eq distinct] at one
      known := fun pool inPools group inGroups name listed =>
        (isSome_row?_iff ports name).mp (((pooled pool inPools).2 group inGroups).2 name listed)
      linked := linked
      drops := drops
    }
  · intro formed
    have silent : (ofPorts ports pools).defects = [] := by
      apply (defects_eq_nil_iff ports pools).mpr
      refine ⟨formed.distinct, ?_, ?_⟩
      · exact fun name conflict =>
          formed.unshared name (Declared.severalList_of_conflicting conflict)
      · intro pool inPools
        refine ⟨(counts_iff pool).mpr ⟨formed.kinds pool inPools, formed.single pool inPools⟩, ?_⟩
        intro group inGroups
        rw [Declared.isNetwork_eq formed.distinct]
        exact ⟨formed.network pool inPools group inGroups, fun name listed =>
          (isSome_row?_iff ports name).mpr (formed.known pool inPools group inGroups name listed)⟩
    exact ⟨silent, (linkageDefects_eq_nil_iff_partners silent).mpr ⟨formed.linked, formed.drops⟩⟩

/-- A switch whose network port gets its client from a pool, and a degree with something to drop. -/
def pooledPorts
    : List Port :=
  [{ name := "XPDR1-NETWORK1" }, { name := "XPDR1-CLIENT1" }, { name := "DEG1-TTP-TXRX" },
    { name := "SRG1-PP1-TXRX" }]

def soleGroup
    : SwitchingPool :=
  { number := 1
    kindText := "non-blocking"
    groups := [{ number := 1, ports := ["XPDR1-NETWORK1", "XPDR1-CLIENT1"] }] }

/-- The table is well formed since it is clean; its group serves as the only partner. -/
theorem isClean_iff_wellFormed_pooled
    : Declared.DistinctNumbers [soleGroup]
      ∧ (ofPorts pooledPorts [soleGroup]).isClean = true
      ∧ Declared.WellFormed pooledPorts [soleGroup] := by
  have numbers : Declared.DistinctNumbers [soleGroup] := by
    unfold Declared.DistinctNumbers
    decide
  have clean : (ofPorts pooledPorts [soleGroup]).isClean = true := by decide
  exact ⟨numbers, clean, (isClean_iff_wellFormed _ _ numbers).mp clean⟩

end Reconstruction

end Lightpath
