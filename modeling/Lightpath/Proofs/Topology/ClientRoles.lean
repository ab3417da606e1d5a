import Lightpath.Proofs.Topology.WellFormed

/-!
Which rows end up as clients. A row that points at a network port is linked only if it is a client,
but a group links whatever it lists beside its network port, and no defect tells the role of a
member.
-/

namespace Lightpath

namespace Declared

/-- A group links the port of a name to a network port: it resolves to the network port and lists
the name beside it, which is in no conflict.
-/
def LinkedByGroup (ports : List Port) (pools : List SwitchingPool) (network name : String)
    : Prop :=
  ∃ group ∈ groupsOf ports pools network,
    name ∈ group.ports ∧ name ≠ network ∧ ¬ Conflicting pools name

-----------------------------------------------------------------------------------------
-- The clients of a network port
-----------------------------------------------------------------------------------------

section Distinct

variable {ports : List Port} (distinct : (ports.map Port.name).Nodup)
include distinct

/-- Under distinct names a row is the one that is found under its name. -/
theorem row?_eq_some_iff {name : String} {p : Port}
    : Reconstruction.row? ports name = some p ↔ p ∈ ports ∧ p.name = name := by
  constructor
  · intro found
    exact ⟨List.mem_of_find?_eq_some found, by simpa using List.find?_some found⟩
  · intro listed
    obtain ⟨row, named⟩ := listed
    rw [← firstRows_eq_self distinct] at row
    exact named ▸ mem_firstRows.mp row

/-- Of rows of a table with distinct names none is left out as a later one. -/
theorem mem_firstRows_iff {rows : List Port} (inTable : ∀ p ∈ rows, p ∈ ports) {p : Port}
    : p ∈ firstRows rows ↔ p ∈ rows := by
  constructor
  · exact mem_of_mem_firstRows
  · intro member
    obtain ⟨first, found, named⟩ := exists_row? member
    have row := inTable first (List.mem_of_find?_eq_some found)
    rw [eq_of_name distinct row (inTable p member) named] at found
    exact mem_firstRows.mpr found

theorem mem_groupClients_iff {pools : List SwitchingPool} {network : String} {group : PoolGroup}
    {c : Port}
    : c ∈ groupClients ports pools network group
      ↔ c ∈ ports ∧ c.name ∈ group.ports ∧ c.name ≠ network ∧ ¬ Conflicting pools c.name := by
  rw [groupClients, List.mem_filterMap]
  constructor
  · intro linked
    obtain ⟨name, member, found⟩ := linked
    obtain ⟨row, rfl⟩ := (row?_eq_some_iff distinct).mp found
    obtain ⟨listed, free⟩ := List.mem_filter.mp member
    exact ⟨row, listed, of_decide_eq_true free⟩
  · intro linked
    obtain ⟨row, listed, free⟩ := linked
    exact ⟨c.name, List.mem_filter.mpr ⟨listed, decide_eq_true free⟩,
      (row?_eq_some_iff distinct).mpr ⟨row, rfl⟩⟩

/-- The clients of a network port are the client rows that point at it and the rows, whatever they
are, that a group links to it.
-/
theorem mem_clients_iff {pools : List SwitchingPool} {network : String} {c : Port}
    : c ∈ clients ports pools network
      ↔ c ∈ ports
        ∧ ((c.role? = some .client ∧ c.connectionMap = some network)
          ∨ LinkedByGroup ports pools network c.name) := by
  have direct
      : ∀ p, p ∈ directClients ports network
        ↔ p ∈ ports ∧ p.role? = some .client ∧ p.connectionMap = some network := by
    intro p
    rw [directClients, List.mem_filter, decide_eq_true_eq]
  have pooled
      : ∀ p, p ∈ (groupsOf ports pools network).flatMap (groupClients ports pools network)
        ↔ p ∈ ports ∧ LinkedByGroup ports pools network p.name := by
    intro p
    rw [List.mem_flatMap, LinkedByGroup]
    constructor
    · intro linked
      obtain ⟨group, resolves, member⟩ := linked
      obtain ⟨row, linked⟩ := (mem_groupClients_iff distinct).mp member
      exact ⟨row, group, resolves, linked⟩
    · intro declared
      obtain ⟨row, group, resolves, linked⟩ := declared
      exact ⟨group, resolves, (mem_groupClients_iff distinct).mpr ⟨row, linked⟩⟩
  rw [clients, mem_firstRows_iff distinct]
  · rw [List.mem_append, direct, pooled, ← and_or_left]
  · intro p member
    rcases List.mem_append.mp member with mapped | grouped
    · exact ((direct p).mp mapped).1
    · exact ((pooled p).mp grouped).1

/-- No network port is linked by a group, as the group would not resolve. -/
theorem not_network_of_linkedByGroup {pools : List SwitchingPool} {network : String} {c : Port}
    (row : c ∈ ports) (linked : LinkedByGroup ports pools network c.name)
    : c.role? ≠ some .network := by
  intro isNetwork
  obtain ⟨group, resolves, listed, other, -⟩ := linked
  obtain ⟨-, only, -⟩ := mem_groupsOf.mp resolves
  have inList : c.name ∈ group.ports.filter (Declared.isNetwork ports) := by
    refine List.mem_filter.mpr ⟨listed, ?_⟩
    rw [isNetwork_eq distinct]
    exact decide_eq_true ⟨c, row, rfl, isNetwork⟩
  rw [only] at inList
  exact other (List.mem_singleton.mp inList)

end Distinct

end Declared

namespace Reconstruction

-----------------------------------------------------------------------------------------
-- What defects depend on
-----------------------------------------------------------------------------------------

section Defects

variable {ports others : List Port} (names : others.map Port.name = ports.map Port.name)
include names

theorem duplicateRows_congr (seen : List String)
    : duplicateRows seen others = duplicateRows seen ports := by
  induction ports generalizing others seen with
  | nil =>
      obtain rfl := List.map_eq_nil_iff.mp names
      rfl
  | cons p rest ih =>
      cases others with
      | nil => cases names
      | cons q more =>
          obtain ⟨first, later⟩ := List.cons.inj names
          rw [duplicateRows, duplicateRows, first, ih later, ih later]

theorem isNone_row?_congr (name : String)
    : (row? others name).isNone = (row? ports name).isNone := by
  have listed : ∀ rows : List Port, (row? rows name).isSome ↔ name ∈ rows.map Port.name := by
    intro rows
    rw [isSome_row?_iff, List.mem_map]
  have same : (row? others name).isSome ↔ (row? ports name).isSome := by
    rw [listed, listed, names]
  rw [← Option.not_isSome, ← Option.not_isSome, Bool.eq_iff_iff.mpr same]

/-- The defects of a table depend on its rows only by their names and by which of these are network
ports.
-/
theorem defects_ofPorts_congr (networks : Declared.isNetwork others = Declared.isNetwork ports)
    (pools : List SwitchingPool)
    : (ofPorts others pools).defects = (ofPorts ports pools).defects := by
  have groups
      : Declared.groupDefects others pools = Declared.groupDefects ports pools := by
    funext pool group
    simp only [Declared.groupDefects, networks, isNone_row?_congr names]
  have each : Declared.poolDefects others pools = Declared.poolDefects ports pools := by
    funext pool
    simp only [Declared.poolDefects, groups]
  rw [ofPorts_defects, ofPorts_defects, duplicateRows_congr names, each]

end Defects

-----------------------------------------------------------------------------------------
-- Clients of every role
-----------------------------------------------------------------------------------------

/-- In a table with distinct names the clients of a network port are the client rows that point at
it and the rows that its groups list. None of them is a network port, and all are clients exactly if
the groups list no rows of another role; which of the other roles a row has makes no difference to
the defects.
-/
theorem ofPorts_links_group_members {ports : List Port} (pools : List SwitchingPool)
    (distinct : (ports.map Port.name).Nodup)
    : let result := ofPorts ports pools
      (∀ r ∈ result.topology.networks, ∀ c,
        c ∈ r.clients
        ↔ c ∈ ports
          ∧ ((c.role? = some .client ∧ c.connectionMap = some r.port.name)
            ∨ Declared.LinkedByGroup ports pools r.port.name c.name))
      ∧ (∀ r ∈ result.topology.networks, ∀ c ∈ r.clients, c.role? ≠ some .network)
      ∧ ((∀ r ∈ result.topology.networks, ∀ c ∈ r.clients, c.role? = some .client)
        ↔ ∀ r ∈ result.topology.networks, ∀ c ∈ ports,
            Declared.LinkedByGroup ports pools r.port.name c.name → c.role? = some .client)
      ∧ ∀ others : List Port,
          others.map Port.name = ports.map Port.name
          → (∀ name, Declared.HasNetworkRow others name ↔ Declared.HasNetworkRow ports name)
          → (ofPorts others pools).defects = result.defects := by
  intro result
  have linked
      : ∀ r ∈ result.topology.networks, ∀ c,
          c ∈ r.clients
          ↔ c ∈ ports
            ∧ ((c.role? = some .client ∧ c.connectionMap = some r.port.name)
              ∨ Declared.LinkedByGroup ports pools r.port.name c.name) := by
    intro r member c
    obtain ⟨-, -, -, clients, -⟩ := network_declared member
    rw [clients]
    exact Declared.mem_clients_iff distinct
  refine ⟨linked, ?noNetwork, ?allClients, ?defects⟩
  case noNetwork =>
    intro r member c inClients
    obtain ⟨row, ⟨client, -⟩ | grouped⟩ := (linked r member c).mp inClients
    · simp [client]
    · exact Declared.not_network_of_linkedByGroup distinct row grouped
  case allClients =>
    constructor
    · intro all r member c row grouped
      exact all r member c ((linked r member c).mpr ⟨row, Or.inr grouped⟩)
    · intro all r member c inClients
      obtain ⟨row, ⟨client, -⟩ | grouped⟩ := (linked r member c).mp inClients
      · exact client
      · exact all r member c row grouped
  case defects =>
    intro others names same
    refine defects_ofPorts_congr names ?_ pools
    rw [Declared.isNetwork_eq distinct, Declared.isNetwork_eq (names ▸ distinct)]
    funext name
    exact decide_eq_decide.mpr (same name)

/-- A network port and a port of a shared-risk group. -/
def mixedPorts
    : List Port :=
  [{ name := "XPDR1-NETWORK1" }, { name := "SRG1-PP1-TXRX" }]

/-- A pool with one group of both. -/
def mixedGroup
    : SwitchingPool :=
  { number := 1
    kindText := "blocking"
    groups := [{ number := 1, ports := ["XPDR1-NETWORK1", "SRG1-PP1-TXRX"] }] }

/-- The names of both ports differ, and the one client of the network port is the row that its group
lists.
-/
theorem ofPorts_links_group_members_mixed
    : (mixedPorts.map Port.name).Nodup
      ∧ ∀ r ∈ (ofPorts mixedPorts [mixedGroup]).topology.networks, ∀ c,
          c ∈ r.clients
          ↔ c ∈ mixedPorts
            ∧ ((c.role? = some .client ∧ c.connectionMap = some r.port.name)
              ∨ Declared.LinkedByGroup mixedPorts [mixedGroup] r.port.name c.name) :=
  ⟨by decide, (ofPorts_links_group_members [mixedGroup] (by decide)).1⟩

/-- A port of a shared-risk group is linked as a client of the network port, and the table is clean.
-/
theorem ofPorts_links_risk_group_port
    : (mixedPorts.map Port.name).Nodup
      ∧ (ofPorts mixedPorts [mixedGroup]).isClean = true
      ∧ ∃ r ∈ (ofPorts mixedPorts [mixedGroup]).topology.networks,
          ∃ c ∈ r.clients, c.role? = some .riskGroup := by
  decide

end Reconstruction

end Lightpath
