import Lightpath.Proofs.Topology.Defects
import Lightpath.Proofs.Topology.FirstRows

/-!
What a clean table promises: each row is found under its name, every network port and every
degree has a partner, and all partners are rows of the table.
-/

namespace Lightpath

namespace Reconstruction

-----------------------------------------------------------------------------------------
-- Rows with different names
-----------------------------------------------------------------------------------------

/-- There is no duplicate row exactly if the names of the rows are different, and none was seen
before.
-/
theorem duplicateRows_eq_nil_iff (seen : List String) (ports : List Port)
    : duplicateRows seen ports = []
      ↔ (ports.map Port.name).Nodup ∧ ∀ p ∈ ports, p.name ∉ seen := by
  induction ports generalizing seen with
  | nil => simp [duplicateRows]
  | cons p rest ih =>
      rw [duplicateRows]
      by_cases known : p.name ∈ seen
      · simp [known]
      · rw [if_neg known, ih, List.map_cons, List.nodup_cons, List.forall_mem_cons]
        simp only [List.mem_cons, not_or, List.mem_map, not_exists, not_and]
        constructor
        · rintro ⟨different, unseen⟩
          exact ⟨⟨fun q member => (unseen q member).1, different⟩, known,
            fun q member => (unseen q member).2⟩
        · rintro ⟨⟨once, different⟩, -, unseen⟩
          exact ⟨different, fun q member => ⟨once q member, unseen q member⟩⟩

-----------------------------------------------------------------------------------------
-- Clean tables
-----------------------------------------------------------------------------------------

theorem isClean_iff (r : Reconstruction)
    : r.isClean = true ↔ r.defects = [] ∧ r.topology.linkageDefects = [] := by
  rw [isClean, allDefects, List.isEmpty_iff, List.append_eq_nil_iff]

/-- No port lacks a partner exactly if each network port has clients and each degree has risk groups.
-/
theorem linkageDefects_eq_nil_iff (t : Topology)
    : t.linkageDefects = []
      ↔ (∀ r ∈ t.networks, r.clients ≠ []) ∧ ∀ r ∈ t.degrees, r.riskGroups ≠ [] := by
  rw [Topology.linkageDefects, Topology.networks, Topology.degrees, List.filterMap_eq_nil_iff]
  simp only [List.forall_mem_filterMap]
  constructor
  · intro none
    refine ⟨?network, ?degree⟩
    all_goals
      intro record member r isRecord unlinked
      have noDefect := none record member
      cases record <;> cases isRecord
      simp [PortRecord.linkageDefect?, unlinked] at noDefect
  · rintro ⟨network, degree⟩ record member
    cases record with
    | network r => simp [PortRecord.linkageDefect?, network _ member r rfl]
    | degree r => simp [PortRecord.linkageDefect?, degree _ member r rfl]

/-- Different rows of a clean table have different names. -/
theorem names_nodup_of_clean {table : PortTable} (clean : (ofTable table).isClean = true)
    : (table.ports.map Port.name).Nodup := by
  obtain ⟨noDefects, -⟩ := (isClean_iff _).mp clean
  have parts := (ofPorts_defects table.ports table.pools).symm.trans noDefects
  have noRepeats := (List.append_eq_nil_iff.mp (List.append_eq_nil_iff.mp parts).1).1
  exact ((duplicateRows_eq_nil_iff _ _).mp noRepeats).1

/-- In a clean table a row is found under its name. -/
theorem port?_of_clean {table : PortTable} (clean : (ofTable table).isClean = true) {p : Port}
    (row : p ∈ table.ports)
    : table.port? p.name = some p := by
  rw [← Declared.firstRows_eq_self (names_nodup_of_clean clean)] at row
  exact Declared.mem_firstRows.mp row

/-- The declared clients of a port are rows of the table. -/
theorem mem_of_mem_clients {ports : List Port} {pools : List SwitchingPool} {network : String}
    {client : Port} (linked : client ∈ Declared.clients ports pools network)
    : client ∈ ports := by
  rcases List.mem_append.mp (Declared.mem_of_mem_firstRows linked) with direct | pooled
  · exact (List.mem_filter.mp direct).1
  · obtain ⟨group, -, member⟩ := List.mem_flatMap.mp pooled
    obtain ⟨name, -, found⟩ := List.mem_filterMap.mp member
    exact List.mem_of_find?_eq_some found

/-- In a clean table every network port is a row with clients, and its clients are rows. -/
theorem network_of_clean {table : PortTable} (clean : (ofTable table).isClean = true)
    {r : NetworkRecord} (member : r ∈ (ofTable table).topology.networks)
    : r.port ∈ table.ports
      ∧ r.port.role? = some .network
      ∧ r.clients ≠ []
      ∧ ∀ c ∈ r.clients, c ∈ table.ports := by
  obtain ⟨row, role, -, clients, -⟩ := network_declared member
  refine ⟨row, role, ?_, ?_⟩
  · obtain ⟨-, linked⟩ := (isClean_iff _).mp clean
    exact ((linkageDefects_eq_nil_iff _).mp linked).1 r member
  · intro c inClients
    rw [clients] at inClients
    exact mem_of_mem_clients inClients

/-- In a clean table every degree is a row with risk groups, and those are rows of their role.
-/
theorem degree_of_clean {table : PortTable} (clean : (ofTable table).isClean = true)
    {r : DegreeRecord} (member : r ∈ (ofTable table).topology.degrees)
    : r.port ∈ table.ports
      ∧ r.port.role? = some .degree
      ∧ r.riskGroups ≠ []
      ∧ ∀ g ∈ r.riskGroups, g ∈ table.ports ∧ g.role? = some .riskGroup := by
  obtain ⟨row, role, groups⟩ := degree_declared member
  refine ⟨row, role, ?_, ?_⟩
  · obtain ⟨-, linked⟩ := (isClean_iff _).mp clean
    exact ((linkageDefects_eq_nil_iff _).mp linked).2 r member
  · intro g inGroups
    rw [groups] at inGroups
    obtain ⟨inTable, isGroup⟩ := List.mem_filter.mp (Declared.mem_of_mem_firstRows inGroups)
    exact ⟨inTable, by simpa using isGroup⟩

end Reconstruction

end Lightpath
