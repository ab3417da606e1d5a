import Lightpath.Proofs.Topology.Clean

/-!
Rows whose name an earlier row has. They are reported, and yet a role or a cross-reference of their
own can seed a record, link a client or add a shared-risk-group port. A topology is that of the
first rows alone exactly if no later row plays a part that the first row of its name does not play.
-/

namespace Lightpath

namespace Declared

/-- A row calls for a record of its own. -/
def Seeds (p : Port)
    : Prop :=
  p.role? = some .network ∨ p.role? = some .degree

instance
    : DecidablePred Seeds := by
  intro p
  unfold Seeds
  infer_instance

/-- A row is a client that names a network port. -/
def ClientOf (network : String) (p : Port)
    : Prop :=
  p.role? = some .client ∧ p.connectionMap = some network

instance (network : String)
    : DecidablePred (ClientOf network) := by
  intro p
  unfold ClientOf
  infer_instance

/-- Whenever a row plays a part, the first row of its name plays it. -/
def FirstPlays (part : Port → Prop) (rows : List Port)
    : Prop :=
  ∀ p ∈ rows, part p → ∀ first, Reconstruction.row? rows p.name = some first → part first

/-- Every part that a row plays in a topology is played by the first row of its name: to seed a
record, to be a client of a network port, and to be a shared-risk-group port if there is a degree.
-/
structure FirstRowsRule (rows : List Port)
    : Prop where
  seeds : FirstPlays Seeds rows
  clients : ∀ network, isNetwork rows network = true → FirstPlays (ClientOf network) rows
  riskGroups
    : (∃ name p, row? rows name = some p ∧ p.role? = some .degree) →
        FirstPlays (fun p => p.role? = some .riskGroup) rows

-----------------------------------------------------------------------------------------
-- Declarations of the first rows
-----------------------------------------------------------------------------------------

/-- The first rows that are chosen are those of the chosen rows, if the choice is a part that first
rows play.
-/
theorem firstRows_of_part {part : Port → Prop} [DecidablePred part] {rows : List Port}
    (plays : FirstPlays part rows)
    : (firstRows rows).filter (fun p => part p) = firstRows (rows.filter fun p => part p) := by
  refine (firstRows_filter ?_).symm
  intro p member chosen first found
  exact decide_eq_true (plays p member (of_decide_eq_true chosen) first found)

/-- A row declares a record if it is the first of its name among those that seed. -/
theorem row?_eq_row?_seeds (rows : List Port) (name : String)
    : row? rows name = Reconstruction.row? (rows.filter fun p => Seeds p) name := by
  rw [Reconstruction.row?, List.find?_filter, row?]
  congr 1
  funext p
  rw [Bool.eq_iff_iff]
  simp only [Bool.and_eq_true, Bool.or_eq_true, decide_eq_true_eq]
  exact and_comm

theorem row?_of_firstRows {rows : List Port} (seeds : FirstPlays Seeds rows) (name : String)
    : row? (firstRows rows) name = row? rows name := by
  rw [row?_eq_row?_seeds, firstRows_of_part seeds, row?_firstRows, ← row?_eq_row?_seeds]

theorem isNetwork_of_firstRows {rows : List Port} (seeds : FirstPlays Seeds rows)
    : isNetwork (firstRows rows) = isNetwork rows := by
  funext name
  rw [isNetwork, isNetwork, row?_of_firstRows seeds]

theorem groupsOf_of_firstRows {rows : List Port} (seeds : FirstPlays Seeds rows)
    (pools : List SwitchingPool) (network : String)
    : groupsOf (firstRows rows) pools network = groupsOf rows pools network := by
  rw [groupsOf, groupsOf, isNetwork_of_firstRows seeds]

/-- The clients of a network port are those that the first rows declare. -/
theorem clients_of_firstRows {rows : List Port} (seeds : FirstPlays Seeds rows)
    {network : String} (plays : FirstPlays (ClientOf network) rows) (pools : List SwitchingPool)
    : clients (firstRows rows) pools network = clients rows pools network := by
  have direct : directClients (firstRows rows) network = firstRows (directClients rows network) :=
    firstRows_of_part plays
  have members : groupClients (firstRows rows) pools network = groupClients rows pools network := by
    funext group
    refine congrArg (List.filterMap · _) ?_
    funext name
    exact row?_firstRows rows name
  rw [clients, clients, direct, groupsOf_of_firstRows seeds, members, firstRows_firstRows_append]

theorem riskGroups_of_firstRows {rows : List Port}
    (plays : FirstPlays (fun p => p.role? = some .riskGroup) rows)
    : riskGroups (firstRows rows) = riskGroups rows := by
  rw [riskGroups, riskGroups, firstRows_of_part plays, firstRows_eq_self (nodup_firstRows _)]

/-- Where first rows rule, each of them declares the record that all rows declare. -/
theorem record_of_firstRows {rows : List Port} (rule : FirstRowsRule rows)
    (pools : List SwitchingPool) {name : String} {p : Port} (declares : row? rows name = some p)
    : record (firstRows rows) pools p = record rows pools p := by
  obtain ⟨-, rfl, role⟩ := Reconstruction.row?_eq_some declares
  rw [record, record]
  by_cases network : p.role? = some .network
  · have isPort : isNetwork rows p.name = true := by
      rw [isNetwork, declares]
      simpa using network
    rw [if_pos network, if_pos network, clients_of_firstRows rule.seeds (rule.clients _ isPort),
      bandwidthUnit, groupsOf_of_firstRows rule.seeds]
    rfl
  · have degree := role.resolve_left network
    rw [if_neg network, if_neg network,
      riskGroups_of_firstRows (rule.riskGroups ⟨p.name, p, declares, degree⟩)]

-----------------------------------------------------------------------------------------
-- First rows that fail to rule
-----------------------------------------------------------------------------------------

/-- First rows play a part if the first of the rows that play it are first rows. -/
theorem firstPlays_of_chosen {part : Port → Prop} [DecidablePred part] {rows : List Port}
    (kept : ∀ q ∈ firstRows (rows.filter fun p => part p), q ∈ firstRows rows)
    : FirstPlays part rows := by
  intro p member plays first found
  have chosen : p ∈ rows.filter fun p => part p :=
    List.mem_filter.mpr ⟨member, decide_eq_true plays⟩
  obtain ⟨q, foundChosen, named⟩ := exists_row? chosen
  have isFirst := kept q (mem_firstRows.mpr (named ▸ foundChosen))
  rw [mem_firstRows, named, found] at isFirst
  cases isFirst
  exact of_decide_eq_true (List.mem_filter.mp (List.mem_of_find?_eq_some foundChosen)).2

theorem port_record (rows : List Port) (pools : List SwitchingPool) (p : Port)
    : (record rows pools p).port = p := by
  rw [record]
  split <;> rfl

/-- Rows that declare the same records as the first rows. -/
def SameRecords (rows : List Port) (pools : List SwitchingPool)
    : Prop :=
  ∀ name,
    (row? rows name).map (record rows pools)
      = (row? (firstRows rows) name).map (record (firstRows rows) pools)

namespace SameRecords

variable {rows : List Port} {pools : List SwitchingPool} (same : SameRecords rows pools)
include same

/-- The row that declares a record is a first row, with what first rows declare for it. -/
theorem declared {name : String} {p : Port} (declares : row? rows name = some p)
    : p ∈ firstRows rows ∧ record rows pools p = record (firstRows rows) pools p := by
  have records := same name
  rw [declares, Option.map_some] at records
  obtain ⟨q, declaresFirst, equal⟩ := Option.map_eq_some_iff.mp records.symm
  have port : q = p := by
    rw [← port_record (firstRows rows) pools q, equal, port_record]
  subst port
  exact ⟨(Reconstruction.row?_eq_some declaresFirst).1, equal.symm⟩

theorem seeds
    : FirstPlays Seeds rows := by
  refine firstPlays_of_chosen ?_
  intro q chosen
  have declares : row? rows q.name = some q := by
    rw [row?_eq_row?_seeds]
    exact mem_firstRows.mp chosen
  exact (same.declared declares).1

/-- The first of the clients that name a network port is linked to it, hence a first row. -/
theorem clients {network : String} (isPort : isNetwork rows network = true)
    : FirstPlays (ClientOf network) rows := by
  obtain ⟨port, declares, isNetwork⟩ := (Option.any_eq_true _ _).mp isPort
  obtain ⟨-, rfl, -⟩ := Reconstruction.row?_eq_some declares
  have records := (same.declared declares).2
  rw [decide_eq_true_eq] at isNetwork
  rw [record, record, if_pos isNetwork, if_pos isNetwork] at records
  injection records with records
  injection records with _ _ linked
  refine firstPlays_of_chosen ?_
  intro q chosen
  have isLinked : q ∈ Declared.clients rows pools port.name := by
    rw [Declared.clients, firstRows_append]
    exact List.mem_append_left _ chosen
  rw [linked] at isLinked
  exact Reconstruction.mem_of_mem_clients isLinked

/-- The first of the shared-risk-group ports of a name is linked to each degree, hence a first row.
-/
theorem riskGroups {name : String} {degree : Port} (declares : row? rows name = some degree)
    (role : degree.role? = some .degree)
    : FirstPlays (fun p => p.role? = some .riskGroup) rows := by
  have records := (same.declared declares).2
  have notNetwork : degree.role? ≠ some .network := by simp [role]
  rw [record, record, if_neg notNetwork, if_neg notNetwork] at records
  injection records with records
  injection records with _ linked
  refine firstPlays_of_chosen ?_
  intro q chosen
  have isLinked : q ∈ Declared.riskGroups (firstRows rows) := linked ▸ chosen
  exact (List.mem_filter.mp (mem_of_mem_firstRows isLinked)).1

end SameRecords

/-- The records of all rows are those of the first rows exactly if first rows rule. -/
theorem sameRecords_iff (rows : List Port) (pools : List SwitchingPool)
    : SameRecords rows pools ↔ FirstRowsRule rows := by
  constructor
  · intro same
    exact {
      seeds := same.seeds
      clients := fun _ isPort => same.clients isPort
      riskGroups := fun ⟨_, _, declares, role⟩ => same.riskGroups declares role }
  · intro rule name
    rw [row?_of_firstRows rule.seeds]
    cases declares : row? rows name with
    | none => rfl
    | some p => simp only [Option.map_some, record_of_firstRows rule pools declares]

end Declared

namespace Reconstruction

/-- A topology is that of the first rows alone exactly if every part that a row plays in it is one
that the first row of its name plays, whatever the pools are.
-/
theorem ofPorts_topology_firstRows_iff (rows : List Port) (pools : List SwitchingPool)
    : (ofPorts rows pools).topology = (ofPorts (Declared.firstRows rows) pools).topology
      ↔ Declared.FirstRowsRule rows := by
  obtain ⟨ascending, found⟩ := ofPorts_topology rows pools
  obtain ⟨alsoAscending, foundFirst⟩ := ofPorts_topology (Declared.firstRows rows) pools
  rw [← Declared.sameRecords_iff rows pools]
  constructor
  · intro equal name
    rw [← found, ← foundFirst, equal]
  · intro same
    refine Topology.eq_of_get? ascending alsoAscending ?_
    intro name
    rw [found, foundFirst, same name]

/-- A client whose two rows name different network ports. -/
def rivalRows
    : List Port :=
  [{ name := "XPDR1-NETWORK1" }, { name := "XPDR1-NETWORK2" },
    { name := "XPDR1-CLIENT1", connectionMap := some "XPDR1-NETWORK1" },
    { name := "XPDR1-CLIENT1", connectionMap := some "XPDR1-NETWORK2" }]

/-- The later row is reported, and links its client all the same. -/
theorem ofPorts_links_later_row
    : (ofPorts rivalRows []).defects = [.duplicateRow "XPDR1-CLIENT1"]
      ∧ (ofPorts rivalRows []).topology ≠ (ofPorts (Declared.firstRows rivalRows) []).topology
      ∧ (ofPorts rivalRows []).topology.networks.map NetworkRecord.clientNames
        = [["XPDR1-CLIENT1"], ["XPDR1-CLIENT1"]]
      ∧ (ofPorts (Declared.firstRows rivalRows) []).topology.networks.map NetworkRecord.clientNames
        = [["XPDR1-CLIENT1"], []] := by
  decide

end Reconstruction

end Lightpath
