import Lightpath.Proofs.Topology.ClientRoles
import Mathlib.Data.Multiset.Bind

/-!
Tables in another order. Where no two rows have the same name and no two groups the same numbers, a
port is linked by one group at most, so that the order of rows, pools and groups decides nothing but
the order of clients, of risk groups and of defects.
-/

namespace Lightpath

/-- Two pools are the same but for the order of their groups. -/
structure SwitchingPool.Regrouped (pool other : SwitchingPool)
    : Prop where
  number : pool.number = other.number
  kindText : pool.kindText = other.kindText
  groups : pool.groups.Perm other.groups

theorem SwitchingPool.Regrouped.symm {pool other : SwitchingPool} (pair : pool.Regrouped other)
    : other.Regrouped pool :=
  ⟨pair.number.symm, pair.kindText.symm, pair.groups.symm⟩

/-- Two defects are the same but for the order of the groups that a shared member is listed in. -/
inductive TopologyDefect.Relisted
    : TopologyDefect → TopologyDefect → Prop
  | same (defect : TopologyDefect)
    : Relisted defect defect
  | sharedMember (port : String) {groups others : List (Nat × Nat)}
    (reordered : groups.Perm others)
    : Relisted (.sharedMember port groups) (.sharedMember port others)

/-- Two records of one port are the same but for the order of its partners. -/
inductive PortRecord.Relinked
    : PortRecord → PortRecord → Prop
  | network (port : Port) (kind : Option XponderKind) (bandwidthUnit : Option Nat)
    {clients others : List Port} (reordered : clients.Perm others)
    : Relinked (.network ⟨port, kind, clients, bandwidthUnit⟩)
        (.network ⟨port, kind, others, bandwidthUnit⟩)
  | degree (port : Port) {riskGroups others : List Port} (reordered : riskGroups.Perm others)
    : Relinked (.degree ⟨port, riskGroups⟩) (.degree ⟨port, others⟩)

namespace Declared

-----------------------------------------------------------------------------------------
-- Items in another order
-----------------------------------------------------------------------------------------

/-- Lists that are related one by one are related in some order. -/
theorem rel_of_forall₂ {α β : Type} {r : α → β → Prop} {items : List α} {others : List β}
    (related : List.Forall₂ r items others)
    : Multiset.Rel r items others := by
  induction related with
  | nil => exact .zero
  | cons first _ ih => exact .cons first ih

/-- What related items hold is the same but for its order. -/
theorem perm_flatMap_of_rel {α β γ : Type} {r : α → β → Prop} {items : List α} {others : List β}
    {f : α → List γ} {g : β → List γ} (related : Multiset.Rel r items others)
    (each : ∀ a b, r a b → (f a).Perm (g b))
    : (items.flatMap f).Perm (others.flatMap g) := by
  have bound
      : Multiset.Rel (· = ·) ((items : Multiset α).bind fun a => (f a : Multiset γ))
          ((others : Multiset β).bind fun b => (g b : Multiset γ)) := by
    refine Multiset.rel_bind ?_ related
    intro a b pair
    exact Multiset.rel_eq.mpr (Multiset.coe_eq_coe.mpr (each a b pair))
  rw [Multiset.rel_eq, Multiset.coe_bind, Multiset.coe_bind, Multiset.coe_eq_coe] at bound
  exact bound

theorem eraseDups_of_nodup {α : Type} [BEq α] [LawfulBEq α] {items : List α}
    (different : items.Nodup)
    : items.eraseDups = items := by
  induction items with
  | nil => rfl
  | cons first rest ih =>
      obtain ⟨fresh, different⟩ := List.nodup_cons.mp different
      have others : rest.filter (fun a => !a == first) = rest := by
        refine List.filter_eq_self.mpr ?_
        rintro a member
        have other : a ≠ first := fun same => fresh (same ▸ member)
        simpa using other
      rw [List.eraseDups_cons, others, ih different]

/-- Lists of one item at most are the same if they have the same members. -/
theorem eq_of_length_le_one {α : Type} {items others : List α} (few : items.length ≤ 1)
    (alsoFew : others.length ≤ 1) (same : ∀ a, a ∈ items ↔ a ∈ others)
    : items = others := by
  match items, others, few, alsoFew with
  | [], [], _, _ => rfl
  | [], [b], _, _ => simpa using (same b).mpr List.mem_cons_self
  | [a], [], _, _ => simpa using (same a).mp List.mem_cons_self
  | [a], [b], _, _ => rw [List.mem_singleton.mp ((same a).mp List.mem_cons_self)]

end Declared

namespace Topology

-----------------------------------------------------------------------------------------
-- Records with partners in another order
-----------------------------------------------------------------------------------------

section Relinked

variable {t other : Topology}
  (relinked : List.Forall₂ PortRecord.Relinked t.records other.records)
include relinked

theorem names_of_relinked
    : t.names = other.names := by
  unfold names
  rw [← List.forall₂_eq_eq_eq, List.forall₂_map_left_iff, List.forall₂_map_right_iff]
  refine relinked.imp ?_
  intro record partner pair
  cases pair <;> rfl

/-- Whether a port lacks a partner does not depend on the order of its partners. -/
theorem linkageDefects_of_relinked
    : t.linkageDefects = other.linkageDefects := by
  unfold linkageDefects
  rw [← List.forall₂_eq_eq_eq]
  refine List.rel_filterMap ?_ relinked
  intro record partner pair
  have sameDefect : record.linkageDefect? = partner.linkageDefect? := by
    cases pair with
    | network port kind bandwidthUnit reordered =>
        simp only [PortRecord.linkageDefect?, reordered.isEmpty_eq]
    | degree port reordered =>
        simp only [PortRecord.linkageDefect?, reordered.isEmpty_eq]
  rw [sameDefect]
  cases partner.linkageDefect? with
  | none => exact .none
  | some _ => exact .some rfl

end Relinked

end Topology

namespace Declared

-----------------------------------------------------------------------------------------
-- Pools in another order
-----------------------------------------------------------------------------------------

section Pools

variable {pools others : List SwitchingPool}
  (regrouped : Multiset.Rel SwitchingPool.Regrouped pools others)
include regrouped

theorem perm_numberedGroups
    : (Reconstruction.numberedGroups pools).Perm (Reconstruction.numberedGroups others) := by
  refine perm_flatMap_of_rel regrouped ?_
  intro pool other pair
  rw [pair.number]
  exact pair.groups.map _

theorem perm_listing (name : String)
    : (listing pools name).Perm (listing others name) :=
  (perm_numberedGroups regrouped).filter _

theorem conflicting_of_regrouped
    : Conflicting others = Conflicting pools := by
  funext name
  refine propext ?_
  rw [conflicting_iff, conflicting_iff]
  simp only [(perm_listing regrouped name).mem_iff]

theorem DistinctNumbers.of_regrouped (numbers : DistinctNumbers pools)
    : DistinctNumbers others :=
  ((perm_numberedGroups regrouped).map Prod.fst).nodup_iff.mp numbers

end Pools

/-- Under distinct numbers a port is in as many groups as it has memberships. -/
theorem memberships_eq {pools : List SwitchingPool} (numbers : DistinctNumbers pools)
    (name : String)
    : Reconstruction.memberships pools name = (listing pools name).map Prod.fst :=
  eraseDups_of_nodup ((List.filter_sublist.map _).nodup numbers)

theorem groups_of_mem_sharedMembers {pools : List SwitchingPool} {name : String}
    {groups : List (Nat × Nat)} (member : (name, groups) ∈ Reconstruction.sharedMembers pools)
    : groups = Reconstruction.memberships pools name := by
  obtain ⟨listed, -⟩ := List.mem_filter.mp member
  obtain ⟨_, -, ⟨⟩⟩ := List.mem_map.mp listed
  rfl

/-- Pools in another order share the same members, listed in the same groups. -/
theorem sharedMembers_of_regrouped {pools others : List SwitchingPool}
    (regrouped : Multiset.Rel SwitchingPool.Regrouped pools others)
    (numbers : DistinctNumbers pools)
    : List.Forall₂ (fun m n => m.1 = n.1 ∧ m.2.Perm n.2) (Reconstruction.sharedMembers pools)
        (Reconstruction.sharedMembers others) := by
  have keys
      : Keyed.keys (Reconstruction.sharedMembers pools)
        = Keyed.keys (Reconstruction.sharedMembers others) := by
    refine (Reconstruction.ascending_sharedMembers pools).keys_eq
      (Reconstruction.ascending_sharedMembers others) ?_
    intro name
    have here := Reconstruction.mem_sharedMembers pools name
    have there := Reconstruction.mem_sharedMembers others name
    rw [conflicting_of_regrouped regrouped] at there
    exact here.trans there.symm
  refine Keyed.forall₂_of_keys_eq keys ?_
  intro name groups rest member also
  rw [groups_of_mem_sharedMembers member, groups_of_mem_sharedMembers also, memberships_eq numbers,
    memberships_eq (numbers.of_regrouped regrouped)]
  exact (perm_listing regrouped name).map Prod.fst

-----------------------------------------------------------------------------------------
-- Groups of a network port
-----------------------------------------------------------------------------------------

/-- Under distinct numbers one group at most links clients to a network port. -/
theorem length_groupsOf_le_one (ports : List Port) {pools : List SwitchingPool}
    (numbers : DistinctNumbers pools) (network : String)
    : (groupsOf ports pools network).length ≤ 1 := by
  by_cases conflict : Conflicting pools network
  · simp [groupsOf_of_conflicting ports conflict]
  · have few : ¬ SeveralList pools network :=
      fun several => conflict (conflicting_of_severalList numbers several)
    have part : (groupsOf ports pools network).Sublist (pools.flatMap SwitchingPool.groups) :=
      (List.filter_sublist.flatMap _).trans
        (List.Sublist.flatMap_right _ fun _ _ => List.filter_sublist)
    have list : ∀ g ∈ groupsOf ports pools network, decide (network ∈ g.ports) = true := by
      intro g member
      obtain ⟨-, only, -⟩ := mem_groupsOf.mp member
      have listed : network ∈ g.ports.filter (isNetwork ports) := by simp [only]
      exact decide_eq_true (List.mem_filter.mp listed).1
    calc
      (groupsOf ports pools network).length
        = (groupsOf ports pools network).countP fun g => network ∈ g.ports :=
          (List.countP_eq_length.mpr list).symm
      _ ≤ (pools.flatMap SwitchingPool.groups).countP fun g => network ∈ g.ports :=
          part.countP_le
      _ ≤ 1 := Nat.le_of_not_lt few

theorem poolDefect?_of_regrouped {pool other : SwitchingPool} (pair : pool.Regrouped other)
    : Reconstruction.poolDefect? other = Reconstruction.poolDefect? pool := by
  simp only [Reconstruction.poolDefect?, SwitchingPool.kind?, pair.number, pair.kindText,
    pair.groups.length_eq]

/-- A group of a pool that counts is one of such a pool in any order of the pools. -/
theorem counted_of_regrouped {pools others : List SwitchingPool}
    (regrouped : Multiset.Rel SwitchingPool.Regrouped pools others) {group : PoolGroup}
    (counted : ∃ pool ∈ pools, Counts pool ∧ group ∈ pool.groups)
    : ∃ pool ∈ others, Counts pool ∧ group ∈ pool.groups := by
  obtain ⟨pool, inPools, counts, inGroups⟩ := counted
  obtain ⟨other, inOthers, pair⟩ := Multiset.exists_mem_of_rel_of_mem regrouped inPools
  refine ⟨other, inOthers, ?_, pair.groups.mem_iff.mp inGroups⟩
  rw [← Reconstruction.poolDefect?_eq_none, poolDefect?_of_regrouped pair,
    Reconstruction.poolDefect?_eq_none]
  exact counts

-----------------------------------------------------------------------------------------
-- Tables in another order
-----------------------------------------------------------------------------------------

/-- Two tables are the same but for the order of rows, of pools, and of the groups in each. -/
structure Reordered (ports : List Port) (pools : List SwitchingPool) (others : List Port)
    (rest : List SwitchingPool)
    : Prop where
  rows : ports.Perm others
  pools : Multiset.Rel SwitchingPool.Regrouped pools rest

section Reordered

variable {ports others : List Port} {pools rest : List SwitchingPool}
  (distinct : (ports.map Port.name).Nodup) (numbers : DistinctNumbers pools)
  (reordered : Reordered ports pools others rest)
include distinct reordered

theorem Reordered.distinctNames
    : (others.map Port.name).Nodup :=
  (reordered.rows.map Port.name).nodup_iff.mp distinct

theorem Reordered.row?_eq
    : Reconstruction.row? others = Reconstruction.row? ports := by
  funext name
  refine Option.ext fun p => ?_
  rw [row?_eq_some_iff (reordered.distinctNames distinct), row?_eq_some_iff distinct,
    reordered.rows.mem_iff]

theorem Reordered.networks_eq
    : isNetwork others = isNetwork ports := by
  rw [isNetwork_eq (reordered.distinctNames distinct), isNetwork_eq distinct]
  funext name
  refine decide_eq_decide.mpr ?_
  simp only [HasNetworkRow, reordered.rows.mem_iff]

/-- The row that declares a record for a name is found in any order of the rows. -/
theorem Reordered.declaring_eq
    : row? others = row? ports := by
  have known {rows : List Port} (distinct : (rows.map Port.name).Nodup) (name : String) (p : Port)
      : row? rows name = some p
        ↔ p ∈ rows ∧ p.name = name ∧ (p.role? = some .network ∨ p.role? = some .degree) := by
    constructor
    · exact Reconstruction.row?_eq_some
    · rintro ⟨row, rfl, role⟩
      exact row?_of_mem distinct row role
  funext name
  refine Option.ext fun p => ?_
  rw [known (reordered.distinctNames distinct), known distinct, reordered.rows.mem_iff]

theorem Reordered.groupDefects_eq
    : groupDefects others rest = groupDefects ports pools := by
  funext pool group
  simp only [groupDefects, reordered.networks_eq distinct, reordered.row?_eq distinct,
    conflicting_of_regrouped reordered.pools]

/-- A pool has the same defects in another order of its groups. -/
theorem Reordered.perm_poolDefects {pool other : SwitchingPool} (pair : pool.Regrouped other)
    : (poolDefects ports pools pool).Perm (poolDefects others rest other) := by
  rw [poolDefects, poolDefects, poolDefect?_of_regrouped pair,
    reordered.groupDefects_eq distinct, pair.number]
  cases Reconstruction.poolDefect? pool with
  | some defect => exact .refl _
  | none => exact pair.groups.flatMap_right _

theorem Reordered.perm_riskGroups
    : (riskGroups ports).Perm (riskGroups others) := by
  have all {rows : List Port} (distinct : (rows.map Port.name).Nodup)
      : riskGroups rows = rows.filter fun p => p.role? = some .riskGroup :=
    firstRows_eq_self ((List.filter_sublist.map _).nodup distinct)
  rw [all distinct, all (reordered.distinctNames distinct)]
  exact reordered.rows.filter _

include numbers

/-- The one group that links clients to a network port, if there is one, is found in any order. -/
theorem Reordered.groupsOf_eq (network : String)
    : groupsOf ports pools network = groupsOf others rest network := by
  have back : Multiset.Rel SwitchingPool.Regrouped rest pools :=
    (Multiset.rel_flip.mpr reordered.pools).mono fun _ _ _ _ pair => pair.symm
  have same
      : ∀ group,
          group ∈ groupsOf ports pools network
          ↔ group ∈ groupsOf others rest network := by
    intro group
    rw [mem_groupsOf, mem_groupsOf, reordered.networks_eq distinct,
      conflicting_of_regrouped reordered.pools]
    exact and_congr_left' ⟨counted_of_regrouped reordered.pools, counted_of_regrouped back⟩
  -- Without distinct numbers the groups would only be the same up to their order, and the last
  -- bandwidth unit could be another one.
  exact eq_of_length_le_one (length_groupsOf_le_one ports numbers network)
    (length_groupsOf_le_one others (numbers.of_regrouped reordered.pools) network) same

/-- A network port has the same clients in another order. -/
theorem Reordered.perm_clients (network : String)
    : (clients ports pools network).Perm (clients others rest network) := by
  have different (rows : List Port) (pools : List SwitchingPool)
      : (clients rows pools network).Nodup :=
    .of_map _ (nodup_firstRows _)
  refine (List.perm_ext_iff_of_nodup (different _ _) (different _ _)).mpr ?_
  intro c
  rw [mem_clients_iff distinct, mem_clients_iff (reordered.distinctNames distinct),
    reordered.rows.mem_iff, LinkedByGroup, LinkedByGroup, reordered.groupsOf_eq distinct numbers,
    conflicting_of_regrouped reordered.pools]

/-- What is declared for a row is the same but for the order of partners. -/
theorem Reordered.relinked_record (p : Port)
    : (record ports pools p).Relinked (record others rest p) := by
  unfold record
  split
  · rw [bandwidthUnit, bandwidthUnit, reordered.groupsOf_eq distinct numbers]
    exact .network _ _ _ (reordered.perm_clients distinct numbers p.name)
  · exact .degree _ (reordered.perm_riskGroups distinct)

end Reordered

end Declared

namespace Reconstruction

section Reordered

variable {ports others : List Port} {pools rest : List SwitchingPool}
  (distinct : (ports.map Port.name).Nodup) (numbers : Declared.DistinctNumbers pools)
  (reordered : Declared.Reordered ports pools others rest)
include distinct numbers reordered

theorem relinked_records
    : List.Forall₂ PortRecord.Relinked (ofPorts ports pools).topology.records
        (ofPorts others rest).topology.records := by
  obtain ⟨ascending, found⟩ := ofPorts_topology ports pools
  obtain ⟨also, foundAlso⟩ := ofPorts_topology others rest
  refine Topology.forall₂_of_get? ascending also ?_
  intro name
  rw [found, foundAlso, reordered.declaring_eq distinct]
  cases Declared.row? ports name with
  | none => exact .none
  | some p => exact .some (reordered.relinked_record distinct numbers p)

/-- No row is repeated, so that the defects are those of shared members and of pools. -/
theorem relisted_defects
    : Multiset.Rel TopologyDefect.Relisted (ofPorts ports pools).defects
        (ofPorts others rest).defects := by
  have noRow {rows : List Port} (distinct : (rows.map Port.name).Nodup)
      : duplicateRows [] rows = [] :=
    (duplicateRows_eq_nil_iff [] rows).mpr ⟨distinct, fun _ _ => List.not_mem_nil⟩
  have shared
      : List.Forall₂ TopologyDefect.Relisted
          ((sharedMembers pools).map fun m => .sharedMember m.1 m.2)
          ((sharedMembers rest).map fun m => .sharedMember m.1 m.2) := by
    rw [List.forall₂_map_left_iff, List.forall₂_map_right_iff]
    refine (Declared.sharedMembers_of_regrouped reordered.pools numbers).imp ?_
    rintro ⟨name, groups⟩ ⟨_, others⟩ ⟨rfl, same⟩
    exact .sharedMember name same
  have pooled
      : (pools.flatMap (Declared.poolDefects ports pools)).Perm
          (rest.flatMap (Declared.poolDefects others rest)) :=
    Declared.perm_flatMap_of_rel reordered.pools fun _ _ => reordered.perm_poolDefects distinct
  rw [ofPorts_defects, ofPorts_defects, noRow distinct, noRow (reordered.distinctNames distinct),
    List.nil_append, List.nil_append, ← Multiset.coe_add, ← Multiset.coe_add,
    ← Multiset.coe_eq_coe.mpr pooled]
  refine (Declared.rel_of_forall₂ shared).add (Multiset.rel_refl_of_refl_on ?_)
  exact fun defect _ => .same defect

end Reordered

/-- The order of a table does not change its topology. Where rows have different names and groups
different numbers, any order of the rows, of the pools and of the groups in each pool gives records
of the same names, each with the same row and the same bandwidth unit and with the same partners up
to their order; the defects of the table are the same ones up to their order and that of the groups
of a shared member, and those of unlinked ports are the same in the same order.
-/
theorem ofPorts_reordered {ports others : List Port} {pools rest : List SwitchingPool}
    (distinct : (ports.map Port.name).Nodup) (numbers : Declared.DistinctNumbers pools)
    (reordered : Declared.Reordered ports pools others rest)
    : let before := ofPorts ports pools
      let after := ofPorts others rest
      before.topology.names = after.topology.names
      ∧ List.Forall₂ PortRecord.Relinked before.topology.records after.topology.records
      ∧ Multiset.Rel TopologyDefect.Relisted before.defects after.defects
      ∧ before.topology.linkageDefects = after.topology.linkageDefects := by
  intro before after
  have records := relinked_records distinct numbers reordered
  exact ⟨Topology.names_of_relinked records, records, relisted_defects distinct numbers reordered,
    Topology.linkageDefects_of_relinked records⟩

/-- A network port, a client, and two clients that point at the network port. -/
def spreadPorts
    : List Port :=
  [{ name := "XPDR1-NETWORK1" }, { name := "XPDR1-CLIENT1" },
    { name := "XPDR1-CLIENT2", connectionMap := some "XPDR1-NETWORK1" },
    { name := "XPDR1-CLIENT3", connectionMap := some "XPDR1-NETWORK1" }]

/-- A group that resolves to the network port, and two that share an unknown one. -/
def spreadGroups
    : List PoolGroup :=
  [{ number := 1, ports := ["XPDR1-NETWORK1", "XPDR1-CLIENT1"], bandwidthUnit := some 10 },
    { number := 2, ports := ["XPDR9-CLIENT1"] },
    { number := 3, ports := ["XPDR9-CLIENT1"] }]

/-- A pool with some groups, and a pool that does not count. -/
def spreadPools (groups : List PoolGroup)
    : List SwitchingPool :=
  [{ number := 1, kindText := "blocking", groups := groups },
    { number := 2, kindText := "non-blocking" }]

/-- In the reverse order of everything the network port has the clients that point at it in another
order, and the groups of the shared member are reported in another order.
-/
theorem ofPorts_reordered_reverse
    : let pools := spreadPools spreadGroups
      let rest := (spreadPools spreadGroups.reverse).reverse
      let before := ofPorts spreadPorts pools
      let after := ofPorts spreadPorts.reverse rest
      (spreadPorts.map Port.name).Nodup
      ∧ Declared.DistinctNumbers pools
      ∧ Declared.Reordered spreadPorts pools spreadPorts.reverse rest
      ∧ List.Forall₂ PortRecord.Relinked before.topology.records after.topology.records
      ∧ Multiset.Rel TopologyDefect.Relisted before.defects after.defects
      ∧ before.topology.networks.map NetworkRecord.clientNames
        = [["XPDR1-CLIENT2", "XPDR1-CLIENT3", "XPDR1-CLIENT1"]]
      ∧ after.topology.networks.map NetworkRecord.clientNames
        = [["XPDR1-CLIENT3", "XPDR1-CLIENT2", "XPDR1-CLIENT1"]]
      ∧ .sharedMember "XPDR9-CLIENT1" [(1, 2), (1, 3)] ∈ before.defects
      ∧ .sharedMember "XPDR9-CLIENT1" [(1, 3), (1, 2)] ∈ after.defects := by
  intro pools rest before after
  have distinct : (spreadPorts.map Port.name).Nodup := by decide
  have numbers : Declared.DistinctNumbers pools := by
    rw [Declared.DistinctNumbers]
    decide
  have reordered : Declared.Reordered spreadPorts pools spreadPorts.reverse rest := by
    refine ⟨(List.reverse_perm _).symm, ?_⟩
    rw [Multiset.coe_reverse]
    refine Declared.rel_of_forall₂ (.cons ⟨rfl, rfl, (List.reverse_perm spreadGroups).symm⟩ ?_)
    exact .cons ⟨rfl, rfl, .refl _⟩ .nil
  obtain ⟨-, records, defects, -⟩ := ofPorts_reordered distinct numbers reordered
  exact ⟨distinct, numbers, reordered, records, defects, by decide, by decide, by decide,
    by decide⟩

end Reconstruction

end Lightpath
