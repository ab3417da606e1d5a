import Lightpath.Proofs.Keyed
import Lightpath.Topology.Record
import Mathlib.Data.List.Forall2
import Mathlib.Data.List.Induction

/-!
Laws of the records of a topology: what is found at a name after a record is placed, or after
the records of one port or of all degrees are changed, and that the names stay in ascending
order.
-/

namespace Lightpath

namespace PortRecord

/-- The record with a change made to it if it is that of a network port. -/
def mapNetwork (change : NetworkRecord → NetworkRecord)
    : PortRecord → PortRecord
  | .network r => .network (change r)
  | .degree r => .degree r

/-- The record with a change made to it if it is that of a degree. -/
def mapDegree (change : DegreeRecord → DegreeRecord)
    : PortRecord → PortRecord
  | .network r => .network r
  | .degree r => .degree (change r)

@[simp]
theorem mapNetwork_id (record : PortRecord)
    : record.mapNetwork (fun r => r) = record := by
  cases record <;> rfl

@[simp]
theorem mapNetwork_mapNetwork (first second : NetworkRecord → NetworkRecord)
    (record : PortRecord)
    : (record.mapNetwork first).mapNetwork second
      = record.mapNetwork fun r => second (first r) := by
  cases record <;> rfl

theorem name_mapNetwork {change : NetworkRecord → NetworkRecord}
    (keeps : ∀ r, (change r).port = r.port) (record : PortRecord)
    : (record.mapNetwork change).name = record.name := by
  cases record with
  | network r => simp only [mapNetwork, name, port, keeps]
  | degree r => rfl

theorem name_mapDegree {change : DegreeRecord → DegreeRecord}
    (keeps : ∀ r, (change r).port = r.port) (record : PortRecord)
    : (record.mapDegree change).name = record.name := by
  cases record with
  | network r => rfl
  | degree r => simp only [mapDegree, name, port, keeps]

end PortRecord

namespace Topology

-----------------------------------------------------------------------------------------
-- Placing a record
-----------------------------------------------------------------------------------------

/-- The names of records are in ascending order, each once. -/
def Ascending (records : List PortRecord)
    : Prop :=
  records.Pairwise fun earlier later => earlier.name < later.name

/-- A placed list holds the new record and those of before. -/
theorem mem_of_mem_place {record found : PortRecord} {records : List PortRecord}
    (member : found ∈ place record records)
    : found = record ∨ found ∈ records := by
  induction records with
  | nil => exact Or.inl (by simpa [place] using member)
  | cons head rest ih =>
      simp only [place] at member
      split at member
      · exact List.mem_cons.mp member
      · split at member
        · exact Or.inr member
        · rcases List.mem_cons.mp member with same | later
          · exact Or.inr (by simp [same])
          · exact (ih later).imp_right (List.mem_cons_of_mem _)

theorem Ascending.place {record : PortRecord} {records : List PortRecord}
    (ascending : Ascending records)
    : Ascending (Topology.place record records) := by
  induction records with
  | nil => exact List.pairwise_singleton _ _
  | cons head rest ih =>
      obtain ⟨below, ordered⟩ := List.pairwise_cons.mp ascending
      simp only [Topology.place]
      split
      · rename_i less
        refine List.pairwise_cons.mpr ⟨?_, ascending⟩
        intro later member
        rcases List.mem_cons.mp member with same | inRest
        · exact same ▸ less
        · exact String.lt_trans less (below later inRest)
      · split
        · exact ascending
        · rename_i notLess different
          refine List.pairwise_cons.mpr ⟨?_, ih ordered⟩
          intro later member
          rcases mem_of_mem_place member with same | inRest
          · rw [same]
            exact Std.lt_of_le_of_ne (String.not_lt.mp notLess) (Ne.symm different)
          · exact below later inRest

/-- In an ordered list a record is found at its name if nothing was there; nothing else
changes.
-/
theorem find?_place {record : PortRecord} {records : List PortRecord}
    (ascending : Ascending records) (name : String)
    : (place record records).find? (fun r => r.name = name)
      = (records.find? fun r => r.name = name).or
          (if record.name = name then some record else none) := by
  induction records with
  | nil => simp only [place, List.find?_cons, List.find?_nil]; grind
  | cons head rest ih =>
      obtain ⟨below, ordered⟩ := List.pairwise_cons.mp ascending
      simp only [place]
      split
      · rename_i less
        by_cases here : record.name = name
        · -- no record of the list bears the name: all of them stand above the new one
          have absent : (head :: rest).find? (fun r => r.name = name) = none := by
            refine List.find?_eq_none.mpr ?_
            intro r member
            have above : record.name < r.name := by
              rcases List.mem_cons.mp member with same | inRest
              · exact same ▸ less
              · exact String.lt_trans less (below r inRest)
            have ne : r.name ≠ name := fun same =>
              String.lt_irrefl name (by rw [here, same] at above; exact above)
            simpa using ne
          rw [absent]
          simp [here]
        · simp [List.find?_cons, here]
      · split
        · rename_i same
          by_cases here : head.name = name <;> simp [here, same]
        · by_cases here : head.name = name
          · simp [here]
          · simp [here, ih ordered]

/-- Inserting a record changes at most what is found at its name. -/
theorem get?_insert {t : Topology} (ascending : Ascending t.records) (record : PortRecord)
    (name : String)
    : (t.insert record).get? name
      = (t.get? name).or (if record.name = name then some record else none) :=
  find?_place ascending name

/-- Inserting records in turn gives ascending names, and the first record of a name is found there.
-/
theorem insert_all (records : List PortRecord)
    : Ascending (records.foldl insert {}).records
      ∧ ∀ name,
          (records.foldl insert {}).get? name = records.find? fun r => r.name = name := by
  induction records using List.reverseRecOn with
  | nil => exact ⟨List.Pairwise.nil, fun _ => rfl⟩
  | append_singleton records last ih =>
      obtain ⟨ascending, found⟩ := ih
      rw [List.foldl_append, List.foldl_cons, List.foldl_nil]
      refine ⟨ascending.place, ?_⟩
      intro name
      rw [get?_insert ascending, found, List.find?_append]
      congr 1
      simp only [List.find?_cons, List.find?_nil]
      grind

-----------------------------------------------------------------------------------------
-- Changing records in place
-----------------------------------------------------------------------------------------

theorem find?_map_of_name {change : PortRecord → PortRecord}
    (keeps : ∀ r, (change r).name = r.name) (records : List PortRecord) (name : String)
    : (records.map change).find? (fun r => r.name = name)
      = (records.find? fun r => r.name = name).map change := by
  rw [List.find?_map]
  congr 2
  funext r
  simp [keeps]

theorem Ascending.map {change : PortRecord → PortRecord}
    (keeps : ∀ r, (change r).name = r.name) {records : List PortRecord}
    (ascending : Ascending records)
    : Ascending (records.map change) := by
  refine List.pairwise_map.mpr ?_
  simpa only [keeps, Ascending] using ascending

/-- An update of one network port changes the records of its name. -/
theorem updateNetwork_records (t : Topology) (name : String)
    (change : NetworkRecord → NetworkRecord)
    : (t.updateNetwork name change).records
      = t.records.map fun r => if r.name = name then r.mapNetwork change else r := by
  refine List.map_congr_left ?_
  intro record _
  cases record with
  | network r => rfl
  | degree r => simp [PortRecord.mapNetwork]

/-- An update of the degrees changes every record that is one of a degree. -/
theorem updateDegrees_records (t : Topology) (change : DegreeRecord → DegreeRecord)
    : (t.updateDegrees change).records = t.records.map (PortRecord.mapDegree change) := by
  refine List.map_congr_left ?_
  intro record _
  cases record <;> rfl

section Updates

variable {change : NetworkRecord → NetworkRecord} (keeps : ∀ r, (change r).port = r.port)
include keeps

private theorem name_updated (name : String) (r : PortRecord)
    : (if r.name = name then r.mapNetwork change else r).name = r.name := by
  split
  · exact PortRecord.name_mapNetwork keeps r
  · rfl

/-- An update of a network port is found at its name; nothing changes at other names. -/
theorem get?_updateNetwork (t : Topology) (target name : String)
    : (t.updateNetwork target change).get? name
      = (t.get? name).map fun r => if name = target then r.mapNetwork change else r := by
  rw [get?, updateNetwork_records, find?_map_of_name (name_updated keeps target), get?]
  cases found : t.records.find? fun r => r.name = name with
  | none => rfl
  | some r =>
      have named : r.name = name := by simpa using List.find?_some found
      simp [named]

theorem Ascending.updateNetwork {t : Topology} (target : String)
    (ascending : Ascending t.records)
    : Ascending (t.updateNetwork target change).records := by
  rw [updateNetwork_records]
  exact ascending.map (name_updated keeps target)

end Updates

/-- An update of the degrees is found at the name of each. -/
theorem get?_updateDegrees {change : DegreeRecord → DegreeRecord}
    (keeps : ∀ r, (change r).port = r.port) (t : Topology) (name : String)
    : (t.updateDegrees change).get? name = (t.get? name).map (PortRecord.mapDegree change) := by
  rw [get?, updateDegrees_records, find?_map_of_name (PortRecord.name_mapDegree keeps), get?]

theorem Ascending.updateDegrees {change : DegreeRecord → DegreeRecord}
    (keeps : ∀ r, (change r).port = r.port) {t : Topology} (ascending : Ascending t.records)
    : Ascending (t.updateDegrees change).records := by
  rw [updateDegrees_records]
  exact ascending.map (PortRecord.name_mapDegree keeps)

-----------------------------------------------------------------------------------------
-- Passes over the network ports
-----------------------------------------------------------------------------------------

/-- A topology comes from another by a change of its network records alone, which may depend on
their names. Nothing is added, removed or moved. -/
structure Relinks (t relinked : Topology) (change : String → NetworkRecord → NetworkRecord)
    : Prop where
  ascending : Ascending t.records → Ascending relinked.records
  found : ∀ name, relinked.get? name = (t.get? name).map (PortRecord.mapNetwork (change name))

namespace Relinks

/-- A topology relinks to itself without a change. -/
theorem refl (t : Topology)
    : Relinks t t fun _ r => r where
  ascending := id
  found := by intro name; cases t.get? name <;> simp

/-- Two passes make one that does both changes in turn. -/
theorem trans {t middle relinked : Topology} {first second : String → NetworkRecord → NetworkRecord}
    (earlier : Relinks t middle first) (later : Relinks middle relinked second)
    : Relinks t relinked fun name r => second name (first name r) where
  ascending := fun ordered => later.ascending (earlier.ascending ordered)
  found := by
    intro name
    rw [later.found, earlier.found, Option.map_map]
    congr 1
    funext record
    exact PortRecord.mapNetwork_mapNetwork _ _ record

theorem congr {t relinked : Topology} {change other : String → NetworkRecord → NetworkRecord}
    (pass : Relinks t relinked change) (same : ∀ name r, change name r = other name r)
    : Relinks t relinked other := by
  have equal : change = other := funext fun name => funext fun r => same name r
  exact equal ▸ pass

/-- An update of one network port is a pass. -/
theorem updateNetwork {change : NetworkRecord → NetworkRecord}
    (keeps : ∀ r, (change r).port = r.port) (t : Topology) (target : String)
    : Relinks t (t.updateNetwork target change)
        fun name r => if name = target then change r else r where
  ascending := Ascending.updateNetwork keeps target
  found := by
    intro name
    rw [get?_updateNetwork keeps]
    by_cases same : name = target
    · simp [same]
    · simp only [same, if_false]
      cases t.get? name <;> simp

/-- A pass adds no network port and removes none. -/
theorem isNetwork {t relinked : Topology} {change : String → NetworkRecord → NetworkRecord}
    (pass : Relinks t relinked change)
    : relinked.isNetwork = t.isNetwork := by
  funext name
  rw [Topology.isNetwork, network?, pass.found, Topology.isNetwork, network?]
  cases t.get? name with
  | none => rfl
  | some record => cases record <;> rfl

/-- Steps that are passes as long as the network ports stay the same make one pass. Induction
on the items, where each step keeps the network ports.
-/
theorem foldl {σ α : Type} {topology : σ → Topology} {step : σ → α → σ}
    {change : α → String → NetworkRecord → NetworkRecord} {networks : String → Bool}
    (each
      : ∀ s a, (topology s).isNetwork = networks →
          Relinks (topology s) (topology (step s a)) (change a))
    (items : List α) (s : σ) (start : (topology s).isNetwork = networks)
    : Relinks (topology s) (topology (items.foldl step s))
        fun name r => items.foldl (fun r a => change a name r) r := by
  induction items generalizing s with
  | nil => exact refl _
  | cons a rest ih =>
      have head := each s a start
      exact head.trans (ih (step s a) (head.isNetwork.trans start))

end Relinks

-----------------------------------------------------------------------------------------
-- What is found and what is held
-----------------------------------------------------------------------------------------

theorem get?_of_mem {t : Topology} (ascending : Ascending t.records) {record : PortRecord}
    (member : record ∈ t.records)
    : t.get? record.name = some record := by
  obtain ⟨before, after, split⟩ := List.append_of_mem member
  have below : ∀ r ∈ before, r.name < record.name := by
    intro r earlier
    rw [Ascending, split, List.pairwise_append] at ascending
    exact ascending.2.2 r earlier record (by simp)
  have absent : before.find? (fun r => r.name = record.name) = none := by
    refine List.find?_eq_none.mpr ?_
    intro r earlier
    have ne : r.name ≠ record.name := fun same =>
      String.lt_irrefl record.name (by simpa [same] using below r earlier)
    simpa using ne
  rw [get?, split, List.find?_append, absent]
  simp

theorem mem_names_iff (t : Topology) (name : String)
    : name ∈ t.names ↔ (t.get? name).isSome := by
  simp [names, get?]

/-- Topologies in order have related records in their order if they have related records at all
names.
-/
theorem forall₂_of_get? {t other : Topology} {r : PortRecord → PortRecord → Prop}
    (ascending : Ascending t.records) (also : Ascending other.records)
    (related : ∀ name, Option.Rel r (t.get? name) (other.get? name))
    : List.Forall₂ r t.records other.records := by
  let named (t : Topology) : List (String × PortRecord) := t.records.map fun r => (r.name, r)
  have keys (t : Topology) : Keyed.keys (named t) = t.names := by
    simp [Keyed.keys, named, names]
  have inOrder {t : Topology} (ascending : Ascending t.records) : Keyed.Ascending (named t) := by
    rw [Keyed.Ascending, keys, names]
    exact List.pairwise_map.mpr ascending
  have same : Keyed.keys (named t) = Keyed.keys (named other) := by
    refine (inOrder ascending).keys_eq (inOrder also) ?_
    intro name
    rw [keys, keys, mem_names_iff, mem_names_iff]
    have pair := related name
    generalize t.get? name = here, other.get? name = there at pair ⊢
    cases pair with
    | none => rfl
    | some _ => exact iff_of_true rfl rfl
  have each
      : ∀ name record partner, (name, record) ∈ named t → (name, partner) ∈ named other →
          r record partner := by
    intro name record partner held found
    obtain ⟨_, member, ⟨⟩⟩ := List.mem_map.mp held
    obtain ⟨_, alsoMember, same⟩ := List.mem_map.mp found
    obtain ⟨sameName, rfl⟩ := Prod.mk.inj same
    have pair := related record.name
    rw [get?_of_mem ascending member, ← sameName, get?_of_mem also alsoMember] at pair
    cases pair with
    | some holds => exact holds
  have pairs := Keyed.forall₂_of_keys_eq same each
  rw [List.forall₂_map_left_iff, List.forall₂_map_right_iff] at pairs
  exact pairs.imp fun _ _ both => both.2

/-- Topologies in order are the same if they have the same records at all names. -/
theorem eq_of_get? {t other : Topology} (ascending : Ascending t.records)
    (also : Ascending other.records) (same : ∀ name, t.get? name = other.get? name)
    : t = other := by
  have related : ∀ name, Option.Rel (· = ·) (t.get? name) (other.get? name) := by
    intro name
    rw [same]
    cases other.get? name with
    | none => exact .none
    | some _ => exact .some rfl
  have records := forall₂_of_get? ascending also related
  rw [List.forall₂_eq_eq_eq] at records
  cases t
  cases other
  exact congrArg Topology.mk records

/-- A network record of an ordered topology is found at its port's name. -/
theorem get?_of_mem_networks {t : Topology} (ascending : Ascending t.records)
    {record : NetworkRecord} (member : record ∈ t.networks)
    : t.get? record.port.name = some (.network record) := by
  obtain ⟨held, inRecords, isRecord⟩ := List.mem_filterMap.mp member
  cases held with
  | network r =>
      cases isRecord
      exact get?_of_mem ascending inRecords
  | degree r => cases isRecord

theorem get?_of_mem_degrees {t : Topology} (ascending : Ascending t.records)
    {record : DegreeRecord} (member : record ∈ t.degrees)
    : t.get? record.port.name = some (.degree record) := by
  obtain ⟨held, inRecords, isRecord⟩ := List.mem_filterMap.mp member
  cases held with
  | network r => cases isRecord
  | degree r =>
      cases isRecord
      exact get?_of_mem ascending inRecords

end Topology

end Lightpath
