import Lightpath.Proofs.Json.Members
import Lightpath.Telemetry.Sample

/-!
Which samples are found in a document. Of the entries about a resource only the first is looked at,
and of the measurements of an item only the first, while the items of an entry are gone through
until one gives a sample. So a sample that is found is in the document, but one that is behind an
entry or a measurement without a value is not found.
-/

namespace Lightpath

-----------------------------------------------------------------------------------------
-- Lists in documents
-----------------------------------------------------------------------------------------

namespace Json

/-- A value has a field of the name with the part in its list. -/
def Lists (v : Json) (name : String) (part : Json)
    : Prop :=
  ∃ list, v.field? name = some list ∧ part ∈ list.asList

/-- A value has a field of the name with the part at the head of its list. -/
def Heads (v : Json) (name : String) (part : Json)
    : Prop :=
  ∃ list, v.field? name = some list ∧ list.asList.head? = some part

theorem Heads.lists {v part : Json} {name : String} (heads : v.Heads name part)
    : v.Lists name part := by
  obtain ⟨list, found, first⟩ := heads
  exact ⟨list, found, List.mem_of_mem_head? first⟩

/-- In a list of one item at most, each item is at the head. -/
theorem head?_of_mem {list : List Json} {item : Json} (short : list.length ≤ 1)
    (member : item ∈ list)
    : list.head? = some item := by
  match list with
  | [] => cases member
  | [_] =>
      rw [List.mem_singleton.mp member]
      rfl
  | _ :: _ :: _ => simp at short

/-- The first item of a list that has a property. -/
def IsFirst (has : Json → Prop) (list : List Json) (item : Json)
    : Prop :=
  ∃ before after, list = before ++ item :: after ∧ has item ∧ ∀ other ∈ before, ¬ has other

theorem find?_eq_some_iff_isFirst {has : Json → Prop} {test : Json → Bool}
    (decides : ∀ item, test item = true ↔ has item) {list : List Json} {item : Json}
    : list.find? test = some item ↔ IsFirst has list item := by
  simp only [List.find?_eq_some_iff_append, IsFirst, decides, Bool.not_eq_true',
    ← Bool.not_eq_true]
  constructor
  · rintro ⟨passes, before, after, parts, fail⟩
    exact ⟨before, after, parts, passes, fail⟩
  · rintro ⟨before, after, parts, passes, fail⟩
    exact ⟨passes, before, after, parts, fail⟩

theorem IsFirst.mem {has : Json → Prop} {list : List Json} {item : Json}
    (first : IsFirst has list item)
    : item ∈ list := by
  obtain ⟨before, after, rfl, -⟩ := first
  exact List.mem_append_right _ List.mem_cons_self

theorem IsFirst.holds {has : Json → Prop} {list : List Json} {item : Json}
    (first : IsFirst has list item)
    : has item := by
  obtain ⟨-, -, -, holds, -⟩ := first
  exact holds

end Json

namespace PmSample

open Json (IsFirst)

-----------------------------------------------------------------------------------------
-- What a document offers
-----------------------------------------------------------------------------------------

/-- An entry is about a resource: it states the instance path, and no other type. -/
structure About (resource : ResourceId) (entry : Json)
    : Prop where
  instancePath : entry.textField? "pm-resource-instance" = some resource.instancePath
  type : ∀ type ∈ entry.textField? "pm-resource-type", type = resource.type.word

theorem isAbout_iff {resource : ResourceId} {entry : Json}
    : isAbout resource entry = true ↔ About resource entry := by
  rw [isAbout, Bool.and_eq_true, decide_eq_true_iff]
  constructor
  · rintro ⟨typed, path⟩
    refine ⟨path, ?_⟩
    intro type stated
    rw [Option.mem_def.mp stated] at typed
    exact of_decide_eq_true typed
  · rintro ⟨path, typed⟩
    refine ⟨?_, path⟩
    split
    · rename_i type stated
      exact decide_eq_true (typed type stated)
    · rfl

theorem find?_isAbout_iff {resource : ResourceId} {list : List Json} {entry : Json}
    : list.find? (isAbout resource) = some entry ↔ IsFirst (About resource) list entry :=
  Json.find?_eq_some_iff_isFirst fun _ => isAbout_iff

/-- A sample is that of a resource which an item and a measurement of it describe. -/
structure Describes (resource : ResourceId) (item measurement : Json) (s : PmSample)
    : Prop where
  resource : s.resource = resource
  type : item.textField? "type" = some s.type
  value : (measurement.field? "pmParameterValue").map valueText = some s.value
  extension : s.extension = item.textField? "extension"
  location : s.location = item.textField? "location"
  direction : s.direction = item.textField? "direction"
  granularity : s.granularity = measurement.textField? "granularity"
  unit : s.unit = measurement.textField? "pmParameterUnit"
  validity : s.validity = measurement.textField? "validity"

/-- An item and a measurement describe a sample if they have a type and a value. -/
theorem exists_describes_iff {resource : ResourceId} {item measurement : Json}
    : (∃ s, Describes resource item measurement s)
      ↔ (item.textField? "type").isSome ∧ (measurement.field? "pmParameterValue").isSome := by
  constructor
  · rintro ⟨s, described⟩
    refine ⟨by rw [described.type]; rfl, ?_⟩
    rw [← Option.isSome_map (f := valueText), described.value]
    rfl
  · rintro ⟨typed, valued⟩
    obtain ⟨type, typed⟩ := Option.isSome_iff_exists.mp typed
    obtain ⟨value, valued⟩ := Option.isSome_iff_exists.mp valued
    exact ⟨⟨resource, type, _, _, _, _, valueText value, _, _⟩,
      rfl, typed, by rw [valued]; rfl, rfl, rfl, rfl, rfl, rfl, rfl⟩

/-- A document offers a sample of a resource: some entry about it has the sample in an item. -/
def Offers (document : Json) (resource : ResourceId) (s : PmSample)
    : Prop :=
  ∃ list entry item measurement,
    entries? document = some list
    ∧ entry ∈ list.asList
    ∧ About resource entry
    ∧ entry.Lists "current-pm" item
    ∧ item.Lists "measurement" measurement
    ∧ Describes resource item measurement s

/-- One entry at most is about the resource, and no item of it has two measurements. -/
structure Single (document : Json) (resource : ResourceId)
    : Prop where
  entries
    : ∀ list,
        entries? document = some list → (list.asList.filter (isAbout resource)).length ≤ 1
  measurements
    : ∀ list entry item measurements,
        entries? document = some list
        → entry ∈ list.asList
        → About resource entry
        → entry.Lists "current-pm" item
        → item.field? "measurement" = some measurements
        → measurements.asList.length ≤ 1

-----------------------------------------------------------------------------------------
-- What is found
-----------------------------------------------------------------------------------------

/-- An item gives the sample that it describes with its first measurement. -/
theorem ofItem?_eq_some_iff {resource : ResourceId} {item : Json} {s : PmSample}
    : ofItem? resource item = some s
      ↔ ∃ measurement,
          item.Heads "measurement" measurement ∧ Describes resource item measurement s := by
  simp only [ofItem?, Option.bind_eq_bind, Option.bind_eq_some_iff, Option.some_inj]
  constructor
  · rintro ⟨list, listed, measurement, first, value, valued, type, typed, rfl⟩
    refine ⟨measurement, ⟨list, listed, first⟩, ?_⟩
    exact ⟨rfl, typed, by rw [valued]; rfl, rfl, rfl, rfl, rfl, rfl, rfl⟩
  · rintro ⟨measurement, ⟨list, listed, first⟩, described⟩
    obtain ⟨value, valued, text⟩ := Option.map_eq_some_iff.mp described.value
    refine ⟨list, listed, measurement, first, value, valued, s.type, described.type, ?_⟩
    rw [text, ← described.resource, ← described.extension, ← described.location,
      ← described.direction, ← described.granularity, ← described.unit, ← described.validity]

/-- An item gives a sample: it has a type, and its first measurement has a value. -/
def Usable (item : Json)
    : Prop :=
  (item.textField? "type").isSome
  ∧ ∃ measurement,
      item.Heads "measurement" measurement ∧ (measurement.field? "pmParameterValue").isSome

theorem isSome_ofItem?_iff {resource : ResourceId} {item : Json}
    : (ofItem? resource item).isSome = true ↔ Usable item := by
  rw [Option.isSome_iff_exists, Usable]
  simp only [ofItem?_eq_some_iff]
  rw [exists_comm]
  simp only [exists_and_left, exists_describes_iff]
  constructor
  · rintro ⟨measurement, first, typed, valued⟩
    exact ⟨typed, measurement, first, valued⟩
  · rintro ⟨typed, measurement, first, valued⟩
    exact ⟨measurement, first, typed, valued⟩

/-- What is found is what the first usable item of the first entry describes with its first
measurement.
-/
theorem find?_eq_some_iff {document : Json} {resource : ResourceId} {s : PmSample}
    : find? document resource = some s
      ↔ ∃ list entry items item measurement,
          entries? document = some list
          ∧ IsFirst (About resource) list.asList entry
          ∧ entry.field? "current-pm" = some items
          ∧ IsFirst Usable items.asList item
          ∧ item.Heads "measurement" measurement
          ∧ Describes resource item measurement s := by
  simp only [find?, Option.bind_eq_bind, Option.bind_eq_some_iff, find?_isAbout_iff,
    List.findSome?_eq_some_iff]
  constructor
  · rintro ⟨list, listed, entry, first, items, found, before, item, after, parts, given, passed⟩
    have useless : ∀ other ∈ before, ¬ Usable other := by
      intro other member usable
      have gives : (ofItem? resource other).isSome = true := isSome_ofItem?_iff.mpr usable
      rw [passed other member] at gives
      cases gives
    have usable : Usable item := isSome_ofItem?_iff.mp (Option.isSome_of_eq_some given)
    obtain ⟨measurement, head, described⟩ := ofItem?_eq_some_iff.mp given
    exact ⟨list, entry, items, item, measurement, listed, first, found,
      ⟨before, after, parts, usable, useless⟩, head, described⟩
  · rintro ⟨list, entry, items, item, measurement, listed, first, found,
      ⟨before, after, parts, -, useless⟩, head, described⟩
    refine ⟨list, listed, entry, first, items, found, before, item, after, parts, ?_, ?_⟩
    · exact ofItem?_eq_some_iff.mpr ⟨measurement, head, described⟩
    · intro other member
      rw [← Option.not_isSome_iff_eq_none, isSome_ofItem?_iff]
      exact useless other member

/-- What is found is in the document. -/
theorem offers_of_find? {document : Json} {resource : ResourceId} {s : PmSample}
    (found : find? document resource = some s)
    : Offers document resource s := by
  obtain ⟨list, entry, items, item, measurement, listed, first, field, usable, head, described⟩ :=
    find?_eq_some_iff.mp found
  exact ⟨list, entry, item, measurement, listed, first.mem, first.holds,
    ⟨items, field, usable.mem⟩, head.lists, described⟩

/-- The only entry about a resource is the one that is looked at. -/
theorem isFirst_of_single {resource : ResourceId} {list : List Json} {entry : Json}
    (single : (list.filter (isAbout resource)).length ≤ 1) (member : entry ∈ list)
    (about : About resource entry)
    : IsFirst (About resource) list entry := by
  have kept : entry ∈ list.filter (isAbout resource) :=
    List.mem_filter.mpr ⟨member, isAbout_iff.mpr about⟩
  rw [← find?_isAbout_iff, ← List.head?_filter]
  exact Json.head?_of_mem single kept

/-- A sample is found exactly if some item of the first entry is usable. -/
theorem isSome_find?_iff {document : Json} {resource : ResourceId}
    : (find? document resource).isSome = true
      ↔ ∃ list entry item,
          entries? document = some list
          ∧ IsFirst (About resource) list.asList entry
          ∧ entry.Lists "current-pm" item
          ∧ Usable item := by
  constructor
  · intro found
    obtain ⟨s, found⟩ := Option.isSome_iff_exists.mp found
    obtain ⟨list, entry, items, item, -, listed, first, field, usable, -⟩ :=
      find?_eq_some_iff.mp found
    exact ⟨list, entry, item, listed, first, ⟨items, field, usable.mem⟩, usable.holds⟩
  · rintro ⟨list, entry, item, listed, first, ⟨items, field, among⟩, usable⟩
    have looked : list.asList.find? (isAbout resource) = some entry := find?_isAbout_iff.mpr first
    have answer : find? document resource = items.asList.findSome? (ofItem? resource) := by
      simp [find?, listed, looked, field]
    rw [answer, List.findSome?_isSome_iff]
    exact ⟨item, among, isSome_ofItem?_iff.mpr usable⟩

/-- Where nothing has to be chosen, a sample that is in the document is found. -/
theorem isSome_find?_of_single {document : Json} {resource : ResourceId} {s : PmSample}
    (single : Single document resource) (offers : Offers document resource s)
    : (find? document resource).isSome = true := by
  obtain ⟨list, entry, item, measurement, listed, member, about, within, lists, described⟩ := offers
  have first : IsFirst (About resource) list.asList entry :=
    isFirst_of_single (single.entries list listed) member about
  obtain ⟨measurements, measured, part⟩ := lists
  have short : measurements.asList.length ≤ 1 :=
    single.measurements list entry item measurements listed member about within measured
  obtain ⟨typed, valued⟩ := exists_describes_iff.mp ⟨s, described⟩
  have usable : Usable item :=
    ⟨typed, measurement, ⟨measurements, measured, Json.head?_of_mem short part⟩, valued⟩
  exact isSome_find?_iff.mpr ⟨list, entry, item, listed, first, within, usable⟩

/-- The sample of a resource is what the first usable item of the first entry about it describes
with its first measurement. So it is always in the document, and described by an item with a type
and a measurement with a value. A sample that the document has is found exactly if that first entry
has a usable item, and always so if there is no second entry and no second measurement.
-/
theorem find?_looks_at_first_entry (document : Json) (resource : ResourceId)
    : (∀ s,
        find? document resource = some s
        ↔ ∃ list entry items item measurement,
            entries? document = some list
            ∧ IsFirst (About resource) list.asList entry
            ∧ entry.field? "current-pm" = some items
            ∧ IsFirst Usable items.asList item
            ∧ item.Heads "measurement" measurement
            ∧ Describes resource item measurement s)
      ∧ (∀ s, find? document resource = some s → Offers document resource s)
      ∧ (∀ item measurement,
          (∃ s, Describes resource item measurement s)
          ↔ (item.textField? "type").isSome
            ∧ (measurement.field? "pmParameterValue").isSome)
      ∧ (((find? document resource).isSome = true ↔ ∃ s, Offers document resource s)
        ↔ ((∃ s, Offers document resource s)
          → ∃ list entry item,
              entries? document = some list
              ∧ IsFirst (About resource) list.asList entry
              ∧ entry.Lists "current-pm" item
              ∧ Usable item))
      ∧ (Single document resource
        → ((find? document resource).isSome = true ↔ ∃ s, Offers document resource s)) := by
  have sound : (find? document resource).isSome = true → ∃ s, Offers document resource s := by
    intro found
    obtain ⟨s, found⟩ := Option.isSome_iff_exists.mp found
    exact ⟨s, offers_of_find? found⟩
  refine ⟨fun s => find?_eq_some_iff, fun s => offers_of_find?,
    fun item measurement => exists_describes_iff, ?_, ?_⟩
  · rw [← isSome_find?_iff]
    exact ⟨fun same => same.mpr, fun complete => ⟨sound, complete⟩⟩
  · intro single
    refine ⟨sound, ?_⟩
    rintro ⟨s, offers⟩
    exact isSome_find?_of_single single offers

-----------------------------------------------------------------------------------------
-- Documents with several entries or measurements
-----------------------------------------------------------------------------------------

/-- A measurement with a value or without one. -/
def measurementOf (valued : Bool)
    : Json :=
  if valued then Json.ofMembers [("pmParameterValue", .string "0")] else Json.ofMembers []

/-- An item with measurements that have a value or not. -/
def itemOf (valued : List Bool)
    : Json :=
  Json.ofMembers [
    ("type", .string "erroredSeconds"),
    ("measurement", .array (valued.map measurementOf))]

/-- An entry about a resource with items, each with measurements that have a value or not. -/
def entryOf (resource : ResourceId) (items : List (List Bool))
    : Json :=
  Json.ofMembers [
    ("pm-resource-instance", .string resource.instancePath),
    ("current-pm", .array (items.map itemOf))]

/-- A document with entries about a resource. -/
def documentOf (resource : ResourceId) (entries : List (List (List Bool)))
    : Json :=
  Json.ofMembers [("current-pm-entry", .array (entries.map (entryOf resource)))]

theorem entries?_documentOf (resource : ResourceId) (entries : List (List (List Bool)))
    : entries? (documentOf resource entries)
      = some (.array (entries.map (entryOf resource))) := by
  rw [documentOf, entries?, Json.unwrapData_single (by decide), Json.field?_single,
    if_neg (by decide), Json.field?_single, if_pos (by decide)]
  rfl

theorem about_entryOf (resource : ResourceId) (items : List (List Bool))
    : About resource (entryOf resource items) := by
  refine ⟨Json.textField?_ofMembers rfl, ?_⟩
  intro type stated
  have untyped : (entryOf resource items).field? "pm-resource-type" = none :=
    Json.field?_ofMembers_none (by simp; decide)
  rw [Option.mem_def, Json.textField?, untyped] at stated
  cases stated

theorem field?_entryOf (resource : ResourceId) (items : List (List Bool))
    : (entryOf resource items).field? "current-pm" = some (.array (items.map itemOf)) :=
  Json.field?_ofMembers rfl

theorem field?_itemOf (valued : List Bool)
    : (itemOf valued).field? "measurement" = some (.array (valued.map measurementOf)) :=
  Json.field?_ofMembers rfl

/-- The document offers a sample wherever in it a measurement has a value. -/
theorem exists_offers_documentOf {resource : ResourceId} {entries : List (List (List Bool))}
    (items : List (List Bool)) (valued : List Bool) (entry : items ∈ entries)
    (item : valued ∈ items) (measured : true ∈ valued)
    : ∃ s, Offers (documentOf resource entries) resource s := by
  have described : ∃ s, Describes resource (itemOf valued) (measurementOf true) s := by
    refine exists_describes_iff.mpr ⟨?_, by decide +kernel⟩
    rw [itemOf, Json.textField?_ofMembers rfl]
    rfl
  obtain ⟨s, described⟩ := described
  exact ⟨s, _, _, _, _, entries?_documentOf resource entries, List.mem_map_of_mem entry,
    about_entryOf resource items,
    ⟨_, field?_entryOf resource items, List.mem_map_of_mem item⟩,
    ⟨_, field?_itemOf valued, List.mem_map_of_mem measured⟩, described⟩

/-- A document of one entry, with one measurement in each item, leaves nothing to choose. -/
theorem single_documentOf {resource : ResourceId} {items : List (List Bool)}
    (short : ∀ valued ∈ items, valued.length ≤ 1)
    : Single (documentOf resource [items]) resource := by
  refine ⟨?_, ?_⟩
  · intro list listed
    rw [entries?_documentOf] at listed
    cases listed
    exact List.length_filter_le _ _
  · rintro list entry item measurements listed member - ⟨found, field, among⟩ measured
    rw [entries?_documentOf] at listed
    cases listed
    cases List.mem_singleton.mp member
    rw [field?_entryOf] at field
    cases field
    obtain ⟨valued, inItems, rfl⟩ := List.mem_map.mp among
    rw [field?_itemOf] at measured
    cases measured
    rw [Json.asList, List.length_map]
    exact short valued inItems

/-- The sample of a document with one entry is found behind an item that has none. -/
theorem find?_looks_at_first_entry_single
    : let resource := ResourceId.interface "OTU"
      let document := documentOf resource [[[], [true]]]
      Single document resource ∧ (find? document resource).isSome = true := by
  intro resource document
  have single : Single document resource := single_documentOf (by decide)
  obtain ⟨-, -, -, -, found_iff⟩ := find?_looks_at_first_entry document resource
  exact ⟨single, (found_iff single).mpr
    (exists_offers_documentOf [[], [true]] [true] (by decide) (by decide) (by decide))⟩

/-- A sample in the second entry about a resource is not found behind an entry without items, nor
one in the second measurement of an item behind a measurement without a value.
-/
theorem find?_misses_later_sample
    : let resource := ResourceId.interface "OTU"
      let laterEntry := documentOf resource [[], [[true]]]
      let laterMeasurement := documentOf resource [[[false, true]]]
      ((∃ s, Offers laterEntry resource s) ∧ find? laterEntry resource = none)
      ∧ (∃ s, Offers laterMeasurement resource s) ∧ find? laterMeasurement resource = none := by
  intro resource laterEntry laterMeasurement
  have inEntry : ∃ s, Offers laterEntry resource s :=
    exists_offers_documentOf [[true]] [true] (by decide) (by decide) (by decide)
  have inMeasurement : ∃ s, Offers laterMeasurement resource s :=
    exists_offers_documentOf [[false, true]] [false, true] (by decide) (by decide) (by decide)
  exact ⟨⟨inEntry, by decide +kernel⟩, inMeasurement, by decide +kernel⟩

end PmSample

end Lightpath
