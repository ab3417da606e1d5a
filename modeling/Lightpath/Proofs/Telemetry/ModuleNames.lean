import Lightpath.Proofs.Json.Requalified
import Lightpath.Proofs.Json.WrittenRecords
import Lightpath.Telemetry.Alarm
import Lightpath.Telemetry.Sample

/-!
What is read of telemetry depends neither on the modules before the names of members nor on a
wrapper around the document. Fields are found in alike documents at every level, and the resource of
an alarm, whose names are stripped of their modules first, is the one that its only member describes.
-/

namespace Lightpath

-----------------------------------------------------------------------------------------
-- The resource of an alarm
-----------------------------------------------------------------------------------------

namespace Json

theorem membersWithLocalNames_eq (members : List (String × Json))
    : membersWithLocalNames members = members.map fun m => (localName m.1, withLocalNames m.2) := by
  induction members with
  | nil => rfl
  | cons m rest ih => rw [membersWithLocalNames, ih, List.map_cons]

theorem withLocalNames_object (members : List (String × Json))
    : withLocalNames (.object members)
      = ofMembers (members.map fun m => (localName m.1, withLocalNames m.2)) := by
  rw [withLocalNames, membersWithLocalNames_eq]

theorem withLocalNames_of_not_object {v : Json} (single : v.isObject = false)
    : v.withLocalNames = v := by
  cases v with
  | object members => cases single
  | null | bool _ | number _ | string _ | array _ => rfl

/-- A text stays the text that it is when modules are stripped, and nothing becomes one. -/
theorem string?_withLocalNames (v : Json)
    : v.withLocalNames.string? = v.string? := by
  cases v with
  | object members => rw [withLocalNames_object]; rfl
  | null | bool _ | number _ | string _ | array _ => rfl

theorem keys_stripped (members : List (String × Json))
    : Keyed.keys (members.map fun m => (localName m.1, withLocalNames m.2))
      = localNames members := by
  simp [Keyed.keys, localNames]

/-- A stripped object has the member of a local name that is found in the object itself. -/
theorem get?_withLocalNames {members : List (String × Json)}
    (distinct : (localNames members).Nodup) {name : String} (bare : localName? name = none)
    : (withLocalNames (.object members)).get? name
      = ((object members).field? name).map withLocalNames := by
  -- local names that differ stay different keys, so that no member replaces another one
  let stripped := members.map fun m => (localName m.1, withLocalNames m.2)
  have keys : Keyed.keys stripped = localNames members := keys_stripped members
  have apart : (Keyed.keys stripped).Nodup := by
    rw [keys]
    exact distinct
  rw [withLocalNames_object, ofMembers, get?, Keyed.lookup_ofList_of_nodup apart]
  cases found : (object members).field? name with
  | some v =>
      obtain ⟨m, member, rfl, rfl⟩ := mem_of_field? bare found
      exact Keyed.lookup_of_mem apart (List.mem_map.mpr ⟨m, member, rfl⟩)
  | none =>
      rw [Option.map_none, ← Option.not_isSome_iff_eq_none, Keyed.isSome_lookup, keys]
      exact not_mem_localNames found

end Json

namespace ResourceId

open Json (localName localName? localNames DistinctLocally)

/-- The resource of a sort that the texts in an object name. -/
def named? (sort : String) (content : Json)
    : Option ResourceId :=
  if sort = "interface" then do
    some (.interface (← content.textField? "interface-name"))
  else if sort = "port" then do
    some (.port (← content.textField? "circuit-pack-name") (← content.textField? "port-name"))
  else none

/-- A field of a stripped object is read as the text that is found in the object itself. -/
theorem required_withLocalNames {members : List (String × Json)}
    (distinct : (localNames members).Nodup) (name : String)
    (bare : localName? name = none := by decide)
    : JsonRecord.required
        ⟨Keyed.ofList (members.map fun m => (localName m.1, m.2.withLocalNames))⟩ name Json.string?
      = (Json.object members).textField? name := by
  have stripped := Json.get?_withLocalNames distinct bare
  rw [Json.withLocalNames_object] at stripped
  rw [JsonRecord.required, JsonRecord.value?_ofList, Json.textField?]
  change (Keyed.ofList _).lookup name = _ at stripped
  rw [stripped]
  cases (Json.object members).field? name with
  | none => rfl
  | some v => exact Json.string?_withLocalNames v

theorem ofJson?_of_other_sort {sort : String} (interface : sort ≠ "interface")
    (port : sort ≠ "port") {content : Json}
    : ofJson? (.object [(sort, content)]) = none := by
  unfold ofJson?
  split
  · rename_i same
    simp [interface] at same
  · rename_i same
    simp [port] at same
  · rfl

/-- The only member of an object without modules describes the resource that its texts name. -/
theorem ofJson?_withLocalNames_single {m : String × Json} (distinct : DistinctLocally m.2)
    : ofJson? (Json.object [m]).withLocalNames = named? (localName m.1) m.2 := by
  obtain ⟨name, content⟩ := m
  rw [Json.withLocalNames_object]
  change ofJson? (.object [(localName name, content.withLocalNames)]) = _
  cases content with
  | object members =>
      obtain ⟨distinct, -⟩ := Json.everywhere_object.mp distinct
      rw [Json.withLocalNames_object, named?,
        ← required_withLocalNames distinct "interface-name",
        ← required_withLocalNames distinct "circuit-pack-name",
        ← required_withLocalNames distinct "port-name"]
      by_cases interface : localName name = "interface"
      · rw [if_pos interface, interface]
        rfl
      · by_cases port : localName name = "port"
        · rw [if_neg interface, if_pos port, port]
          rfl
        · rw [if_neg interface, if_neg port]
          exact ofJson?_of_other_sort interface port
  | null | bool _ | number _ | string _ | array _ =>
      rw [Json.withLocalNames_of_not_object rfl]
      simp [named?, ofJson?, Json.textField?, Json.field?]

theorem ofJson?_eq_none {members : List (String × Json)} (several : members.length ≠ 1)
    : ofJson? (.object members) = none := by
  unfold ofJson?
  split
  · rename_i same
    cases same
    exact absurd rfl several
  · rename_i same
    cases same
    exact absurd rfl several
  · rfl

/-- Stripping the modules of different local names leaves as many members, so that an object with
several of them describes no resource.
-/
theorem ofJson?_withLocalNames_eq_none {members : List (String × Json)}
    (distinct : (localNames members).Nodup) (several : members.length ≠ 1)
    : ofJson? (Json.object members).withLocalNames = none := by
  rw [Json.withLocalNames_object, Json.ofMembers]
  apply ofJson?_eq_none
  rw [Keyed.length_ofList_of_nodup]
  · simpa using several
  · rw [Json.keys_stripped]
    exact distinct

/-- Alike documents describe the same resource when their modules are stripped. -/
theorem ofJson?_withLocalNames_congr {p : List (String × Json) → Prop} {v w : Json}
    (alike : Json.Alike p v w)
    : ofJson? v.withLocalNames = ofJson? w.withLocalNames := by
  cases alike.requalified with
  | plain single scalar => rfl
  | array each => rfl
  | object names values order =>
      obtain ⟨m, n, rfl, rfl, named, content⟩ | ⟨several, several'⟩ := alike.onlyMember
      · rw [ofJson?_withLocalNames_single content.distinct,
          ofJson?_withLocalNames_single content.distinct', named, named?, named?,
          content.textField? "interface-name",
          content.textField? "circuit-pack-name",
          content.textField? "port-name"]
      · rw [ofJson?_withLocalNames_eq_none (Json.everywhere_object.mp alike.distinct).1 several,
          ofJson?_withLocalNames_eq_none (Json.everywhere_object.mp alike.distinct').1 several']

end ResourceId

-----------------------------------------------------------------------------------------
-- Alarms
-----------------------------------------------------------------------------------------

namespace Alarm

variable {p : List (String × Json) → Prop} {v w : Json}

/-- Alike items hold the same alarm. -/
theorem ofItem?_congr (alike : Json.Alike p v w)
    : ofItem? v = ofItem? w := by
  have resource := alike.field? "resource"
  have resourceType
      : (v.field? "resource").bind
          (fun r => (r.field? "resourceType").bind (·.textField? "type"))
        = (w.field? "resource").bind
          fun r => (r.field? "resourceType").bind (·.textField? "type") := by
    apply Json.Alike.bind_eq resource
    intro r r' alike
    apply Json.Alike.bind_eq (alike.field? "resourceType")
    intro type type' alike
    exact alike.textField? "type"
  have identity
      : (v.field? "resource").bind
          (fun r => (r.field? "resource").bind (ResourceId.ofJson? ·.withLocalNames))
        = (w.field? "resource").bind
          fun r => (r.field? "resource").bind (ResourceId.ofJson? ·.withLocalNames) := by
    apply Json.Alike.bind_eq resource
    intro r r' alike
    apply Json.Alike.bind_eq (alike.field? "resource")
    intro id id' alike
    exact ResourceId.ofJson?_withLocalNames_congr alike
  have cause
      : (v.field? "probableCause").bind (·.textField? "cause")
        = (w.field? "probableCause").bind (·.textField? "cause") :=
    Json.Alike.bind_eq (alike.field? "probableCause") fun _ _ cause => cause.textField? "cause"
  simp only [ofItem?, Option.bind_eq_bind, resourceType, identity, cause, alike.textField? "id",
    alike.textField? "severity", alike.textField? "raiseTime"]

/-- Alike documents hold the same alarms. -/
theorem list?_congr (alike : Json.Alike p v w)
    : list? v = list? w := by
  refine Json.Alike.bind_eq (alike.unwrapData.field? "active-alarm-list") ?_
  intro list list' alike
  have alarms := alike.field? "activeAlarms"
  generalize list.field? "activeAlarms" = found at alarms ⊢
  generalize list'.field? "activeAlarms" = found' at alarms ⊢
  cases alarms with
  | none => rfl
  | some alarms =>
      have same := Json.filterMap_eq alarms.asList fun _ _ item => ofItem?_congr item
      exact congrArg some same

end Alarm

-----------------------------------------------------------------------------------------
-- Samples
-----------------------------------------------------------------------------------------

namespace PmSample

open Json (Alike localName localName?)

/-- What the members of an object call a measured value is neither an object nor an array. -/
def ScalarValue (members : List (String × Json))
    : Prop :=
  ∀ m ∈ members, localName m.1 = "pmParameterValue" → m.2.isObject = false ∧ m.2.items? = none

variable {v w : Json}

/-- Alike measurements have the same value, as there are no names in it. -/
theorem value_congr (alike : Alike ScalarValue v w)
    : v.field? "pmParameterValue" = w.field? "pmParameterValue" := by
  have bare : localName? "pmParameterValue" = none := by decide
  have value := alike.field? "pmParameterValue" bare
  generalize w.field? "pmParameterValue" = found' at value ⊢
  cases v with
  | object members =>
      cases found : (Json.object members).field? "pmParameterValue" with
      | none =>
          rw [found] at value
          cases value
          rfl
      | some x =>
          rw [found] at value
          obtain ⟨m, member, named, rfl⟩ := Json.mem_of_field? bare found
          obtain ⟨single, scalar⟩ := (Json.everywhere_object.mp alike.holds).1 m member named
          cases value with
          | some value => rw [value.eq_of_scalar single scalar]
  | null | bool _ | number _ | string _ | array _ =>
      cases value
      rfl

/-- Alike items give the same sample. -/
theorem ofItem?_congr (resource : ResourceId) (alike : Alike ScalarValue v w)
    : ofItem? resource v = ofItem? resource w := by
  simp only [ofItem?, alike.textField? "type", alike.textField? "extension",
    alike.textField? "location", alike.textField? "direction"]
  refine Alike.bind_eq (alike.field? "measurement") ?_
  intro measurements measurements' alike
  refine Alike.bind_eq (Json.rel_head? alike.asList) ?_
  intro measurement measurement' alike
  simp only [value_congr alike, alike.textField? "granularity",
    alike.textField? "pmParameterUnit", alike.textField? "validity"]

variable {p : List (String × Json) → Prop}

theorem isAbout_congr (resource : ResourceId) (alike : Alike p v w)
    : isAbout resource v = isAbout resource w := by
  simp only [isAbout, alike.textField? "pm-resource-type",
    alike.textField? "pm-resource-instance"]

/-- Alike documents have alike lists of entries, inside the container or bare. -/
theorem entries?_congr (alike : Alike p v w)
    : Option.Rel (Alike p) (entries? v) (entries? w) := by
  have root := alike.unwrapData
  apply Alike.or
  · apply Alike.bind (root.field? "current-pm-list")
    intro list list' inner
    exact inner.field? "current-pm-entry"
  · exact root.field? "current-pm-entry"

/-- Alike documents have the same sample of a resource. -/
theorem find?_congr (resource : ResourceId) (alike : Alike ScalarValue v w)
    : find? v resource = find? w resource := by
  refine Alike.bind_eq (entries?_congr alike) ?_
  intro entries entries' alike
  refine Alike.bind_eq (Json.rel_find? alike.asList fun _ _ => isAbout_congr resource) ?_
  intro entry entry' alike
  refine Alike.bind_eq (alike.field? "current-pm") ?_
  intro items items' alike
  rw [← List.head?_filterMap, ← List.head?_filterMap,
    Json.filterMap_eq alike.asList fun _ _ => ofItem?_congr resource]

end PmSample

-----------------------------------------------------------------------------------------
-- Documents with other modules, and inside a wrapper
-----------------------------------------------------------------------------------------

namespace Telemetry

open Json (Requalified DistinctLocally Everywhere Alike localName)
open PmSample (ScalarValue)

/-- The content of a `data`, with a module or without, is read as the bare document is, unless that
is a `data` itself.
-/
theorem unwrapData_wrapped {d : Json} (bare : ∀ m, d = .object [m] → localName m.1 ≠ "data")
    {key : String} (wrapper : localName key = "data")
    : (Json.ofMembers [(key, d)]).unwrapData = d.unwrapData := by
  have inside : (Json.ofMembers [(key, d)]).unwrapData = d :=
    (Json.unwrapData_object_single (key, d)).trans (if_pos wrapper)
  rw [inside]
  cases d with
  | object members =>
      by_cases one : members.length = 1
      · obtain ⟨m, rfl⟩ := List.length_eq_one_iff.mp one
        rw [Json.unwrapData_object_single, if_neg (bare m rfl)]
      · rw [Json.unwrapData_of_length_ne one]
  | null | bool _ | number _ | string _ | array _ => rfl

/-- Alarms and samples are the same in documents that differ in the modules before names, which no
object has twice without them, and inside and outside of a `data`.
-/
theorem blind_to_modules_and_wrapper
    : (∀ d d',
        Requalified d d' → DistinctLocally d → DistinctLocally d'
          → Alarm.list? d' = Alarm.list? d
            ∧ (Everywhere ScalarValue d → ∀ r, PmSample.find? d' r = PmSample.find? d r))
      ∧ ∀ d key,
          (∀ m, d = .object [m] → localName m.1 ≠ "data") → localName key = "data"
            → Alarm.list? (Json.ofMembers [(key, d)]) = Alarm.list? d
              ∧ ∀ r, PmSample.find? (Json.ofMembers [(key, d)]) r = PmSample.find? d r := by
  constructor
  · intro d d' requalified distinct distinct'
    constructor
    · have alike : Alike (fun members => (Json.localNames members).Nodup) d d' :=
        ⟨requalified, distinct, distinct, distinct'⟩
      exact (Alarm.list?_congr alike).symm
    · intro scalar r
      exact (PmSample.find?_congr r ⟨requalified, scalar, distinct, distinct'⟩).symm
  · intro d key bare wrapper
    have inside := unwrapData_wrapped bare wrapper
    constructor
    · rw [Alarm.list?, Alarm.list?, inside]
    · intro r
      rw [PmSample.find?, PmSample.find?, PmSample.entries?, PmSample.entries?, inside]

/-- A list with one alarm, whose resource has the given name for its sort. -/
def alarmList (sort : String)
    : Json :=
  .object [("activeAlarms", .object [
    ("id", .string "A1"),
    ("resource", .object [
      ("resource", .object [(sort, .object [("interface-name", .string "OTU")])])])])]

/-- A list with one entry, whose measured value has the given name. -/
def sampleList (value : String)
    : Json :=
  .object [("current-pm-entry", .array [.object [
    ("current-pm", .object [
      ("measurement", .object [(value, .string "0")]),
      ("type", .string "erroredSeconds")]),
    ("pm-resource-instance", .string (ResourceId.interface "OTU").instancePath)]])]

/-- Both lists without modules. -/
def bareLists
    : Json :=
  .object [
    ("active-alarm-list", alarmList "interface"),
    ("current-pm-list", sampleList "pmParameterValue")]

/-- Both lists with modules, which turn their order around. -/
def qualifiedLists
    : Json :=
  .object [
    ("a:current-pm-list", sampleList "pm:pmParameterValue"),
    ("b:active-alarm-list", alarmList "device:interface")]

theorem requalified_lists
    : Requalified bareLists qualifiedLists := by
  have text (s : String) : Requalified (.string s) (.string s) := .plain rfl rfl
  have identity
      : Requalified (.object [("interface", .object [("interface-name", .string "OTU")])])
          (.object [("device:interface", .object [("interface-name", .string "OTU")])]) :=
    .in_order (by decide) (.cons (.in_order rfl (.cons (text _) .nil)) .nil)
  have alarm : Requalified (alarmList "interface") (alarmList "device:interface") :=
    .in_order rfl (.cons (.in_order rfl (.cons (text _)
      (.cons (.in_order rfl (.cons identity .nil)) .nil))) .nil)
  have measurement
      : Requalified (.object [("pmParameterValue", .string "0")])
          (.object [("pm:pmParameterValue", .string "0")]) :=
    .in_order (by decide) (.cons (text _) .nil)
  have sample : Requalified (sampleList "pmParameterValue") (sampleList "pm:pmParameterValue") :=
    .in_order rfl (.cons (.array (.cons (.in_order rfl (.cons
      (.in_order rfl (.cons measurement (.cons (text _) .nil))) (.cons (text _) .nil))) .nil)) .nil)
  exact .object (by decide) (.cons alarm (.cons sample .nil)) (.swap _ _ [])

/-- The lists are read alike with their modules and inside a `data` of one. -/
theorem blind_to_modules_and_wrapper_lists
    : (∀ m, bareLists = .object [m] → localName m.1 ≠ "data")
      ∧ localName "m:data" = "data"
      ∧ Alarm.list? bareLists
        = some [{ id := "A1", resourceType := none, resource := some (.interface "OTU") }]
      ∧ Alarm.list? qualifiedLists = Alarm.list? bareLists
      ∧ PmSample.find? qualifiedLists (.interface "OTU")
        = PmSample.find? bareLists (.interface "OTU")
      ∧ Alarm.list? (Json.ofMembers [("m:data", bareLists)]) = Alarm.list? bareLists := by
  have several : ∀ m, bareLists = .object [m] → localName m.1 ≠ "data" := by
    intro m same
    simp [bareLists] at same
  have wrapper : localName "m:data" = "data" := by decide
  have distinct : DistinctLocally bareLists := by
    simp only [DistinctLocally, bareLists, alarmList, sampleList, Json.everywhere_object,
      Json.everywhere_array, Json.everywhere_string, List.forall_mem_cons, List.not_mem_nil,
      false_implies, implies_true, and_true]
    decide +kernel
  have distinct' : DistinctLocally qualifiedLists := by
    simp only [DistinctLocally, qualifiedLists, alarmList, sampleList, Json.everywhere_object,
      Json.everywhere_array, Json.everywhere_string, List.forall_mem_cons, List.not_mem_nil,
      false_implies, implies_true, and_true]
    decide +kernel
  have scalar : Everywhere ScalarValue bareLists := by
    simp only [ScalarValue, bareLists, alarmList, sampleList, Json.everywhere_object,
      Json.everywhere_array, Json.everywhere_string, List.forall_mem_cons, List.not_mem_nil,
      false_implies, implies_true, and_true]
    decide +kernel
  obtain ⟨alarms, samples⟩ :=
    blind_to_modules_and_wrapper.1 _ _ requalified_lists distinct distinct'
  exact ⟨several, wrapper, by decide +kernel, alarms, samples scalar _,
    (blind_to_modules_and_wrapper.2 _ _ several wrapper).1⟩

end Telemetry

end Lightpath
