import Lightpath.Proofs.Json.Members
import Lightpath.Simulation.Element
import Lightpath.Telemetry.Access

/-!
What an element documents of its interfaces is found there: the sample of each that it
monitors, and an alarm on each that it has.
-/

namespace Lightpath

namespace PmSample

/-- An entry that states a resource is about those of its type and path. -/
theorem isAbout_entry_iff (stated resource : ResourceId) (extension time items : Json)
    : isAbout resource (Json.ofMembers [
        ("pm-resource-type", .string stated.type.word),
        ("pm-resource-type-extension", extension),
        ("pm-resource-instance", .string stated.instancePath),
        ("retrieval-time", time),
        ("current-pm", items)]) = true
      ↔ stated.type = resource.type ∧ stated.instancePath = resource.instancePath := by
  have words (a b : ResourceType) : a.word = b.word ↔ a = b := by
    cases a <;> cases b <;> decide
  rw [isAbout, Json.textField?_ofMembers (s := stated.type.word) rfl,
    Json.textField?_ofMembers (s := stated.instancePath) rfl]
  simp [words]

/-- An item with a type and a measured value gives a sample. -/
theorem isSome_ofItem? {resource : ResourceId} {item measurement value : Json} {type : String}
    (typed : item.textField? "type" = some type)
    (measured : item.field? "measurement" = some (.array [measurement]))
    (valued : measurement.field? "pmParameterValue" = some value)
    : (ofItem? resource item).isSome = true := by
  simp [ofItem?, typed, measured, valued, Json.asList]

end PmSample

/-- An item that states everything gives the alarm that it states. -/
theorem Alarm.ofItem?_stated {item holder identity sort probable : Json}
    {id type cause severity time : String} {resource : ResourceId}
    (named : item.textField? "id" = some id)
    (held : item.field? "resource" = some holder)
    (sorted : holder.field? "resourceType" = some sort)
    (typed : sort.textField? "type" = some type)
    (identified : holder.field? "resource" = some identity)
    (known : ResourceId.ofJson? identity.withLocalNames = some resource)
    (explained : item.field? "probableCause" = some probable)
    (caused : probable.textField? "cause" = some cause)
    (weighed : item.textField? "severity" = some severity)
    (timed : item.textField? "raiseTime" = some time)
    : Alarm.ofItem? item
      = some ⟨id, some type, some resource, some cause, some severity,
          Instant.ofText? time⟩ := by
  simp [Alarm.ofItem?, named, held, sorted, typed, identified, known, explained, caused, weighed,
    timed]

namespace Element

/-- The document with the sample of a resource gives a sample of those of its type and path. -/
theorem find?_sampleDocument_iff (stated resource : ResourceId)
    : (PmSample.find? (sampleDocument stated) resource).isSome = true
      ↔ stated.type = resource.type ∧ stated.instancePath = resource.instancePath := by
  rw [sampleDocument, PmSample.find?, PmSample.entries?, Json.unwrapData_single (by decide),
    Json.field?_single, if_neg (by decide), Json.field?_single, if_pos (by decide)]
  simp only [Option.bind_none, Option.none_or, Option.bind_eq_bind, Option.bind_some, Json.asList,
    List.find?_cons]
  split
  · rename_i about
    refine iff_of_true ?_ ((PmSample.isAbout_entry_iff _ _ _ _ _).mp about)
    rw [Option.bind_some, Json.field?_ofMembers (v := .array [_]) rfl]
    simp only [Option.bind_some]
    rw [List.findSome?_isSome_iff]
    exact ⟨_, List.mem_singleton_self _,
      PmSample.isSome_ofItem? (Json.textField?_ofMembers rfl) (Json.field?_ofMembers rfl)
        (Json.field?_ofMembers rfl)⟩
  · rename_i other
    refine iff_of_false Bool.false_ne_true fun same => ?_
    rw [(PmSample.isAbout_entry_iff _ _ _ _ _).mpr same] at other
    cases other

/-- The document with the sample of an interface gives a sample of it. -/
theorem find?_sampleDocument (name : String)
    : (PmSample.find? (sampleDocument (.interface name)) (.interface name)).isSome = true :=
  (find?_sampleDocument_iff _ _).mpr ⟨rfl, rfl⟩

theorem ofJson?_interface (name : String)
    : ResourceId.ofJson? (ResourceId.interface name).toJson.withLocalNames
      = some (.interface name) := by
  have sort : Json.localName "interface" = "interface" := by decide
  have leaf : Json.localName "interface-name" = "interface-name" := by decide
  simp [ResourceId.toJson, Json.ofMembers, Keyed.ofList, Keyed.insert, Json.withLocalNames,
    Json.membersWithLocalNames, sort, leaf, ResourceId.ofJson?, JsonRecord.required,
    JsonRecord.value?, Json.string?]

/-- The alarm that an element documents on an interface, as it is read back. -/
def alarmOn (position : Nat) (name : String)
    : Alarm where
  id := toString (position + 1)
  resourceType := some "interface"
  resource := some (.interface name)
  cause := some "lossOfSignal"
  severity := some "critical"
  raised := Instant.ofText? raiseTime

/-- It is about that interface only. -/
theorem concerns_alarmOn (position : Nat) (name : String) (resource : ResourceId)
    : (alarmOn position name).concerns resource = true ↔ resource = .interface name := by
  cases resource <;>
    simp [alarmOn, Alarm.concerns, ResourceId.type, ResourceType.word, eq_comm]

theorem ofItem?_alarm (position : Nat) (name : String)
    : Alarm.ofItem? (alarm position name) = some (alarmOn position name) :=
  Alarm.ofItem?_stated (Json.textField?_ofMembers rfl) (Json.field?_ofMembers rfl)
    (Json.field?_ofMembers rfl) (Json.textField?_ofMembers rfl) (Json.field?_ofMembers rfl)
    (ofJson?_interface name) (Json.field?_ofMembers rfl) (Json.textField?_ofMembers rfl)
    (Json.textField?_ofMembers rfl) (Json.textField?_ofMembers rfl)

/-- The document with the alarms of an element is read back as one alarm on each interface that it
keeps, in the order of their names, unless a fault drops the alarms.
-/
theorem list?_alarmDocument_eq (s : ElementState)
    : Alarm.list? (alarmDocument s)
      = some (if s.faults.dropAlarms then [] else s.interfaceNames.mapIdx alarmOn) := by
  rw [alarmDocument, Alarm.list?, Json.unwrapData_single (by decide), Json.field?_single,
    if_pos (by decide)]
  simp only [Option.bind_eq_bind, Option.bind_some, Json.field?_single, true_or, if_true,
    Json.asList]
  cases s.faults.dropAlarms with
  | true => rfl
  | false =>
      simp only [Bool.false_eq_true, if_false, List.mapIdx_eq_zipIdx_map, List.filterMap_map]
      have read
          : Alarm.ofItem? ∘ (fun pair : String × Nat => alarm pair.2 pair.1)
            = some ∘ fun pair => alarmOn pair.2 pair.1 :=
        funext fun pair => ofItem?_alarm pair.2 pair.1
      rw [read, List.filterMap_eq_map]

/-- An alarm is on every interface that the element keeps and on nothing else, unless a fault drops
the alarms.
-/
theorem concerned_alarmDocument (s : ElementState) (resource : ResourceId)
    : ((Alarm.list? (alarmDocument s)).getD []).any (fun a => a.concerns resource) = true
      ↔ s.faults.dropAlarms = false ∧ ∃ name ∈ s.interfaceNames, resource = .interface name := by
  rw [list?_alarmDocument_eq, Option.getD_some]
  cases s.faults.dropAlarms with
  | true => simp
  | false =>
      simp only [Bool.false_eq_true, if_false, true_and, List.any_eq_true, List.mem_mapIdx]
      constructor
      · rintro ⟨_, ⟨position, bound, rfl⟩, concerns⟩
        exact ⟨_, List.getElem_mem bound, (concerns_alarmOn _ _ _).mp concerns⟩
      · rintro ⟨_, member, about⟩
        obtain ⟨position, bound, rfl⟩ := List.mem_iff_getElem.mp member
        exact ⟨_, ⟨position, bound, rfl⟩, (concerns_alarmOn _ _ _).mpr about⟩

theorem list?_alarmDocument (s : ElementState) (name : String)
    : ((Alarm.list? (alarmDocument s)).getD []).any (fun a => a.concerns (.interface name)) = true
      ↔ s.faults.dropAlarms = false ∧ name ∈ s.interfaceNames := by
  rw [concerned_alarmDocument]
  simp only [ResourceId.interface.injEq, exists_eq_right']

end Element

end Lightpath
