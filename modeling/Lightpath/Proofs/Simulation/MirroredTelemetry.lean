import Lightpath.Proofs.Simulation.Restoration
import Lightpath.Proofs.Simulation.Telemetry
import Mathlib.Logic.Relation

/-!
Telemetry mirrors what an element holds. Whatever was asked of an element before, and whichever
faults it had meanwhile, its interfaces are kept in the order of their names; without a fault of
its telemetry or its sessions an access finds a sample of each interface that is held and of no
other, and one alarm on each, in that order.
-/

namespace Lightpath

namespace Element

variable (e : Element)

-----------------------------------------------------------------------------------------
-- States that an element can reach
-----------------------------------------------------------------------------------------

/-- One thing that can happen to an element. Look-ups and reads change nothing. -/
inductive Event (e : Element) (s : ElementState)
    : ElementState → Prop
  | invoked (rpc : String) (request : Json)
    : Event e s (e.invoke rpc request s).2
  | opened (node : String)
    : Event e s (e.openSession node s).2
  | closed (session : Nat)
    : Event e s (close session s).2
  | refaulted (faults : Faults)
    : Event e s { s with faults := faults }

/-- A state that an element can be in, from nothing held on. -/
def Reached (s : ElementState)
    : Prop :=
  Relation.ReflTransGen e.Event {} s

theorem ascending_createResources (description : String) (resources : List RenderedResource)
    {s : ElementState} (ascending : Keyed.Ascending s.interfaces)
    : Keyed.Ascending (resources.foldl (createResource description) s).interfaces := by
  induction resources generalizing s with
  | nil => exact ascending
  | cons r rest ih =>
      refine ih ?_
      rw [createResource]
      split
      · exact ascending
      · split
        · exact ascending
        · exact ascending.insert _ _

variable {e}

/-- Wherever a request takes an element, its interfaces stay in order. -/
theorem Moves.ascending {rpc : String} {request : Json} {s t : ElementState}
    (moves : e.Moves rpc request s t) (ascending : Keyed.Ascending s.interfaces)
    : Keyed.Ascending t.interfaces := by
  cases moves with
  | rests | notes _ => exact ascending
  | creates _ _ => exact ascending_createResources _ _ ascending
  | deletes _ _ =>
      rw [deleteResources_eq]
      exact ascending.without _

theorem Event.ascending {s t : ElementState} (event : e.Event s t)
    (ascending : Keyed.Ascending s.interfaces)
    : Keyed.Ascending t.interfaces := by
  cases event with
  | invoked rpc request =>
      rw [invoke]
      split
      · exact ascending
      · exact (e.moves_answer rpc request s).ascending ascending
  | opened node =>
      rw [openSession]
      split
      · exact ascending
      · split <;> exact ascending
  | closed session =>
      rw [close]
      split <;> exact ascending
  | refaulted faults => exact ascending

/-- In every state that an element can be in its interfaces are in the order of their names. -/
theorem Reached.ascending {s : ElementState} (reached : e.Reached s)
    : Keyed.Ascending s.interfaces := by
  induction reached with
  | refl => exact .nil
  | tail _ event ih => exact event.ascending ih

-----------------------------------------------------------------------------------------
-- What an access gives
-----------------------------------------------------------------------------------------

theorem monitors_interface (s : ElementState) (name : String)
    : monitors s (.interface name) = true ↔ name ∈ s.interfaceNames :=
  Keyed.isSome_lookup

section Mirrored

variable {s : ElementState} (admits : s.faults.sessionsOffline = false)
include admits

/-- A read over a session of its own gives what the element documents. -/
theorem read_admitted (request : ReadRequest)
    : (Telemetry.read e.collaborators.toSessionSource e.node request s).1
      = (e.document s request).toOption := by
  have present : ¬ s.faults.sessionsOffline = true := by simp [admits]
  rw [Telemetry.read_eq, map_run, access_eq, if_neg present, if_neg (not_not.mpr rfl)]
  rfl

theorem sample_admitted (resource : ResourceId)
    : (Telemetry.sample e.collaborators.toSessionSource e.node resource s).1
      = (e.document s (.currentPm resource)).toOption.bind
          fun document => PmSample.find? document resource := by
  rw [← read_admitted admits]
  rfl

theorem alarms_admitted
    : (Telemetry.alarms e.collaborators.toSessionSource e.node s).1
      = Alarm.list? (alarmDocument s) := by
  have read := read_admitted (e := e) admits .activeAlarms
  change (Telemetry.read e.collaborators.toSessionSource e.node .activeAlarms s).1.bind _ = _
  rw [read]
  rfl

theorem hasAlarm_admitted (resource : ResourceId)
    : (Telemetry.hasAlarm e.collaborators.toSessionSource e.node resource s).1
      = ((Alarm.list? (alarmDocument s)).getD []).any fun a => a.concerns resource := by
  rw [← alarms_admitted (e := e) admits]
  rfl

end Mirrored

-----------------------------------------------------------------------------------------
-- Interfaces and telemetry
-----------------------------------------------------------------------------------------

/-- In every state that an element can be in without a fault of its telemetry or its sessions, an
interface has an alarm or a sample exactly if it is held, a port never has an alarm, and the alarms
are one on each interface in the order of their names.
-/
theorem telemetry_mirrors_interfaces {s : ElementState} (reached : e.Reached s)
    (samples : s.faults.dropPm = false) (raises : s.faults.dropAlarms = false)
    (admits : s.faults.sessionsOffline = false)
    : let source := e.collaborators.toSessionSource
      (∀ name,
        (Telemetry.hasAlarm source e.node (.interface name) s).1 = true
        ↔ name ∈ s.interfaceNames)
      ∧ (∀ name,
        (Telemetry.sample source e.node (.interface name) s).1.isSome = true
        ↔ name ∈ s.interfaceNames)
      ∧ (∀ circuitPack name,
        (Telemetry.hasAlarm source e.node (.port circuitPack name) s).1 = false)
      ∧ (Telemetry.alarms source e.node s).1 = some (s.interfaceNames.mapIdx alarmOn)
      ∧ s.interfaceNames.Pairwise (· < ·) := by
  intro source
  have raised (resource : ResourceId)
      : (Telemetry.hasAlarm source e.node resource s).1 = true
        ↔ ∃ name ∈ s.interfaceNames, resource = .interface name := by
    rw [hasAlarm_admitted admits, concerned_alarmDocument, raises]
    exact and_iff_right rfl
  refine ⟨?alarm, ?sample, ?port, ?list, reached.ascending⟩
  case alarm =>
    intro name
    rw [raised]
    simp only [ResourceId.interface.injEq, exists_eq_right']
  case sample =>
    intro name
    rw [sample_admitted admits, document, samples, Bool.false_or, ← monitors_interface]
    cases monitors s (.interface name) with
    | true => exact iff_of_true (find?_sampleDocument name) rfl
    | false => exact iff_of_false Bool.false_ne_true Bool.false_ne_true
  case port =>
    intro circuitPack name
    rw [← Bool.not_eq_true, raised]
    rintro ⟨_, -, ⟨⟩⟩
  case list =>
    rw [alarms_admitted admits, list?_alarmDocument_eq, raises]
    rfl

/-- An element with ports of unusual names. -/
def quotedPorts
    : Element :=
  { table := { node := "XPDR-A", ports := [{ name := "C'1'" }, { name := "N/1:\"2\"" }] }
    device := .null }

/-- A request for a client service on these ports. -/
def quotedRequest
    : Json :=
  .object [
    ("operation", .string "create"),
    ("service-rate", .ofNat 10),
    ("trib-port-number", .ofNat 1),
    ("trib-slot", .array ((List.range' 1 8).map .ofNat)),
    ("nodes", .array [.object [
      ("node-id", .string "XPDR-A"),
      ("client-tp", .string "C'1'"),
      ("network-tp", .string "N/1:\"2\"")]])]

/-- After that request the element has an alarm on each of three interfaces. -/
theorem telemetry_mirrors_interfaces_quoted
    : let e := quotedPorts
      let s := (e.invoke "transportpce-device-renderer:otn-service-path" quotedRequest {}).2
      let source := e.collaborators.toSessionSource
      e.Reached s
      ∧ s.interfaceNames = ["C'1'-ETHERNET10G", "C'1'-ODU2e", "N/1:\"2\"-ODU2e-C'1'"]
      ∧ (Telemetry.hasAlarm source e.node (.interface "C'1'-ODU2e") s).1 = true
      ∧ (Telemetry.sample source e.node (.interface "C'1'-ODU2e") s).1.isSome = true
      ∧ (Telemetry.alarms source e.node s).1
        = some [alarmOn 0 "C'1'-ETHERNET10G", alarmOn 1 "C'1'-ODU2e",
          alarmOn 2 "N/1:\"2\"-ODU2e-C'1'"] := by
  intro e s source
  have reached : e.Reached s := .single (.invoked _ _)
  have names : s.interfaceNames = ["C'1'-ETHERNET10G", "C'1'-ODU2e", "N/1:\"2\"-ODU2e-C'1'"] := by
    decide +kernel
  have faultless : s.faults = {} := by decide +kernel
  obtain ⟨alarm, sample, -, list, -⟩ :=
    telemetry_mirrors_interfaces reached (by rw [faultless]) (by rw [faultless])
      (by rw [faultless])
  have member : "C'1'-ODU2e" ∈ s.interfaceNames := by
    rw [names]
    decide
  rw [names] at list
  exact ⟨reached, names, (alarm _).mpr member, (sample _).mpr member, list⟩

end Element

end Lightpath
