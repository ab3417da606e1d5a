import Lightpath.Service.Kind
import Lightpath.Session.Collaborators
import Lightpath.Simulation.Renderer

/-!
A simulated network element: it answers requests and lookups from tables of interfaces and
cross-connections, and opens sessions that read its configuration, its samples and its alarms.
Faults can be set that make it misbehave.
-/

namespace Lightpath

/-- The ways in which an element can be made to misbehave. -/
structure Faults where
  controlOffline : Bool := false
  sessionsOffline : Bool := false
  rejectCreate : Bool := false
  skipResource : Option String := none
  wrongState : Option String := none
  surviveDelete : Bool := false
  dropPm : Bool := false
  dropAlarms : Bool := false
deriving DecidableEq, Repr

/-- What changes in an element: its tables, its faults, the requests it has taken, and which of
the sessions opened so far are still open.
-/
structure ElementState where
  interfaces : List (String × Json) := []
  connections : List (String × Json) := []
  faults : Faults := {}
  requests : List (String × Operation) := []
  opened : Nat := 0
  closed : Nat := 0
  sessions : List Bool := []
deriving Repr

namespace ElementState

/-- The number of requests of an operation. -/
def requestCount (s : ElementState) (operation : Operation)
    : Nat :=
  (s.requests.filter fun r => r.2 = operation).length

/-- The number of sessions opened and not yet closed. -/
def openSessions (s : ElementState)
    : Nat :=
  s.opened - s.closed

/-- The names of the interfaces in order. -/
def interfaceNames (s : ElementState)
    : List String :=
  Keyed.keys s.interfaces

/-- The names of the cross-connections in order. -/
def connectionNames (s : ElementState)
    : List String :=
  Keyed.keys s.connections

end ElementState

/-- What stays the same in an element: its ports, their rates and its configuration. -/
structure Element where
  table : PortTable
  device : Json
  rates : List (String × SignalRate) := []
deriving Repr

namespace Element

/-- The name of the node. -/
def node (e : Element)
    : String :=
  e.table.node

/-- How the element renders requests. -/
def renderer (e : Element)
    : Renderer :=
  ⟨e.table, e.rates⟩

/-- The time at which every alarm is raised. -/
def raiseTime
    : String :=
  "2024-01-01T00:00:00+00:00"

/-- The configuration under which an interface is kept. -/
def stored (faults : Faults) (description : String) (r : RenderedResource)
    : Json :=
  match r.config with
  | .object members =>
      let described := Keyed.insert "description" (.string description) members
      if faults.wrongState = some r.name then
        .object (Keyed.insert "administrative-state" (.string "outOfService") described)
      else .object described
  | v => v

/-- The state with one resource created, unless a fault leaves it out. -/
def createResource (description : String) (s : ElementState) (r : RenderedResource)
    : ElementState :=
  if s.faults.skipResource = some r.name then s
  else if r.isConnection then
    { s with connections := Keyed.insert r.name r.config s.connections }
  else
    { s with interfaces := Keyed.insert r.name (stored s.faults description r) s.interfaces }

/-- The answer to a request that failed. -/
def failure (reason : String)
    : Json :=
  Json.ofMembers [("output", Json.ofMembers [
    ("success", .bool false), ("result", .string reason)])]

/-- The answer to a request that succeeded. -/
def success (result : String) (more : List (String × Json))
    : Json :=
  Json.ofMembers [("output", Json.ofMembers
    ([("success", .bool true), ("result", .string result)] ++ more))]

/-- A rendered service created: the answer and the state after it. -/
def create (e : Element) (rendering : Rendering) (s : ElementState)
    : Json × ElementState :=
  if s.faults.rejectCreate then (failure "device rejected the configuration", s)
  else
    (success ("Interfaces created successfully for nodes: " ++ e.node)
        [("node-interface", .array [rendering.nodeEntry e.node])],
      rendering.resources.foldl (createResource rendering.description) s)

/-- The state with one resource deleted from both tables. -/
def deleteResource (s : ElementState) (r : RenderedResource)
    : ElementState :=
  { s with
    interfaces := Keyed.erase r.name s.interfaces
    connections := Keyed.erase r.name s.connections }

/-- A rendered service deleted: the answer and the state after it. -/
def delete (rendering : Rendering) (s : ElementState)
    : Json × ElementState :=
  (success "Request processed" [],
    if s.faults.surviveDelete then s else rendering.resources.foldl deleteResource s)

/-- An answer that only holds an error message. -/
def errors (message : String)
    : Json :=
  Json.ofMembers [("errors", Json.ofMembers [
    ("error", .array [Json.ofMembers [("error-message", .string message)]])])]

/-- The operation that a request states. -/
def operation? (request : Json)
    : Option Operation :=
  (request.textField? "operation").bind (Json.ofWord? Operation.all Operation.word)

/-- The answer to a request and the state after it, when the element can be reached. -/
def answer (e : Element) (rpc : String) (request : Json) (s : ElementState)
    : RpcResponse × ElementState :=
  let request := request.unwrap "input"
  match operation? request with
  | none =>
      let found := Text.shownOption Text.quoted (request.textField? "operation")
      (⟨400, errors ("bad operation " ++ found)⟩, s)
  | some operation =>
      match e.renderer.render rpc request with
      | .error (.unknownRpc rpc) => (⟨404, errors (RenderError.unknownRpc rpc).message⟩, s)
      | .error (.rejected reason) => (⟨200, failure reason⟩, s)
      | .ok rendering =>
          let logged := { s with requests := s.requests ++ [(rpc, operation)] }
          let (output, s) := match operation with
            | .create => e.create rendering logged
            | .delete => delete rendering logged
          (⟨200, output⟩, s)

/-- The error of a control API that cannot be reached. -/
def unreachable (e : Element)
    : TransportError :=
  .unavailable e.node "controller unreachable"

/-- The answer to a request. -/
def invoke (e : Element) (rpc : String) (request : Json)
    : StateM ElementState (Except TransportError RpcResponse) :=
  fun s =>
    if s.faults.controlOffline then (.error e.unreachable, s)
    else
      let (response, s) := e.answer rpc request s
      (.ok response, s)

/-- The answer to a lookup in one of the tables. -/
def lookup (e : Element) (table : ElementState → List (String × Json)) (node name : String)
    : StateM ElementState (Except TransportError Lookup) :=
  fun s =>
    let answer :=
      if s.faults.controlOffline then .error e.unreachable
      else if node ≠ e.node then .ok (.absent 409)
      else match (table s).lookup name with
        | some config => .ok (.present config)
        | none => .ok (.absent 404)
    (answer, s)

/-- The document with the sample of a resource. -/
def sampleDocument (resource : ResourceId)
    : Json :=
  let measurement := Json.ofMembers [
    ("granularity", .string "15min"),
    ("pmParameterValue", .string "-40.0"),
    ("pmParameterUnit", .string "dBm"),
    ("validity", .string "complete")]
  let item := Json.ofMembers [
    ("type", .string "opticalPowerInput"),
    ("extension", .string ""),
    ("location", .string "nearEnd"),
    ("direction", .string "rx"),
    ("measurement", .array [measurement])]
  Json.ofMembers [("org-openroadm-pm:current-pm-entry", .array [Json.ofMembers [
    ("pm-resource-type", .string resource.type.word),
    ("pm-resource-type-extension", .string ""),
    ("pm-resource-instance", .string resource.instancePath),
    ("retrieval-time", .string raiseTime),
    ("current-pm", .array [item])]])]

/-- Whether the element monitors a resource: the interfaces that it holds, and every port. -/
def monitors (s : ElementState)
    : ResourceId → Bool
  | .interface name => Keyed.contains name s.interfaces
  | .port _ _ => true

/-- One alarm on an interface, by its position in the list. -/
def alarm (position : Nat) (name : String)
    : Json :=
  Json.ofMembers [
    ("id", .string (toString (position + 1))),
    ("resource", Json.ofMembers [
      ("resource", (ResourceId.interface name).toJson),
      ("resourceType", Json.ofMembers [("type", .string "interface")])]),
    ("probableCause", Json.ofMembers [
      ("cause", .string "lossOfSignal"), ("direction", .string "rx")]),
    ("raiseTime", .string raiseTime),
    ("severity", .string "critical")]

/-- The document with the active alarms: one on each interface. -/
def alarmDocument (s : ElementState)
    : Json :=
  let alarms := if s.faults.dropAlarms then [] else s.interfaceNames.mapIdx alarm
  Json.ofMembers [("org-openroadm-alarm:active-alarm-list",
    Json.ofMembers [("activeAlarms", .array alarms)])]

/-- The document that a request reads over an open session. -/
def document (e : Element) (s : ElementState)
    : ReadRequest → Except TransportError Json
  | .deviceConfig => .ok e.device
  | .currentPm resource =>
      if s.faults.dropPm || !monitors s resource then .error (.status resource.text 404)
      else .ok (sampleDocument resource)
  | .activeAlarms => .ok (alarmDocument s)

/-- A session opened on the element, named by its position among all. -/
def openSession (e : Element) (node : String)
    : StateM ElementState (Except TransportError Nat) :=
  fun s =>
    if s.faults.sessionsOffline then
      (.error (.unavailable node "NETCONF session refused"), s)
    else if node ≠ e.node then (.error (.status node 404), s)
    else
      (.ok s.sessions.length,
        { s with opened := s.opened + 1, sessions := s.sessions ++ [true] })

/-- Whether a session is open. -/
def isOpen (s : ElementState) (session : Nat)
    : Bool :=
  (s.sessions[session]?).getD false

/-- A read over a session, which has to be open. -/
def read (e : Element) (session : Nat) (request : ReadRequest)
    : StateM ElementState (Except TransportError Json) :=
  fun s =>
    if isOpen s session then (e.document s request, s)
    else (.error (.unavailable e.node "session closed"), s)

/-- A session closed; closing it again changes nothing. -/
def close (session : Nat)
    : StateM ElementState (Except TransportError Unit) :=
  fun s =>
    if isOpen s session then
      (.ok (), { s with closed := s.closed + 1, sessions := s.sessions.set session false })
    else (.ok (), s)

/-- The element as what a verifier works with. -/
def collaborators (e : Element)
    : Collaborators ElementState Nat :=
  { invoke := e.invoke
    interface := e.lookup ElementState.interfaces
    connection := e.lookup ElementState.connections
    openSession := e.openSession
    read := e.read
    close := close }

end Element

end Lightpath
