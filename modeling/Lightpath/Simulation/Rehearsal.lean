import Lightpath.Simulation.Element
import Lightpath.Simulation.SessionScript

/-!
A simulated element with interventions: chosen calls are answered by a script in its place. The first
intervention that fits a call answers it; the element sees only the calls that none fits. Every call
is written down, and those of scripted sessions a second time as the script sees them.
-/

namespace Lightpath

/-- Which calls of its kind an intervention fits: by their position among them, by the name of
what they are about, or all.
-/
structure Fit where
  position : Option Nat := none
  name : Option String := none
deriving DecidableEq, Repr

namespace Fit

/-- Whether a call at a position and about a name fits. -/
def admits (fit : Fit) (position : Nat) (name : String)
    : Bool :=
  fit.position.all (fun p => p = position) && fit.name.all fun n => n = name

end Fit

/-- An answer given in place of the element's to the calls that fit. -/
inductive Intervention where
  | invoke (fit : Fit) (answer : Except TransportError RpcResponse)
  | interface (fit : Fit) (answer : Except TransportError Lookup)
  | connection (fit : Fit) (answer : Except TransportError Lookup)
  | session (fit : Fit) (script : SessionScript)

namespace Intervention

/-- The answer to a request, if the intervention fits it. -/
def invokeAnswer? (position : Nat) (name : String)
    : Intervention → Option (Except TransportError RpcResponse)
  | .invoke fit answer => if fit.admits position name then some answer else none
  | _ => none

/-- The answer to the lookup of an interface, if the intervention fits it. -/
def interfaceAnswer? (position : Nat) (name : String)
    : Intervention → Option (Except TransportError Lookup)
  | .interface fit answer => if fit.admits position name then some answer else none
  | _ => none

/-- The answer to the lookup of a cross-connection, if the intervention fits it. -/
def connectionAnswer? (position : Nat) (name : String)
    : Intervention → Option (Except TransportError Lookup)
  | .connection fit answer => if fit.admits position name then some answer else none
  | _ => none

/-- The script of a session, if the intervention fits its opening. -/
def sessionScript? (position : Nat) (name : String)
    : Intervention → Option SessionScript
  | .session fit script => if fit.admits position name then some script else none
  | _ => none

end Intervention

/-- The state of a rehearsal: that of the element, the calls so far, and how many of each kind
were made.
-/
structure RehearsalState where
  element : ElementState := {}
  calls : List Call := []
  invokes : Nat := 0
  interfaces : Nat := 0
  connections : Nat := 0
  sessions : Nat := 0
deriving Repr

/-- An open session of a rehearsal: one of the element's, or one that follows a script. -/
inductive RehearsalSession where
  | own (session : Nat)
  | scripted (script : SessionScript)
deriving Repr

namespace Rehearsal

/-- An action of the element within a rehearsal. -/
def ofElement {α : Type} (act : StateM ElementState α)
    : StateM RehearsalState α :=
  fun s =>
    let (a, element) := act s.element
    (a, { s with element := element })

/-- An action of a scripted session within a rehearsal. -/
def ofScript {α : Type} (act : StateM (List Call) α)
    : StateM RehearsalState α :=
  fun s =>
    let (a, calls) := act s.calls
    (a, { s with calls := calls })

/-- The scripted answer if there is one, else that of the element. -/
def scriptedOr {α : Type} (scripted : Option α) (act : StateM ElementState α)
    : StateM RehearsalState α :=
  match scripted with
  | some answer => pure answer
  | none => ofElement act

/-- The answer to a request. -/
def invoke (e : Element) (interventions : List Intervention) (rpc : String) (request : Json)
    : StateM RehearsalState (Except TransportError RpcResponse) := do
  let s ← get
  set { s with calls := s.calls ++ [Call.ofRequest rpc request], invokes := s.invokes + 1 }
  let operation := Call.requestText request "operation"
  scriptedOr (interventions.findSome? (Intervention.invokeAnswer? s.invokes operation))
    (e.invoke rpc request)

/-- The answer to the lookup of an interface. -/
def interface (e : Element) (interventions : List Intervention) (node name : String)
    : StateM RehearsalState (Except TransportError Lookup) := do
  let s ← get
  set { s with calls := s.calls ++ [Call.interface node name], interfaces := s.interfaces + 1 }
  scriptedOr (interventions.findSome? (Intervention.interfaceAnswer? s.interfaces name))
    (e.lookup ElementState.interfaces node name)

/-- The answer to the lookup of a cross-connection. -/
def connection (e : Element) (interventions : List Intervention) (node name : String)
    : StateM RehearsalState (Except TransportError Lookup) := do
  let s ← get
  set { s with calls := s.calls ++ [Call.connection node name], connections := s.connections + 1 }
  scriptedOr (interventions.findSome? (Intervention.connectionAnswer? s.connections name))
    (e.lookup ElementState.connections node name)

/-- A session opened on the element or by a script. -/
def openSession (e : Element) (interventions : List Intervention) (node : String)
    : StateM RehearsalState (Except TransportError RehearsalSession) := do
  let s ← get
  set { s with calls := s.calls ++ [Call.openSession node], sessions := s.sessions + 1 }
  match interventions.findSome? (Intervention.sessionScript? s.sessions node) with
  | some script =>
      let opened ← ofScript (script.source.openSession node)
      pure (opened.map fun _ => .scripted script)
  | none =>
      let opened ← ofElement (e.openSession node)
      pure (opened.map .own)

/-- A read over a session. -/
def read (e : Element) (request : ReadRequest)
    : RehearsalSession → StateM RehearsalState (Except TransportError Json)
  | .own session => ofElement (e.read session request)
  | .scripted script => ofScript (script.source.read () request)

/-- A session closed. -/
def close
    : RehearsalSession → StateM RehearsalState (Except TransportError Unit)
  | .own session => ofElement (Element.close session)
  | .scripted script => ofScript (script.source.close ())

/-- The element with its interventions as what a verifier works with. -/
def collaborators (e : Element) (interventions : List Intervention)
    : Collaborators RehearsalState RehearsalSession :=
  { invoke := invoke e interventions
    interface := interface e interventions
    connection := connection e interventions
    openSession := openSession e interventions
    read := fun session request => read e request session
    close := close }

end Rehearsal

end Lightpath
