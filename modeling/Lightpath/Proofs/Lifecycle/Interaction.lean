import Lightpath.Lifecycle.Run

/-!
The interactions of a run: every call that a collaborator was asked together with the answer
it gave. They are written down by collaborators that keep a list of them beside their own
state.
-/

namespace Lightpath

variable {σ κ α : Type}

/-- The error by which a call says that the other side cannot be reached. -/
def TransportError.outage?
    : Except TransportError α → Option TransportError
  | .ok _ => none
  | .error e => if e.isUnavailable then some e else none

/-- One call of a collaborator with its answer. -/
inductive Interaction (κ : Type) where
  | invoked (rpc : String) (request : Json) (answer : Except TransportError RpcResponse)
  | interfaceSought (node name : String) (answer : Except TransportError Lookup)
  | connectionSought (node name : String) (answer : Except TransportError Lookup)
  | opened (node : String) (answer : Except TransportError κ)
  | read (session : κ) (request : ReadRequest) (answer : Except TransportError Json)
  | closed (session : κ) (answer : Except TransportError Unit)

namespace Interaction

/-- The error of a control call that did not reach the controller. Sessions are no control
calls: what a session answers is never an outage.
-/
def outage?
    : Interaction κ → Option TransportError
  | .invoked _ _ answer => TransportError.outage? answer
  | .interfaceSought _ _ answer => TransportError.outage? answer
  | .connectionSought _ _ answer => TransportError.outage? answer
  | .opened _ _ => none
  | .read _ _ _ => none
  | .closed _ _ => none

end Interaction

namespace Collaborators

/-- A call whose interaction is written down after it. -/
def recording (act : StateM σ α) (interaction : α → Interaction κ)
    : StateM (σ × List (Interaction κ)) α :=
  fun s => ((act s.1).1, ((act s.1).2, s.2 ++ [interaction (act s.1).1]))

/-- The collaborators with every interaction written down. -/
def recorded (c : Collaborators σ κ)
    : Collaborators (σ × List (Interaction κ)) κ :=
  { invoke := fun rpc request => recording (c.invoke rpc request) (.invoked rpc request)
    interface := fun node name => recording (c.interface node name) (.interfaceSought node name)
    connection := fun node name =>
      recording (c.connection node name) (.connectionSought node name)
    openSession := fun node => recording (c.openSession node) (.opened node)
    read := fun session request =>
      recording (c.read session request) (.read session request)
    close := fun session => recording (c.close session) (.closed session) }

/-- The lookup of a planned resource, among the cross-connections or the interfaces. -/
def find (c : Collaborators σ κ) (node : String) (resource : PlannedResource)
    : StateM σ (Except TransportError Lookup) :=
  if resource.isConnection then c.connection node resource.name
  else c.interface node resource.name

end Collaborators

namespace Lifecycle

/-- The interactions of a run from a state of the collaborators, in the order of the calls. -/
def transcript (c : Collaborators σ κ) (params : RunParameters) (topology : Topology) (s : σ)
    : List (Interaction κ) :=
  (verify c.recorded params topology (s, [])).2.2

end Lifecycle

end Lightpath
