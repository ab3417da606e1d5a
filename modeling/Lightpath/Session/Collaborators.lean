import Lightpath.Json.Basic
import Lightpath.Session.Request

/-!
What a verifier works with: a control API that runs requests and looks resources up, and management
sessions that read from a node. They are functions on a state, which may be anything: a simulated
node, a recorded exchange, or one that answers at will.
-/

namespace Lightpath

/-- Why a call of a collaborator gave no answer. -/
inductive TransportError where
  | unavailable (target reason : String)
  | status (target : String) (code : Nat)
  | malformed (target reason : String)
deriving DecidableEq, Repr

namespace TransportError

/-- The message of an error. -/
def message
    : TransportError → String
  | .unavailable target reason => target ++ " unavailable: " ++ reason
  | .status target code => "unexpected status " ++ toString code ++ " from " ++ target
  | .malformed target reason => "malformed response from " ++ target ++ ": " ++ reason

/-- Whether the other side could not be reached at all. -/
def isUnavailable
    : TransportError → Bool
  | .unavailable _ _ => true
  | _ => false

end TransportError

/-- The answer to a control request. -/
structure RpcResponse where
  status : Nat
  output : Json
deriving Repr

namespace RpcResponse

/-- Whether the status says that the request was carried out. -/
def isSuccess (r : RpcResponse)
    : Bool :=
  200 ≤ r.status && r.status < 300

/-- The response that a document describes. -/
def ofJson? (v : Json)
    : Option RpcResponse := do
  let r ← JsonRecord.ofJson? ["status", "output"] v
  some {
    status := ← r.required "status" (Json.natBelow? UInt16.size)
    output := ← r.required "output" some }

/-- The document of a response. -/
def toJson (r : RpcResponse)
    : Json :=
  Json.ofMembers [("status", .ofNat r.status), ("output", r.output)]

end RpcResponse

/-- The answer to a lookup of a resource. -/
inductive Lookup where
  | present (config : Json)
  | absent (status : Nat)
deriving Repr

/-- The statuses that say a resource does not exist. -/
def absentStatuses
    : List Nat :=
  [404, 409, 503]

/-- A control API over a state. -/
structure ControlApi (σ : Type) where
  invoke : (rpc : String) → (request : Json) → StateM σ (Except TransportError RpcResponse)
  interface : (node name : String) → StateM σ (Except TransportError Lookup)
  connection : (node name : String) → StateM σ (Except TransportError Lookup)

/-- A source of management sessions over a state; `κ` names the open ones. -/
structure SessionSource (σ κ : Type) where
  openSession : (node : String) → StateM σ (Except TransportError κ)
  read : κ → ReadRequest → StateM σ (Except TransportError Json)
  close : κ → StateM σ (Except TransportError Unit)

/-- A control API and a source of sessions over one state. -/
structure Collaborators (σ κ : Type) extends ControlApi σ, SessionSource σ κ

end Lightpath
