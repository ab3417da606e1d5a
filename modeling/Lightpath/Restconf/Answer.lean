import Lightpath.Http.Exchange
import Lightpath.Json.Envelope
import Lightpath.Json.Reader
import Lightpath.Session.Collaborators
import Lightpath.Text.Blank

/-!
What the answers of a controller mean. A body is a document; a lookup says by its status whether the
resource is there, and by its body what it is.
-/

namespace Lightpath

namespace Restconf

/-- Whether a status says that a request was carried out. -/
def isSuccess (status : Nat)
    : Bool :=
  200 ≤ status && status < 300

/-- The document in a body. A blank body is null; what is no document counts as a text, unless the
status promises a document.
-/
def readBody (target : String) (status : Nat) (body : String)
    : Except TransportError Json :=
  if Text.allBlank body then .ok .null
  else match Json.parse? body with
    | some document => .ok document
    | none =>
        if isSuccess status then .error (.malformed target "not a document")
        else .ok (.string body)

/-- What is wrong with a body that should hold one resource. -/
def notOneResource
    : String :=
  "expected a single list node"

/-- The resource in the body of a lookup: the first item of the only member. -/
def resourceIn?
    : Json → Option Json
  | .object [(_, v)] => v.asList.head?
  | _ => none

/-- The outcome of a lookup by its status and its body. -/
def readLookup (target : String) (status : Nat) (body : Json)
    : Except TransportError Lookup :=
  if absentStatuses.contains status then .ok (.absent status)
  else if !isSuccess status then .error (.status target status)
  else match resourceIn? body with
    | some config => .ok (.present config)
    | none => .error (.malformed target notOneResource)

/-- The document of a read, unless its status speaks against it. -/
def readDocument (target : String) (status : Nat) (body : Json)
    : Except TransportError Json :=
  if isSuccess status then .ok body else .error (.status target status)

end Restconf

end Lightpath
