import Lightpath.Session.Collaborators

/-!
Calls on collaborators as data: what is called and about what, without the answer.
-/

namespace Lightpath

/-- A call on a collaborator. A request is told by its operation and its service. -/
inductive Call where
  | invoke (rpc operation service : String)
  | interface (node name : String)
  | connection (node name : String)
  | openSession (node : String)
  | read (request : ReadRequest)
  | close
deriving DecidableEq, Repr

namespace Call

/-- The text of a member of a request, empty where there is none. -/
def requestText (request : Json) (name : String)
    : String :=
  (((request.get? "input").bind fun v => v.get? name).bind Json.string?).getD ""

/-- The call that makes a request. -/
def ofRequest (rpc : String) (request : Json)
    : Call :=
  .invoke rpc (requestText request "operation") (requestText request "service-name")

/-- The text of a call. -/
def text
    : Call → String
  | .invoke rpc operation service => "invoke " ++ rpc ++ " " ++ operation ++ " " ++ service
  | .interface node name => "interface " ++ node ++ " " ++ name
  | .connection node name => "connection " ++ node ++ " " ++ name
  | .openSession node => "open " ++ node
  | .read request => "read " ++ request.text
  | .close => "close"

end Call

end Lightpath
