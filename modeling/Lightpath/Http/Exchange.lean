import Lightpath.Http.Url
import Lightpath.Json.Basic

/-!
HTTP exchanges: a request goes out, and an answer or nothing comes back. An exchange is a function on a
state, which may be a network or a simulated server.
-/

namespace Lightpath

/-- The methods of requests. -/
inductive HttpMethod where
  | get
  | post
deriving DecidableEq, Repr

/-- The word of a method. -/
def HttpMethod.word
    : HttpMethod → String
  | .get => "GET"
  | .post => "POST"

/-- A request. -/
structure HttpRequest where
  method : HttpMethod
  url : Url
  authorization : String
  body : Option Json := none
deriving Repr

/-- An answer. -/
structure HttpAnswer where
  status : Nat
  body : String
deriving DecidableEq, Repr

/-- An exchange: the answer to a request, or the reason why there is none. -/
abbrev Exchange (σ : Type) :=
  HttpRequest → StateM σ (Except String HttpAnswer)

/-- The exchange without a way to any server. -/
def Exchange.unreachable {σ : Type}
    : Exchange σ :=
  fun _ => pure (.error "no route to the server")

end Lightpath
