import Lightpath.Http.Exchange

/-!
A simulated server: it gives its answers in order and notes the requests that it sees. When it has no
answer left it says so; when it is out of reach it sees nothing.
-/

namespace Lightpath

/-- A server with the answers that it still has to give, where nothing stands for a connection
closed without an answer, and the requests seen so far.
-/
structure SimulatedServer where
  isReachable : Bool := true
  answers : List (Option HttpAnswer) := []
  requests : List HttpRequest := []
deriving Repr

namespace SimulatedServer

/-- The answer of a server that has none left. -/
def exhausted
    : HttpAnswer :=
  ⟨500, "script exhausted"⟩

/-- The answer to a request and the server after it. -/
def exchange
    : Exchange SimulatedServer :=
  fun request s =>
    if !s.isReachable then (.error "server out of reach", s)
    else
      let noted := { s with
        answers := s.answers.tail
        requests := s.requests ++ [{ request with url := request.url.asRequested }] }
      match s.answers with
      | [] => (.ok exhausted, noted)
      | some answer :: _ => (.ok answer, noted)
      | none :: _ => (.error "connection closed", noted)

end SimulatedServer

end Lightpath
