import Lightpath.Proofs.Lifecycle.Evidence
import Lightpath.Proofs.Lifecycle.MirroredRun
import Lightpath.Proofs.Restconf.Lookups
import Lightpath.Restconf.Client

/-!
Runs over a client whose exchanges are answered. Every call of a client makes at most one exchange
and draws its answer from what came back, so a call is out of reach exactly if nothing came back. A
run ends early only at a call out of reach, and so never where every exchange was answered.
-/

namespace Lightpath

variable {σ α β : Type}

-----------------------------------------------------------------------------------------
-- Answers out of reach
-----------------------------------------------------------------------------------------

/-- An exchange that brought no answer back. -/
def Unanswered (back : Except String HttpAnswer)
    : Prop :=
  ∃ reason, back = .error reason

namespace TransportError

/-- The answer of a call that did not reach the other side. -/
def Unavailable (answer : Except TransportError α)
    : Prop :=
  ∃ target reason, answer = .error (.unavailable target reason)

theorem unavailable_of_outage {answer : Except TransportError α} {e : TransportError}
    (outage : outage? answer = some e)
    : Unavailable answer := by
  cases answer with
  | ok a => cases outage
  | error fault =>
      cases fault with
      | unavailable target reason => exact ⟨target, reason, rfl⟩
      | status _ _ | malformed _ _ => cases outage

theorem unavailable_map (f : α → β) (answer : Except TransportError α)
    : Unavailable (answer.map f) ↔ Unavailable answer := by
  cases answer with
  | ok a => simp [Unavailable, Except.map]
  | error fault => simp [Unavailable, Except.map]

/-- Reading an answer puts it out of reach only if it was. -/
theorem unavailable_bind {f : α → Except TransportError β} (reads : ∀ a, ¬ Unavailable (f a))
    (answer : Except TransportError α)
    : Unavailable (answer.bind f) ↔ Unavailable answer := by
  cases answer with
  | ok a => exact iff_of_false (reads a) (by simp [Unavailable])
  | error fault => simp [Unavailable, Except.bind]

end TransportError

open TransportError

namespace Restconf

theorem not_unavailable_readLookup (target : String) (r : Nat × Json)
    : ¬ Unavailable (readLookup target r.1 r.2) := by
  rw [readLookup]
  split
  · simp [Unavailable]
  · split
    · simp [Unavailable]
    · split <;> simp [Unavailable]

theorem not_unavailable_readDocument (target : String) (r : Nat × Json)
    : ¬ Unavailable (readDocument target r.1 r.2) := by
  rw [readDocument]
  split <;> simp [Unavailable]

/-- The status and the document that came back from an exchange. -/
def received (sent : String)
    : Except String HttpAnswer → Except TransportError (Nat × Json)
  | .error reason => .error (.unavailable sent reason)
  | .ok answer => (readBody sent answer.status answer.body).map fun v => (answer.status, v)

theorem unavailable_received (sent : String) (back : Except String HttpAnswer)
    : Unavailable (received sent back) ↔ Unanswered back := by
  cases back with
  | error reason => exact iff_of_true ⟨sent, reason, rfl⟩ ⟨reason, rfl⟩
  | ok answer =>
      refine iff_of_false ?_ (by simp [Unanswered])
      rw [received, unavailable_map]
      rintro ⟨target, reason, read⟩
      obtain ⟨_, isMalformed⟩ := exists_malformed_of_readBody read
      cases isMalformed

end Restconf

-----------------------------------------------------------------------------------------
-- The calls of a client
-----------------------------------------------------------------------------------------

namespace RestconfClient

open Restconf

section Calls

variable (c : RestconfClient)

/-- The exchange that a control request makes. -/
def rpcRequest (rpc : String) (request : Json)
    : HttpRequest :=
  ⟨.post, c.url ["rests", "operations", rpc], c.authorization, some request⟩

/-- The place of a cross-connection or an interface on a node. -/
def place (isConnection : Bool) (node name : String)
    : Url :=
  let list := if isConnection then "roadm-connections=" else "interface="
  c.url (mount node ++ [ResourceId.deviceRoot, list ++ name])

/-- The exchange that the lookup of a cross-connection or an interface makes. -/
def seekRequest (isConnection : Bool) (node name : String)
    : HttpRequest :=
  ⟨.get, (c.place isConnection node name).withParameter "content" Content.config.word,
    c.authorization, none⟩

/-- The exchange that a read from a node makes. -/
def readRequest (node : String) (request : ReadRequest)
    : HttpRequest :=
  ⟨.get,
    (c.url (mount node ++ request.segments)).withParameter "content" (contentOf request).word,
    c.authorization, none⟩

/-- The lookup of a cross-connection or an interface. -/
def seek (exchange : Exchange σ) (isConnection : Bool) (node name : String)
    : StateM (RestconfState σ) (Except TransportError Lookup) :=
  if isConnection then (c.collaborators exchange).connection node name
  else (c.collaborators exchange).interface node name

/-- What a control request draws from what came back. -/
def rpcOutcome (rpc : String) (back : Except String HttpAnswer)
    : Except TransportError RpcResponse :=
  (received (c.url ["rests", "operations", rpc]).text back).map fun r => ⟨r.1, r.2⟩

/-- What a lookup draws from what came back. -/
def seekOutcome (isConnection : Bool) (node name : String) (back : Except String HttpAnswer)
    : Except TransportError Lookup :=
  (received (c.seekRequest isConnection node name).url.text back).bind fun r =>
    readLookup (c.place isConnection node name).text r.1 r.2

/-- What a read draws from what came back. -/
def readOutcome (node : String) (request : ReadRequest) (back : Except String HttpAnswer)
    : Except TransportError Json :=
  (received (c.readRequest node request).url.text back).bind fun r =>
    readDocument (c.url (mount node ++ request.segments)).text r.1 r.2

variable (exchange : Exchange σ)

theorem send_eq (method : HttpMethod) (url : Url) (body : Option Json)
    : c.send exchange method url body
      = received url.text <$> exchange ⟨method, url, c.authorization, body⟩ := by
  funext s
  simp only [send, bind, StateT.bind, Functor.map, StateT.map]
  rcases exchange ⟨method, url, c.authorization, body⟩ s with ⟨_ | _, _⟩ <;> rfl

theorem invoke_eq (rpc : String) (request : Json)
    : (c.collaborators exchange).invoke rpc request
      = onNetwork (c.rpcOutcome rpc <$> exchange (c.rpcRequest rpc request)) := by
  simp only [collaborators, invoke, send_eq]
  rfl

/-- A lookup makes one exchange, whichever sort of resource it is about. -/
theorem seek_eq (isConnection : Bool) (node name : String)
    : c.seek exchange isConnection node name
      = onNetwork
          (c.seekOutcome isConnection node name
            <$> exchange (c.seekRequest isConnection node name)) := by
  cases isConnection <;>
    simp only [seek, collaborators, lookup, get, send_eq] <;> rfl

theorem readFrom_eq (node : String) (request : ReadRequest)
    : c.readFrom exchange node request
      = c.readOutcome node request <$> exchange (c.readRequest node request) := by
  simp only [readFrom, get, send_eq]
  rfl

/-- A read goes to the node of its session, and nowhere if that is closed. -/
theorem read_run (session : Nat) (request : ReadRequest) (s : RestconfState σ)
    : (c.collaborators exchange).read session request s
      = match (s.sessions[session]?).join with
        | some node =>
            onNetwork (c.readOutcome node request <$> exchange (c.readRequest node request)) s
        | none => (.error (.unavailable "session" "session closed"), s) := by
  change (match (s.sessions[session]?).join with
    | some node => onNetwork (c.readFrom exchange node request)
    | none => pure _) s = _
  cases (s.sessions[session]?).join with
  | some node => simp only [readFrom_eq]
  | none => rfl

theorem unavailable_rpcOutcome (rpc : String) (back : Except String HttpAnswer)
    : Unavailable (c.rpcOutcome rpc back) ↔ Unanswered back :=
  (unavailable_map _ _).trans (unavailable_received _ _)

theorem unavailable_seekOutcome (isConnection : Bool) (node name : String)
    (back : Except String HttpAnswer)
    : Unavailable (c.seekOutcome isConnection node name back) ↔ Unanswered back :=
  (unavailable_bind (not_unavailable_readLookup _) _).trans (unavailable_received _ _)

theorem unavailable_readOutcome (node : String) (request : ReadRequest)
    (back : Except String HttpAnswer)
    : Unavailable (c.readOutcome node request back) ↔ Unanswered back :=
  (unavailable_bind (not_unavailable_readDocument _) _).trans (unavailable_received _ _)

/-- What a lookup draws from an answer tells what is there. -/
theorem tells_seekOutcome (isConnection : Bool) (node name : String) (status : Nat)
    (body : String)
    : Tells status body (c.seekOutcome isConnection node name (.ok ⟨status, body⟩)) := by
  let sent := (c.seekRequest isConnection node name).url.text
  have read
      : c.seekOutcome isConnection node name (.ok ⟨status, body⟩)
        = (readBody sent status body).bind
            (readLookup (c.place isConnection node name).text status) := by
    simp only [seekOutcome, received, sent]
    cases readBody (c.seekRequest isConnection node name).url.text status body <;> rfl
  rw [read]
  exact tells_readLookup _ _ _ _

end Calls

end RestconfClient

-----------------------------------------------------------------------------------------
-- Exchanges written down
-----------------------------------------------------------------------------------------

/-- Requests with what came back, in their order. -/
abbrev ExchangeLog :=
  List (HttpRequest × Except String HttpAnswer)

/-- The exchange with every request written down together with what came back. -/
def Exchange.recorded (exchange : Exchange σ)
    : Exchange (σ × ExchangeLog) :=
  fun request s =>
    let r := exchange request s.1
    (r.1, (r.2, s.2 ++ [(request, r.1)]))

namespace RestconfState

/-- The state with nothing written down yet. -/
def unrecorded (s : RestconfState σ)
    : RestconfState (σ × ExchangeLog) :=
  ⟨(s.network, []), s.sessions⟩

/-- The state without what was written down. -/
def withoutLog (s : RestconfState (σ × ExchangeLog))
    : RestconfState σ :=
  ⟨s.network.1, s.sessions⟩

end RestconfState

namespace RestconfClient

open Restconf

variable (c : RestconfClient) (exchange : Exchange σ)

/-- The exchanges of a run. -/
def exchanges (params : RunParameters) (topology : Topology) (s : RestconfState σ)
    : ExchangeLog :=
  (Lifecycle.verify (c.collaborators exchange.recorded) params topology s.unrecorded).2.network.2

/-- Writing exchanges down changes no answer. -/
theorem mirrors_recorded
    : Collaborators.Mirrors RestconfState.withoutLog (c.collaborators exchange.recorded)
        (c.collaborators exchange) where
  invoke rpc request s := by
    rw [invoke_eq, invoke_eq]
    rfl
  interface node name s := by
    have plain : (c.collaborators exchange).interface node name = _ :=
      c.seek_eq exchange false node name
    have recorded : (c.collaborators exchange.recorded).interface node name = _ :=
      c.seek_eq exchange.recorded false node name
    rw [plain, recorded]
    rfl
  connection node name s := by
    have plain : (c.collaborators exchange).connection node name = _ :=
      c.seek_eq exchange true node name
    have recorded : (c.collaborators exchange.recorded).connection node name = _ :=
      c.seek_eq exchange.recorded true node name
    rw [plain, recorded]
    rfl
  openSession node s := rfl
  read session request s := by
    rw [read_run, read_run]
    change (match (s.sessions[session]?).join with | some node => _ | none => _) = _
    cases (s.sessions[session]?).join with
    | some node => rfl
    | none => rfl
  close session s := rfl

theorem find_eq (node : String) (resource : PlannedResource)
    : (c.collaborators exchange).find node resource
      = onNetwork
          (c.seekOutcome resource.isConnection node resource.name
            <$> exchange (c.seekRequest resource.isConnection node resource.name)) :=
  c.seek_eq exchange resource.isConnection node resource.name

/-- A call out of reach has written down an exchange that was not answered. -/
theorem exists_unanswered {answer : Except String HttpAnswer → Except TransportError α}
    (draws : ∀ back, Unavailable (answer back) ↔ Unanswered back) {request : HttpRequest}
    {s : RestconfState (σ × ExchangeLog)}
    (unavailable : Unavailable (onNetwork (answer <$> exchange.recorded request) s).1)
    : ∃ entry ∈ (onNetwork (answer <$> exchange.recorded request) s).2.network.2,
        Unanswered entry.2 :=
  ⟨(request, (exchange request s.network.1).1), List.mem_concat_self, (draws _).mp unavailable⟩

/-- A task that meets an outage has written down an exchange that was not answered. -/
theorem exists_unanswered_of_task {node : String} {task : Task}
    {s : RestconfState (σ × ExchangeLog)} {e : RunError}
    (outage : (task.observe (c.collaborators exchange.recorded) node s).1.outage? = some e)
    : ∃ entry ∈ (task.observe (c.collaborators exchange.recorded) node s).2.network.2,
        Unanswered entry.2 := by
  cases task with
  | create plan | delete plan =>
      simp only [Task.observe, map_run, Observation.outage?, Option.map_eq_some_iff] at outage ⊢
      obtain ⟨fault, down, -⟩ := outage
      rw [invoke_eq] at down ⊢
      exact exists_unanswered exchange (c.unavailable_rpcOutcome _) (unavailable_of_outage down)
  | inspect resource | confirm resource =>
      simp only [Task.observe, map_run, Observation.outage?, Option.map_eq_some_iff] at outage ⊢
      obtain ⟨fault, down, -⟩ := outage
      rw [find_eq] at down ⊢
      exact exists_unanswered exchange (c.unavailable_seekOutcome _ _ _)
        (unavailable_of_outage down)
  | sample plan | survey plan | note finding => cases outage

/-- Tasks that meet an outage end there, and so with an exchange that was not answered. -/
theorem exists_unanswered_of_tasks {node : String} {tasks : List Task}
    {s : RestconfState (σ × ExchangeLog)} {e : RunError}
    (outage
      : (Task.observeAll (c.collaborators exchange.recorded) node tasks s).1.findSome?
          Observation.outage? = some e)
    : ∃ entry
        ∈ (Task.observeAll (c.collaborators exchange.recorded) node tasks s).2.network.2,
        Unanswered entry.2 := by
  induction tasks generalizing s with
  | nil => cases outage
  | cons task rest ih =>
      cases first : (task.observe (c.collaborators exchange.recorded) node s).1.outage? with
      | some fault =>
          rw [Task.observeAll_cons_outage rest first]
          exact c.exists_unanswered_of_task exchange first
      | none =>
          rw [Task.observeAll_cons rest first] at outage ⊢
          rw [List.findSome?_cons, first] at outage
          exact ih outage

/-- An answered exchange never aborts a run. A lookup tells by its status and its body what is
there; a request, a lookup or a read over an open session is out of reach exactly if its exchange was
not answered; and a run of which every exchange was answered gives a verdict.
-/
theorem answered_exchanges_never_abort
    : (∀ isConnection node name (s : RestconfState σ) status body,
        (exchange (c.seekRequest isConnection node name) s.network).1 = .ok ⟨status, body⟩ →
          Tells status body (c.seek exchange isConnection node name s).1)
      ∧ (∀ rpc request (s : RestconfState σ),
          Unavailable ((c.collaborators exchange).invoke rpc request s).1
          ↔ Unanswered (exchange (c.rpcRequest rpc request) s.network).1)
      ∧ (∀ isConnection node name (s : RestconfState σ),
          Unavailable (c.seek exchange isConnection node name s).1
          ↔ Unanswered (exchange (c.seekRequest isConnection node name) s.network).1)
      ∧ (∀ session node request (s : RestconfState σ),
          s.sessions[session]? = some (some node) →
            (Unavailable ((c.collaborators exchange).read session request s).1
              ↔ Unanswered (exchange (c.readRequest node request) s.network).1))
      ∧ ∀ params topology (s : RestconfState σ),
          (∀ entry ∈ c.exchanges exchange params topology s, ¬ Unanswered entry.2) →
            ∃ v, (Lifecycle.verify (c.collaborators exchange) params topology s).1 = .ok v := by
  refine ⟨?told, ?requests, ?lookups, ?reads, ?runs⟩
  case told =>
    intro isConnection node name s status body answered
    rw [seek_eq]
    change Tells status body (c.seekOutcome isConnection node name (exchange _ s.network).1)
    rw [answered]
    exact c.tells_seekOutcome isConnection node name status body
  case requests =>
    intro rpc request s
    rw [invoke_eq]
    exact c.unavailable_rpcOutcome rpc _
  case lookups =>
    intro isConnection node name s
    rw [seek_eq]
    exact c.unavailable_seekOutcome isConnection node name _
  case reads =>
    intro session node request s opened
    rw [read_run, opened]
    exact c.unavailable_readOutcome node request _
  case runs =>
    intro params topology s answered
    -- The exchanges are those of the run that writes them down, which ends like this one.
    have mirrored
        : (Lifecycle.verify (c.collaborators exchange) params topology s).1
          = (Lifecycle.verify (c.collaborators exchange.recorded) params topology
              s.unrecorded).1 :=
      congrArg Prod.fst ((c.mirrors_recorded exchange).verify params topology s.unrecorded)
    rw [exchanges, Lifecycle.verify_eq] at answered
    rw [mirrored, Lifecycle.verify_eq]
    cases outage : (Lifecycle.observations (c.collaborators exchange.recorded) params topology
      s.unrecorded).findSome? Observation.outage? with
    | some e =>
        obtain ⟨entry, among, unanswered⟩ := c.exists_unanswered_of_tasks exchange outage
        exact absurd unanswered (answered entry among)
    | none => exact ⟨_, rfl⟩

/-- A client of a controller. -/
def atController
    : RestconfClient :=
  { base := {
      scheme := "http"
      authority := some { host := "controller", port := some 8181 }
      path := .segments false [] }
    username := "admin"
    password := "admin" }

/-- A server that has no resource and runs no request, and answers with a page that says so. -/
def errorPages (page : String)
    : Exchange Unit :=
  fun request s =>
    match request.method with
    | .get => (.ok ⟨404, page⟩, s)
    | .post => (.ok ⟨500, page⟩, s)

/-- A lookup answered with an error page finds the resource absent, and a run against a server with
empty pages only makes all its exchanges and gives a verdict.
-/
theorem answered_exchanges_never_abort_error_pages
    : let params : RunParameters := { node := "XPDR-A" }
      let s : RestconfState Unit := { network := () }
      (atController.seek (errorPages "<html>not found</html>") false "XPDR-A" "XPDR1-NETWORK1-OTU"
          s).1
        = .ok (.absent 404)
      ∧ (atController.exchanges (errorPages "") params Lifecycle.oneTransponder s).length = 10
      ∧ ∃ v,
          (Lifecycle.verify (atController.collaborators (errorPages "")) params
            Lifecycle.oneTransponder s).1 = .ok v := by
  intro params s
  obtain ⟨told, -⟩ :=
    answered_exchanges_never_abort atController (errorPages "<html>not found</html>")
  obtain ⟨-, -, -, -, runs⟩ := answered_exchanges_never_abort atController (errorPages "")
  have answered
      : (atController.exchanges (errorPages "") params Lifecycle.oneTransponder s).all
          (fun entry => entry.2.isOk) = true := by
    decide +kernel
  refine ⟨?_, by decide +kernel, runs params Lifecycle.oneTransponder s ?_⟩
  · have lookup := told false "XPDR-A" "XPDR1-NETWORK1-OTU" s 404 _ rfl
    exact (lookup.absent 404).mpr ⟨rfl, Or.inl rfl⟩
  · rintro entry among ⟨reason, unanswered⟩
    have isAnswered := List.all_eq_true.mp answered entry among
    rw [unanswered] at isAnswered
    cases isAnswered

end RestconfClient

end Lightpath
