import Lightpath.Proofs.Lifecycle.ObservedRun

/-!
The sessions of a run. Every session that a node grants is read once and closed before anything else
is asked of the node, whatever the read and the closing come to, and a run that ends before its time
ends between sessions.
-/

namespace Lightpath

variable {σ κ : Type}

namespace Interaction

/-- Whether an interaction opens, reads or closes a session. -/
def isSession
    : Interaction κ → Bool
  | .opened _ _ => true
  | .read _ _ _ => true
  | .closed _ _ => true
  | .invoked _ _ _ => false
  | .interfaceSought _ _ _ => false
  | .connectionSought _ _ _ => false

/-- How an interaction changes the number of open sessions. A session counts as closed when it was
asked to close, whatever came of that.
-/
def change
    : Interaction κ → Int
  | .opened _ (.ok _) => 1
  | .closed _ _ => -1
  | _ => 0

/-- The number of sessions that are open after the interactions of a log. -/
def openSessions
    : List (Interaction κ) → Int
  | [] => 0
  | i :: log => i.change + openSessions log

@[simp]
theorem openSessions_nil
    : openSessions ([] : List (Interaction κ)) = 0 :=
  rfl

@[simp]
theorem openSessions_cons (i : Interaction κ) (log : List (Interaction κ))
    : openSessions (i :: log) = i.change + openSessions log :=
  rfl

@[simp]
theorem openSessions_append (log more : List (Interaction κ))
    : openSessions (log ++ more) = openSessions log + openSessions more := by
  induction log with
  | nil => simp
  | cons i rest ih => rw [List.cons_append, openSessions_cons, openSessions_cons, ih, Int.add_assoc]

/-- Other interactions do not count. -/
theorem openSessions_filter (log : List (Interaction κ))
    : openSessions (log.filter isSession) = openSessions log := by
  induction log with
  | nil => rfl
  | cons i rest ih =>
      rw [List.filter_cons]
      split
      · simp [ih]
      · cases i <;> simp_all [isSession, change]

end Interaction

/-- The interactions of one access to a node's telemetry: a session that was refused, or one that
was granted, read once and closed.
-/
inductive SessionBlock (node : String)
    : List (Interaction κ) → Prop
  | refused (fault : TransportError)
    : SessionBlock node [.opened node (.error fault)]
  | used (session : κ) (request : ReadRequest) (answer : Except TransportError Json)
      (closing : Except TransportError Unit)
    : SessionBlock node
        [.opened node (.ok session), .read session request answer, .closed session closing]

/-- Sessions are opened and closed in turn: at most one is open at any time, and none at the end. -/
structure OneAtATime (log : List (Interaction κ))
    : Prop where
  during
    : ∀ front, front <+: log →
        0 ≤ Interaction.openSessions front ∧ Interaction.openSessions front ≤ 1
  after : Interaction.openSessions log = 0

namespace OneAtATime

theorem nil
    : OneAtATime ([] : List (Interaction κ)) where
  during := by
    intro front isFront
    rw [List.prefix_nil.mp isFront]
    simp
  after := rfl

/-- What follows a log without open sessions starts from none. -/
theorem append {log more : List (Interaction κ)} (first : OneAtATime log)
    (second : OneAtATime more)
    : OneAtATime (log ++ more) where
  during := by
    intro front isFront
    rcases List.prefix_or_prefix_of_prefix isFront (List.prefix_append log more) with
      within | ⟨rest, rfl⟩
    · exact first.during front within
    · have bound := second.during rest ((List.prefix_append_right_inj log).mp isFront)
      rwa [Interaction.openSessions_append, first.after, Int.zero_add]
  after := by rw [Interaction.openSessions_append, first.after, second.after, Int.add_zero]

theorem flatten {blocks : List (List (Interaction κ))} (each : ∀ block ∈ blocks, OneAtATime block)
    : OneAtATime blocks.flatten := by
  induction blocks with
  | nil => exact nil
  | cons block rest ih =>
      obtain ⟨first, others⟩ := List.forall_mem_cons.mp each
      exact first.append (ih others)

/-- It is enough to look at the interactions with sessions. -/
theorem of_filter {log : List (Interaction κ)}
    (sessions : OneAtATime (log.filter Interaction.isSession))
    : OneAtATime log where
  during := by
    intro front isFront
    rw [← Interaction.openSessions_filter]
    exact sessions.during _ (isFront.filter _)
  after := (Interaction.openSessions_filter log).symm.trans sessions.after

end OneAtATime

namespace SessionBlock

theorem oneAtATime {node : String} {block : List (Interaction κ)}
    (sessions : SessionBlock node block)
    : OneAtATime block where
  during := by
    intro front isFront
    cases sessions with
    | refused fault =>
        simp only [List.prefix_cons_iff, List.prefix_nil] at isFront
        rcases isFront with rfl | ⟨_, rfl, rfl⟩ <;> simp [Interaction.change]
    | used session request answer closing =>
        simp only [List.prefix_cons_iff, List.prefix_nil] at isFront
        rcases isFront with rfl | ⟨_, rfl, rfl | ⟨_, rfl, rfl | ⟨_, rfl, rfl⟩⟩⟩ <;>
          simp [Interaction.change]
  after := by cases sessions <;> simp [Interaction.change]

theorem of_access (node : String) (request : ReadRequest) (access : Access κ)
    : SessionBlock node (access.interactions node request) := by
  cases access with
  | refused fault => exact refused fault
  | made session answer closing => exact used session request answer closing

end SessionBlock

namespace Observation

/-- The sessions of an observation: those of its access to telemetry, if it is one. -/
def sessions (node : String)
    : Observation κ → List (List (Interaction κ))
  | .sampled plan access => [access.interactions node (.currentPm (.interface plan.primary))]
  | .surveyed _ access => [access.interactions node .activeAlarms]
  | _ => []

theorem sessionBlock_of_mem_sessions {node : String} {o : Observation κ}
    {block : List (Interaction κ)} (member : block ∈ o.sessions node)
    : SessionBlock node block := by
  cases o with
  | sampled plan access | surveyed plan access =>
      rw [List.mem_singleton.mp member]
      exact SessionBlock.of_access node _ access
  | created | inspected | deleted | confirmed | noted => cases member

/-- An observation has no interactions with sessions but those of its access. -/
theorem filter_isSession_interactions (node : String) (o : Observation κ)
    : (o.interactions node).filter Interaction.isSession = (o.sessions node).flatten := by
  cases o with
  | sampled plan access | surveyed plan access => cases access <;> rfl
  | inspected resource answer | confirmed resource answer =>
      rw [interactions, lookupInteraction]
      split <;> rfl
  | created | deleted | noted => rfl

end Observation

namespace Telemetry

/-- The outcomes of opening a session and of reading over it. -/
def outcome (source : SessionSource σ κ) (node : String) (request : ReadRequest) (s : σ)
    : Except TransportError (Except TransportError Json) :=
  match source.openSession node s with
  | (.error fault, _) => .error fault
  | (.ok session, opened) => .ok (source.read session request opened).1

/-- The document that the outcomes of an access give, if they give one. -/
def document?
    : Except TransportError (Except TransportError Json) → Option Json
  | .error _ => none
  | .ok answer => answer.toOption

/-- What an access gives follows from the outcomes of opening and reading alone. -/
theorem read_run (source : SessionSource σ κ) (node : String) (request : ReadRequest) (s : σ)
    : (read source node request s).1 = document? (outcome source node request s) := by
  simp only [read, outcome, bind, StateT.bind]
  rcases source.openSession node s with ⟨_ | _, _⟩ <;> rfl

end Telemetry

namespace Lifecycle

theorem filter_isSession_transcript (c : Collaborators σ κ) (params : RunParameters)
    (topology : Topology) (s : σ)
    : (transcript c params topology s).filter Interaction.isSession
      = ((observations c params topology s).flatMap
          (Observation.sessions params.node)).flatten := by
  rw [transcript_eq, List.filter_flatMap, List.flatten_eq_flatMap, List.flatMap_assoc]
  simp only [Observation.filter_isSession_interactions, List.flatten_eq_flatMap]

/-- No session of a run is leaked or nested, whatever the collaborators answer and whether the run
gives a verdict or ends before its time. The interactions with sessions are blocks one after the
other, each a refused session or one that is read once and closed; no session is open between
blocks or at the end, and never more than one. What an access to telemetry gives follows from the
outcomes of opening and reading, however the session is closed.
-/
theorem sessions_open_one_at_a_time (c : Collaborators σ κ) (params : RunParameters)
    (topology : Topology) (s : σ)
    : let log := transcript c params topology s
      (∃ blocks : List (List (Interaction κ)),
        log.filter Interaction.isSession = blocks.flatten
        ∧ (∀ block ∈ blocks, SessionBlock params.node block)
        ∧ ∀ k, Interaction.openSessions (blocks.take k).flatten = 0)
      ∧ OneAtATime log
      ∧ ∀ node t,
          let source := c.toSessionSource
          let given := fun request => Telemetry.document? (Telemetry.outcome source node request t)
          let alarms := (given .activeAlarms).bind Alarm.list?
          (∀ request, (Telemetry.read source node request t).1 = given request)
          ∧ (∀ resource,
              (Telemetry.sample source node resource t).1
              = (given (.currentPm resource)).bind fun d => PmSample.find? d resource)
          ∧ (Telemetry.alarms source node t).1 = alarms
          ∧ ∀ resource,
              (Telemetry.hasAlarm source node resource t).1
              = (alarms.getD []).any fun a => a.concerns resource := by
  intro log
  have sessions := filter_isSession_transcript c params topology s
  have blocks
      : ∀ block ∈ (observations c params topology s).flatMap (Observation.sessions params.node),
          SessionBlock params.node block := by
    intro block member
    obtain ⟨o, -, own⟩ := List.mem_flatMap.mp member
    exact Observation.sessionBlock_of_mem_sessions own
  have inTurn := OneAtATime.flatten fun block member => (blocks block member).oneAtATime
  refine ⟨⟨_, sessions, blocks, ?between⟩, ?turns, ?values⟩
  case between =>
    intro k
    exact (OneAtATime.flatten fun block member =>
      (blocks block (List.mem_of_mem_take member)).oneAtATime).after
  case turns => exact OneAtATime.of_filter (sessions ▸ inTurn)
  case values =>
    intro node t source given alarms
    refine ⟨fun request => Telemetry.read_run source node request t, ?_, ?_, ?_⟩
    · intro resource
      change (Telemetry.read source node (.currentPm resource) t).1.bind _ = _
      rw [Telemetry.read_run]
    · change (Telemetry.read source node .activeAlarms t).1.bind _ = _
      rw [Telemetry.read_run]
    · intro resource
      change (((Telemetry.read source node .activeAlarms t).1.bind Alarm.list?).getD []).any _ = _
      rw [Telemetry.read_run]

end Lifecycle

end Lightpath
