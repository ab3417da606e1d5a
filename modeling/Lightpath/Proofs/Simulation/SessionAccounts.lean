import Lightpath.Proofs.Lifecycle.Interaction
import Lightpath.Proofs.Simulation.Reachable

/-!
The sessions that an element counts. Whatever is asked of an element and of its clones, in any order
and with any faults set in between, the two numbers it keeps tell how many sessions were granted and
how many of them were closed, each once however often it was asked to close. The sessions that are
open are those that were granted and not closed since, and only they can be read.
-/

namespace Lightpath

-----------------------------------------------------------------------------------------
-- Sessions of a log
-----------------------------------------------------------------------------------------

namespace Interaction

variable {κ : Type} [DecidableEq κ]

/-- The session that an interaction granted. -/
def granted?
    : Interaction κ → Option κ
  | .opened _ (.ok session) => some session
  | _ => none

/-- The sessions granted in a log, in their order. -/
def granted (log : List (Interaction κ))
    : List κ :=
  log.filterMap granted?

/-- The sessions that a client has to close after one more interaction. A session that is closed
again is no longer among them.
-/
def holding (sessions : List κ)
    : Interaction κ → List κ
  | .opened _ (.ok session) => sessions ++ [session]
  | .closed session _ => sessions.filter (· ≠ session)
  | _ => sessions

/-- The sessions granted in a log and not closed since. -/
def unclosed (log : List (Interaction κ))
    : List κ :=
  log.foldl holding []

omit [DecidableEq κ] in
theorem granted_concat (log : List (Interaction κ)) (i : Interaction κ)
    : granted (log ++ [i]) = granted log ++ i.granted?.toList := by
  rw [granted, List.filterMap_append, granted]
  cases granting : i.granted? <;> simp [granting]

theorem unclosed_concat (log : List (Interaction κ)) (i : Interaction κ)
    : unclosed (log ++ [i]) = holding (unclosed log) i := by
  rw [unclosed, List.foldl_append]
  rfl

end Interaction

-----------------------------------------------------------------------------------------
-- Calls on an element and its clones
-----------------------------------------------------------------------------------------

/-- One thing that is asked of an element, or done to its faults. -/
inductive ElementCall where
  | invoke (rpc : String) (request : Json)
  | interface (node name : String)
  | connection (node name : String)
  | openSession (node : String)
  | read (session : Nat) (request : ReadRequest)
  | close (session : Nat)
  | refault (faults : Faults)

namespace Element

/-- A clone of an element, which shares all that changes and may be told other rates. -/
def clone (e : Element) (rates : List (String × SignalRate))
    : Element :=
  { e with rates := rates }

/-- The state that clones share, and the interactions so far, after one more call. -/
def perform (e : Element) (p : ElementState × List (Interaction Nat))
    : ElementCall → ElementState × List (Interaction Nat)
  | .invoke rpc request => (e.collaborators.recorded.invoke rpc request p).2
  | .interface node name => (e.collaborators.recorded.interface node name p).2
  | .connection node name => (e.collaborators.recorded.connection node name p).2
  | .openSession node => (e.collaborators.recorded.openSession node p).2
  | .read session request => (e.collaborators.recorded.read session request p).2
  | .close session => (e.collaborators.recorded.close session p).2
  | .refault faults => ({ p.1 with faults := faults }, p.2)

/-- The state and the interactions after calls, each on a clone of its own rates. -/
def performAll (e : Element) (p : ElementState × List (Interaction Nat))
    (calls : List (List (String × SignalRate) × ElementCall))
    : ElementState × List (Interaction Nat) :=
  calls.foldl (fun p call => (e.clone call.1).perform p call.2) p

-----------------------------------------------------------------------------------------
-- Requests
-----------------------------------------------------------------------------------------

/-- What a state keeps of its sessions. -/
def ledger (s : ElementState)
    : Nat × Nat × List Bool :=
  (s.opened, s.closed, s.sessions)

theorem ledger_createResources (description : String) (resources : List RenderedResource)
    (s : ElementState)
    : ledger (resources.foldl (createResource description) s) = ledger s := by
  induction resources generalizing s with
  | nil => rfl
  | cons r rest ih =>
      rw [List.foldl_cons, ih, createResource]
      split
      · rfl
      · split <;> rfl

theorem ledger_deleteResources (resources : List RenderedResource) (s : ElementState)
    : ledger (resources.foldl deleteResource s) = ledger s := by
  induction resources generalizing s with
  | nil => rfl
  | cons r rest ih => exact ih (deleteResource s r)

/-- Wherever a request takes an element, its sessions stay. -/
theorem Moves.ledger_eq {e : Element} {rpc : String} {request : Json} {s t : ElementState}
    (moves : e.Moves rpc request s t)
    : ledger t = ledger s := by
  cases moves with
  | rests | notes _ => rfl
  | creates _ _ => exact ledger_createResources _ _ (logged s rpc .create)
  | deletes _ _ => exact ledger_deleteResources _ (logged s rpc .delete)

theorem ledger_invoke (e : Element) (rpc : String) (request : Json) (s : ElementState)
    : ledger (e.invoke rpc request s).2 = ledger s := by
  rw [invoke]
  split
  · rfl
  · exact (e.moves_answer rpc request s).ledger_eq

-----------------------------------------------------------------------------------------
-- Sessions
-----------------------------------------------------------------------------------------

/-- A session is refused, or has the number of those granted before. -/
theorem openSession_cases (e : Element) (node : String) (s : ElementState)
    : (∃ fault, e.openSession node s = (.error fault, s))
      ∨ e.openSession node s
        = (.ok s.sessions.length,
          { s with opened := s.opened + 1, sessions := s.sessions ++ [true] }) := by
  rw [openSession]
  split
  · exact Or.inl ⟨_, rfl⟩
  · split
    · exact Or.inl ⟨_, rfl⟩
    · exact Or.inr rfl

/-- A read changes nothing, and gives what the element documents if the session is open. -/
theorem read_eq (e : Element) (session : Nat) (request : ReadRequest) (s : ElementState)
    : e.read session request s
      = (if isOpen s session then e.document s request
          else .error (.unavailable e.node "session closed"), s) := by
  rw [read]
  split <;> rfl

-----------------------------------------------------------------------------------------
-- Accounts
-----------------------------------------------------------------------------------------

/-- A state counts the sessions of a log: they are numbered in the order in which they were granted,
those not closed are the open ones, and the numbers of closed and open sessions add up.
-/
structure Accounts (s : ElementState) (log : List (Interaction Nat))
    : Prop where
  opened : s.opened = s.sessions.length
  granted : Interaction.granted log = List.range s.sessions.length
  unclosed : Interaction.unclosed log = (List.range s.sessions.length).filter (isOpen s)
  balance : s.closed + (Interaction.unclosed log).length = s.opened

namespace Accounts

variable {s t : ElementState} {log : List (Interaction Nat)}

theorem nil
    : Accounts {} [] where
  opened := rfl
  granted := rfl
  unclosed := rfl
  balance := rfl

/-- Accounts are of the sessions only. -/
theorem of_ledger_eq (accounts : Accounts s log) (same : ledger t = ledger s)
    : Accounts t log := by
  obtain ⟨opened, closed, sessions⟩ : t.opened = s.opened ∧ t.closed = s.closed
      ∧ t.sessions = s.sessions := by
    simpa [ledger] using same
  have openness : isOpen t = isOpen s := by
    funext session
    rw [isOpen, isOpen, sessions]
  refine ⟨?_, ?_, ?_, ?_⟩
  · rw [opened, sessions, accounts.opened]
  · rw [sessions, accounts.granted]
  · rw [sessions, openness, accounts.unclosed]
  · rw [opened, closed, accounts.balance]

/-- An interaction that grants nothing and closes nothing leaves the accounts as they are. -/
theorem quiet (accounts : Accounts s log) {i : Interaction Nat} (grantsNone : i.granted? = none)
    (holds : i.holding (Interaction.unclosed log) = Interaction.unclosed log)
    : Accounts s (log ++ [i]) := by
  refine ⟨accounts.opened, ?_, ?_, ?_⟩
  · rw [Interaction.granted_concat, grantsNone, accounts.granted, Option.toList_none,
      List.append_nil]
  · rw [Interaction.unclosed_concat, holds, accounts.unclosed]
  · rw [Interaction.unclosed_concat, holds, accounts.balance]

/-- The open sessions are those not closed. -/
theorem mem_unclosed_iff (accounts : Accounts s log) {session : Nat}
    : session ∈ Interaction.unclosed log ↔ isOpen s session = true := by
  rw [accounts.unclosed, List.mem_filter, List.mem_range, and_iff_right_iff_imp]
  intro isOpen
  by_contra outside
  rw [Element.isOpen, List.getElem?_eq_none (Nat.le_of_not_lt outside)] at isOpen
  cases isOpen

theorem nodup_unclosed (accounts : Accounts s log)
    : (Interaction.unclosed log).Nodup := by
  rw [accounts.unclosed]
  exact List.nodup_range.filter _

/-- A session that is granted has the next number and is open. -/
theorem grant (accounts : Accounts s log) (node : String)
    : Accounts { s with opened := s.opened + 1, sessions := s.sessions ++ [true] }
        (log ++ [.opened node (.ok s.sessions.length)]) := by
  have count : (s.sessions ++ [true]).length = s.sessions.length + 1 := List.length_append
  have last : isOpen { s with opened := s.opened + 1, sessions := s.sessions ++ [true] }
      s.sessions.length = true := by
    simp [isOpen]
  have others : ∀ session ∈ List.range s.sessions.length,
      isOpen { s with opened := s.opened + 1, sessions := s.sessions ++ [true] } session
      = isOpen s session := by
    intro session below
    rw [isOpen, isOpen, List.getElem?_append_left (List.mem_range.mp below)]
  refine ⟨?_, ?_, ?_, ?_⟩
  · rw [count, accounts.opened]
  · rw [Interaction.granted_concat, accounts.granted, count, List.range_succ]
    rfl
  · rw [Interaction.unclosed_concat, Interaction.holding, count, List.range_succ,
      List.filter_append, List.filter_congr others, accounts.unclosed,
      List.filter_cons_of_pos last, List.filter_nil]
  · rw [Interaction.unclosed_concat, Interaction.holding, List.length_append, ← accounts.balance,
      Nat.add_assoc]
    rfl

/-- A session that is closed is taken off those that are open, if it is one of them. -/
theorem close (accounts : Accounts s log) (session : Nat)
    (answer : Except TransportError Unit)
    : Accounts (Element.close session s).2 (log ++ [.closed session answer]) := by
  rw [Element.close]
  split
  · rename_i wasOpen
    have member : session ∈ Interaction.unclosed log := accounts.mem_unclosed_iff.mpr wasOpen
    have remaining
        : (Interaction.unclosed log).filter (· ≠ session)
          = (Interaction.unclosed log).erase session := by
      rw [accounts.nodup_unclosed.erase_eq_filter]
      exact List.filter_congr fun _ _ => decide_not
    have openness (other : Nat)
        : isOpen { s with closed := s.closed + 1, sessions := s.sessions.set session false } other
          = (decide (other ≠ session) && isOpen s other) := by
      rw [isOpen, isOpen, List.getElem?_set]
      by_cases same : session = other
      · rw [if_pos same, decide_eq_false (not_not.mpr same.symm), Bool.false_and]
        split <;> rfl
      · rw [if_neg same, decide_eq_true (Ne.symm same), Bool.true_and]
    have taken : (Interaction.unclosed log).length
        = ((Interaction.unclosed log).erase session).length + 1 := by
      rw [List.length_erase_of_mem member]
      exact (Nat.succ_pred_eq_of_pos (List.length_pos_of_mem member)).symm
    refine ⟨?_, ?_, ?_, ?_⟩
    · rw [List.length_set, accounts.opened]
    · rw [Interaction.granted_concat, accounts.granted, List.length_set]
      exact List.append_nil _
    · rw [Interaction.unclosed_concat, Interaction.holding, accounts.unclosed, List.filter_filter,
        List.length_set]
      exact List.filter_congr fun other _ => (openness other).symm
    · rw [Interaction.unclosed_concat, Interaction.holding, remaining, ← accounts.balance, taken,
        Nat.add_right_comm, Nat.add_assoc]
  · rename_i notOpen
    refine accounts.quiet rfl ?_
    rw [Interaction.holding, List.filter_eq_self]
    intro other member
    rw [decide_eq_true_iff]
    rintro rfl
    exact notOpen (accounts.mem_unclosed_iff.mp member)

/-- Every call keeps the accounts. -/
theorem perform {p : ElementState × List (Interaction Nat)} (accounts : Accounts p.1 p.2)
    (e : Element) (call : ElementCall)
    : Accounts (e.perform p call).1 (e.perform p call).2 := by
  cases call with
  | invoke rpc request =>
      exact (accounts.of_ledger_eq (ledger_invoke e rpc request p.1)).quiet rfl rfl
  | interface node name => exact accounts.quiet rfl rfl
  | connection node name => exact accounts.quiet rfl rfl
  | openSession node =>
      rcases openSession_cases e node p.1 with ⟨fault, refused⟩ | granted
      · have after : e.perform p (.openSession node)
            = (p.1, p.2 ++ [.opened node (.error fault)]) := by
          simp only [Element.perform, Collaborators.recorded, Collaborators.recording,
            collaborators, refused]
        rw [after]
        exact accounts.quiet rfl rfl
      · have after : e.perform p (.openSession node)
            = ({ p.1 with opened := p.1.opened + 1, sessions := p.1.sessions ++ [true] },
              p.2 ++ [.opened node (.ok p.1.sessions.length)]) := by
          simp only [Element.perform, Collaborators.recorded, Collaborators.recording,
            collaborators, granted]
        rw [after]
        exact accounts.grant node
  | read session request =>
      have after : (e.perform p (.read session request)).1 = p.1 := by
        simp only [Element.perform, Collaborators.recorded, Collaborators.recording,
          collaborators, read_eq]
      rw [after]
      exact accounts.quiet rfl rfl
  | close session => exact accounts.close session _
  | refault faults => exact accounts.of_ledger_eq rfl

/-- So do any calls on clones. -/
theorem performAll {p : ElementState × List (Interaction Nat)} (accounts : Accounts p.1 p.2)
    (e : Element) (calls : List (List (String × SignalRate) × ElementCall))
    : Accounts (e.performAll p calls).1 (e.performAll p calls).2 := by
  induction calls generalizing p with
  | nil => exact accounts
  | cons call rest ih => exact ih (accounts.perform (e.clone call.1) call.2)

end Accounts

-----------------------------------------------------------------------------------------
-- The numbers of an element
-----------------------------------------------------------------------------------------

/-- After any calls on a new element and its clones no more sessions count as closed than as opened.
Those opened are the sessions granted, each of them another one, the difference are the sessions
granted and not closed since, and over these and no others a clone reads what the element documents.
-/
theorem session_accounts_exact (e : Element)
    (calls : List (List (String × SignalRate) × ElementCall))
    : let s := (e.performAll ({}, []) calls).1
      let log := (e.performAll ({}, []) calls).2
      s.closed ≤ s.opened
      ∧ s.opened = (Interaction.granted log).length
      ∧ (Interaction.granted log).Nodup
      ∧ s.openSessions = (Interaction.unclosed log).length
      ∧ ∀ rates session request,
          (e.clone rates).read session request s
          = (if session ∈ Interaction.unclosed log then e.document s request
              else .error (.unavailable e.node "session closed"),
            s) := by
  intro s log
  have accounts : Accounts s log := Accounts.nil.performAll e calls
  refine ⟨?closed, ?opened, ?distinct, ?unclosed, ?read⟩
  case closed => exact Nat.le.intro accounts.balance
  case opened => rw [accounts.opened, accounts.granted, List.length_range]
  case distinct =>
    rw [accounts.granted]
    exact List.nodup_range
  case unclosed => rw [ElementState.openSessions, ← accounts.balance, Nat.add_sub_cancel_left]
  case read =>
    intro rates session request
    simp only [read_eq, accounts.mem_unclosed_iff]
    rfl

end Element

end Lightpath
