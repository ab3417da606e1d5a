import Lightpath.Proofs.Lifecycle.ObservedRun

/-!
Runs over collaborators that answer alike. Where collaborators answer as others do, from a state
that is a view of theirs, a run over the ones gives what the run over the others gives and ends in
the view of its state.
-/

namespace Lightpath

variable {σ τ κ α : Type}

/-- An answer with a view of the state after it. -/
def seenAs (view : σ → τ) (r : α × σ)
    : α × τ :=
  (r.1, view r.2)

namespace Telemetry

variable {source : SessionSource σ κ} {node : String} {s t : σ} {request : ReadRequest}

/-- An access without a session ends there. -/
theorem access_refused {fault : TransportError}
    (opened : source.openSession node s = (.error fault, t))
    : access source node request s = (.refused fault, t) := by
  simp only [access, bind, StateT.bind, opened]
  rfl

/-- An access with a session is a read and a close over it. -/
theorem access_made {session : κ} (opened : source.openSession node s = (.ok session, t))
    : access source node request s
      = let r := source.read session request t
        let closed := source.close session r.2
        (.made session r.1 closed.1, closed.2) := by
  simp only [access, bind, StateT.bind, opened]
  rfl

end Telemetry

/-- Collaborators over a view of the state of others, which answer as those do and move along with
them.
-/
structure Collaborators.Mirrors (view : σ → τ) (c : Collaborators σ κ) (d : Collaborators τ κ)
    : Prop where
  invoke (rpc : String) (request : Json) (s : σ)
    : d.invoke rpc request (view s) = seenAs view (c.invoke rpc request s)
  interface (node name : String) (s : σ)
    : d.interface node name (view s) = seenAs view (c.interface node name s)
  connection (node name : String) (s : σ)
    : d.connection node name (view s) = seenAs view (c.connection node name s)
  openSession (node : String) (s : σ)
    : d.openSession node (view s) = seenAs view (c.openSession node s)
  read (session : κ) (request : ReadRequest) (s : σ)
    : d.read session request (view s) = seenAs view (c.read session request s)
  close (session : κ) (s : σ)
    : d.close session (view s) = seenAs view (c.close session s)

namespace Collaborators.Mirrors

variable {view : σ → τ} {c : Collaborators σ κ} {d : Collaborators τ κ}
  (mirrors : Mirrors view c d)
include mirrors

theorem find (node : String) (resource : PlannedResource) (s : σ)
    : d.find node resource (view s) = seenAs view (c.find node resource s) := by
  rw [Collaborators.find, Collaborators.find]
  split
  · exact mirrors.connection _ _ _
  · exact mirrors.interface _ _ _

theorem access (node : String) (request : ReadRequest) (s : σ)
    : Telemetry.access d.toSessionSource node request (view s)
      = seenAs view (Telemetry.access c.toSessionSource node request s) := by
  have opening := mirrors.openSession node s
  cases opened : c.openSession node s with
  | mk answer t =>
      rw [opened] at opening
      cases answer with
      | error fault =>
          rw [Telemetry.access_refused opened, Telemetry.access_refused opening]
          rfl
      | ok session =>
          rw [Telemetry.access_made opened, Telemetry.access_made opening]
          simp only [seenAs, mirrors.read, mirrors.close]

theorem observe (node : String) (task : Task) (s : σ)
    : task.observe d node (view s) = seenAs view (task.observe c node s) := by
  cases task with
  | create plan | delete plan =>
      simp only [Task.observe, map_run, mirrors.invoke]
      rfl
  | inspect resource | confirm resource =>
      simp only [Task.observe, map_run, mirrors.find]
      rfl
  | sample plan | survey plan =>
      simp only [Task.observe, map_run, mirrors.access]
      rfl
  | note finding => rfl

theorem observeAll (node : String) (tasks : List Task) (s : σ)
    : Task.observeAll d node tasks (view s)
      = seenAs view (Task.observeAll c node tasks s) := by
  induction tasks generalizing s with
  | nil => rfl
  | cons task rest ih =>
      -- The first observation is the same on both sides, so both go on or both end there.
      have first := mirrors.observe node task s
      cases outage : (task.observe c node s).1.outage? with
      | some e =>
          rw [Task.observeAll_cons_outage rest outage, Task.observeAll_cons_outage (e := e) rest]
          · rw [first]; rfl
          · rw [first]; exact outage
      | none =>
          rw [Task.observeAll_cons rest outage, Task.observeAll_cons rest]
          · rw [first]
            simp only [seenAs, ih]
          · rw [first]; exact outage

/-- A run over a mirror ends like the run that it mirrors. -/
theorem verify (params : RunParameters) (topology : Topology) (s : σ)
    : Lifecycle.verify d params topology (view s)
      = seenAs view (Lifecycle.verify c params topology s) := by
  simp only [Lifecycle.verify_eq, Lifecycle.observations, mirrors.observeAll]
  rfl

end Collaborators.Mirrors

end Lightpath
