import Lightpath.Proofs.Lifecycle.Interaction

/-!
A run as a list of observations. Every step of an agenda is a list of tasks, every task makes
its interactions and gives one observation, and an observation says which findings it gives
rise to.
-/

namespace Lightpath

variable {σ κ : Type}

/-- One task of a run, the part of a step that asks for one thing. -/
inductive Task where
  | create (plan : Plan)
  | inspect (resource : PlannedResource)
  | sample (plan : Plan)
  | survey (plan : Plan)
  | delete (plan : Plan)
  | confirm (resource : PlannedResource)
  | note (finding : Finding)

/-- The tasks of a step in the order in which they are carried out. -/
def Step.tasks
    : Step → List Task
  | .bringUp plan =>
      .create plan :: (plan.resources.map .inspect ++ [.sample plan, .survey plan])
  | .tearDown plan => .delete plan :: plan.resources.map .confirm
  | .note finding => [.note finding]

/-- One access to telemetry: a session that was refused, or a read and a close over one
session.
-/
inductive Access (κ : Type) where
  | refused (fault : TransportError)
  | made (session : κ) (answer : Except TransportError Json)
      (closing : Except TransportError Unit)

namespace Access

/-- The document that an access gave, if it gave one. -/
def document?
    : Access κ → Option Json
  | .refused _ => none
  | .made _ answer _ => answer.toOption

/-- The interactions of an access. -/
def interactions (node : String) (request : ReadRequest)
    : Access κ → List (Interaction κ)
  | .refused fault => [.opened node (.error fault)]
  | .made session answer closing =>
      [.opened node (.ok session), .read session request answer, .closed session closing]

end Access

/-- A task with what the collaborators answered. -/
inductive Observation (κ : Type) where
  | created (plan : Plan) (answer : Except TransportError RpcResponse)
  | inspected (resource : PlannedResource) (answer : Except TransportError Lookup)
  | sampled (plan : Plan) (access : Access κ)
  | surveyed (plan : Plan) (access : Access κ)
  | deleted (plan : Plan) (answer : Except TransportError RpcResponse)
  | confirmed (resource : PlannedResource) (answer : Except TransportError Lookup)
  | noted (finding : Finding)

namespace Observation

/-- The task that an observation answers. -/
def task
    : Observation κ → Task
  | .created plan _ => .create plan
  | .inspected resource _ => .inspect resource
  | .sampled plan _ => .sample plan
  | .surveyed plan _ => .survey plan
  | .deleted plan _ => .delete plan
  | .confirmed resource _ => .confirm resource
  | .noted finding => .note finding

/-- The interaction of a lookup. -/
def lookupInteraction (node : String) (resource : PlannedResource)
    (answer : Except TransportError Lookup)
    : Interaction κ :=
  if resource.isConnection then .connectionSought node resource.name answer
  else .interfaceSought node resource.name answer

/-- The interactions that an observation was made by. -/
def interactions (node : String)
    : Observation κ → List (Interaction κ)
  | .created plan answer => [.invoked plan.rpc (plan.request .create) answer]
  | .inspected resource answer => [lookupInteraction node resource answer]
  | .sampled plan access => access.interactions node (.currentPm (.interface plan.primary))
  | .surveyed _ access => access.interactions node .activeAlarms
  | .deleted plan answer => [.invoked plan.rpc (plan.request .delete) answer]
  | .confirmed resource answer => [lookupInteraction node resource answer]
  | .noted _ => []

/-- What ends the run at an observation: a control call that did not reach the controller. -/
def outage?
    : Observation κ → Option RunError
  | .created plan answer => (TransportError.outage? answer).map (⟨plan.rpc, ·⟩)
  | .inspected resource answer =>
      (TransportError.outage? answer).map (⟨"lookup of " ++ resource.name, ·⟩)
  | .sampled _ _ => none
  | .surveyed _ _ => none
  | .deleted plan answer => (TransportError.outage? answer).map (⟨plan.rpc, ·⟩)
  | .confirmed resource answer =>
      (TransportError.outage? answer).map (⟨"lookup of " ++ resource.name, ·⟩)
  | .noted _ => none

/-- The sample that an access gave of a plan's monitored interface. -/
def sample? (plan : Plan) (access : Access κ)
    : Option PmSample :=
  access.document?.bind fun d => PmSample.find? d (.interface plan.primary)

/-- Whether an access gave an alarm on a plan's monitored interface. -/
def raised (plan : Plan) (access : Access κ)
    : Bool :=
  ((access.document?.bind Alarm.list?).getD []).any fun a =>
    a.concerns (.interface plan.primary)

/-- The findings that an observation gives rise to unless the run ends there. -/
def findings
    : Observation κ → List Finding
  | .created plan answer => Lifecycle.creationFindings plan answer.toOption
  | .inspected resource answer => Lifecycle.presenceFindings resource answer.toOption
  | .sampled plan access => Lifecycle.sampleFindings plan (sample? plan access)
  | .surveyed plan access => Lifecycle.alarmFindings plan (raised plan access)
  | .deleted plan answer => Lifecycle.deletionFindings plan answer.toOption
  | .confirmed resource answer => Lifecycle.absenceFindings resource answer.toOption
  | .noted finding => [finding]

end Observation

/-- One access to telemetry, as it goes. -/
def Telemetry.access (source : SessionSource σ κ) (node : String) (request : ReadRequest)
    : StateM σ (Access κ) := do
  match ← source.openSession node with
  | .error fault => pure (.refused fault)
  | .ok session =>
      let answer ← source.read session request
      let closing ← source.close session
      pure (.made session answer closing)

namespace Task

/-- A task carried out, with what the collaborators answered. -/
def observe (c : Collaborators σ κ) (node : String)
    : Task → StateM σ (Observation κ)
  | .create plan => .created plan <$> c.invoke plan.rpc (plan.request .create)
  | .inspect resource => .inspected resource <$> c.find node resource
  | .sample plan =>
      .sampled plan
        <$> Telemetry.access c.toSessionSource node (.currentPm (.interface plan.primary))
  | .survey plan =>
      .surveyed plan <$> Telemetry.access c.toSessionSource node .activeAlarms
  | .delete plan => .deleted plan <$> c.invoke plan.rpc (plan.request .delete)
  | .confirm resource => .confirmed resource <$> c.find node resource
  | .note finding => pure (.noted finding)

/-- Tasks carried out in order up to the first outage. -/
def observeAll (c : Collaborators σ κ) (node : String)
    : List Task → StateM σ (List (Observation κ))
  | [], s => ([], s)
  | task :: rest, s =>
      let first := task.observe c node s
      if first.1.outage?.isSome then ([first.1], first.2)
      else
        let others := observeAll c node rest first.2
        (first.1 :: others.1, others.2)

end Task

namespace Agenda

/-- The tasks of a run in the order in which they are due. -/
def tasks (params : RunParameters) (topology : Topology)
    : List Task :=
  (ofTopology params topology).flatMap Step.tasks

end Agenda

namespace Lifecycle

/-- The observations of a run from a state of the collaborators. -/
def observations (c : Collaborators σ κ) (params : RunParameters) (topology : Topology) (s : σ)
    : List (Observation κ) :=
  (Task.observeAll c params.node (Agenda.tasks params topology) s).1

end Lifecycle

end Lightpath
