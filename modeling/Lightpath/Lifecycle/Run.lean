import Lightpath.Json.Envelope
import Lightpath.Json.Subset
import Lightpath.Lifecycle.Agenda
import Lightpath.Telemetry.Access

/-!
Running an agenda against a node. Whatever a node answers becomes a finding and the run goes on; only
a control API that cannot be reached ends it.
-/

namespace Lightpath

/-- The states that a service passes through. -/
inductive ServiceState where
  | idle
  | created
  | configChecked
  | monitored
  | alarmChecked
  | deleted
  | absenceVerified
deriving DecidableEq, Repr

namespace ServiceState

/-- All states in order. -/
def all
    : List ServiceState :=
  [.idle, .created, .configChecked, .monitored, .alarmChecked, .deleted, .absenceVerified]

/-- The word of a state. -/
def word
    : ServiceState → String
  | .idle => "Idle"
  | .created => "Created"
  | .configChecked => "ConfigChecked"
  | .monitored => "Monitored"
  | .alarmChecked => "AlarmChecked"
  | .deleted => "Deleted"
  | .absenceVerified => "AbsenceVerified"

end ServiceState

/-- What ends a run before its time. -/
structure RunError where
  operation : String
  cause : TransportError
deriving DecidableEq, Repr

namespace RunError

/-- The message of an error. -/
def message (e : RunError)
    : String :=
  "control API unavailable during " ++ e.operation ++ ": " ++ e.cause.message

end RunError

/-- A part of a run: it may change the state of the collaborators, add findings, and end the run
early, in which case the findings so far are kept.
-/
abbrev RunM (σ : Type) :=
  ExceptT RunError (StateM (Verdict × σ))

namespace Lifecycle

variable {σ κ : Type}

/-- A call of a collaborator within a run. -/
def call {α : Type} (act : StateM σ α)
    : RunM σ α :=
  fun s =>
    let (a, s') := act s.2
    (.ok a, (s.1, s'))

/-- A finding recorded. -/
def note (finding : Finding)
    : RunM σ Unit :=
  fun s => (.ok (), (s.1.record finding, s.2))

/-- The answer of a call, nothing if it gave none; a control API out of reach ends the run. -/
def answered {α : Type} (operation : String)
    : Except TransportError α → RunM σ (Option α)
  | .ok a => pure (some a)
  | .error e =>
      if e.isUnavailable then throw ⟨operation, e⟩ else pure none

/-- The answer to a plan's request. -/
def invoke (c : Collaborators σ κ) (plan : Plan) (operation : Operation)
    : RunM σ (Option RpcResponse) := do
  answered plan.rpc (← call (c.invoke plan.rpc (plan.request operation)))

/-- The answer to a lookup of a planned resource. -/
def lookup (c : Collaborators σ κ) (node : String) (resource : PlannedResource)
    : RunM σ (Option Lookup) := do
  let find := if resource.isConnection then c.connection else c.interface
  answered ("lookup of " ++ resource.name) (← call (find node resource.name))

/-- What a response says against the success of its request. -/
def failure? (response : RpcResponse)
    : Option String :=
  if !response.isSuccess then some ("status " ++ toString response.status)
  else
    let output := response.output.unwrapOutput
    if Json.isSubset (Json.ofMembers [("success", .bool true)]) output then none
    else some ("renderer reported failure: " ++ (output.textField? "result").getD "no result")

/-- The entry of a node in the list of what a request created. -/
def createdEntry? (node : String) (response : RpcResponse)
    : Option Json := do
  let entries ← response.output.unwrapOutput.field? "node-interface"
  entries.asList.find? fun e => e.textField? "node-id" = some node

/-- What a response says against the creation of the planned resources. -/
def creationFault? (plan : Plan) (response : RpcResponse)
    : Option String :=
  match failure? response with
  | some detail => some detail
  | none =>
      match createdEntry? plan.node response with
      | none => some ("no node-interface entry for " ++ plan.node)
      | some entry =>
          (Json.mismatch? plan.expectedEntry entry).map fun m =>
            "created interfaces differ at " ++ m.message

/-- The findings that the answer to a create request gives rise to. -/
def creationFindings (plan : Plan) (response : Option RpcResponse)
    : List Finding :=
  let fault := match response with
    | none => some "create call failed"
    | some response => creationFault? plan response
  fault.toList.map fun detail => ⟨.create, .assertionMismatch, plan.label, detail⟩

/-- The findings that the answer to a delete request gives rise to. -/
def deletionFindings (plan : Plan) (response : Option RpcResponse)
    : List Finding :=
  let fault := match response with
    | none => some "delete call failed"
    | some response => failure? response
  fault.toList.map fun detail => ⟨.delete, .assertionMismatch, plan.label, detail⟩

/-- The findings on a resource that was looked up while its service is there. -/
def presenceFindings (resource : PlannedResource)
    : Option Lookup → List Finding
  | some (.present config) =>
      (Json.mismatch? resource.expected config).toList.map fun m =>
        ⟨.config, .assertionMismatch, resource.name, m.message⟩
  | some (.absent status) =>
      let detail := "never appeared (status " ++ toString status ++ ")"
      [⟨.create, .lifecycleInconsistency, resource.name, detail⟩,
        ⟨.config, .lifecycleInconsistency, resource.name, detail⟩]
  | none =>
      [⟨.config, .assertionMismatch, resource.name, "configuration could not be fetched"⟩]

/-- The findings on a resource that was looked up after its service was deleted. -/
def absenceFindings (resource : PlannedResource) (answer : Option Lookup)
    : List Finding :=
  let fault := match answer with
    | some (.absent status) =>
        if absentStatuses.contains status then none
        else some ("unexpected status " ++ toString status ++ " after delete")
    | some (.present _) => some "still present after delete"
    | none => some "absence could not be confirmed"
  fault.toList.map fun detail => ⟨.delete, .lifecycleInconsistency, resource.name, detail⟩

/-- The findings on the sample of a plan's monitored interface. -/
def sampleFindings (plan : Plan) (sample : Option PmSample)
    : List Finding :=
  if sample.isSome then []
  else [⟨.pm, .telemetryUnavailable, plan.primary, "no PM sample"⟩]

/-- The findings on the alarms of a plan's monitored interface. -/
def alarmFindings (plan : Plan) (raised : Bool)
    : List Finding :=
  if raised then [] else [⟨.alarm, .telemetryUnavailable, plan.primary, "no active alarm raised"⟩]

/-- A service created, its resources compared, and its telemetry read. -/
def bringUp (c : Collaborators σ κ) (node : String) (plan : Plan)
    : RunM σ Unit := do
  (creationFindings plan (← invoke c plan .create)).forM note
  plan.resources.forM fun resource => do
    (presenceFindings resource (← lookup c node resource)).forM note
  let resource := ResourceId.interface plan.primary
  (sampleFindings plan (← call (Telemetry.sample c.toSessionSource node resource))).forM note
  (alarmFindings plan (← call (Telemetry.hasAlarm c.toSessionSource node resource))).forM note

/-- A service deleted and its resources looked for in vain. -/
def tearDown (c : Collaborators σ κ) (node : String) (plan : Plan)
    : RunM σ Unit := do
  (deletionFindings plan (← invoke c plan .delete)).forM note
  plan.resources.forM fun resource => do
    (absenceFindings resource (← lookup c node resource)).forM note

/-- One step of an agenda carried out. -/
def perform (c : Collaborators σ κ) (node : String)
    : Step → RunM σ Unit
  | .bringUp plan => bringUp c node plan
  | .tearDown plan => tearDown c node plan
  | .note finding => note finding

/-- A list of steps carried out in order, with the findings up to the end of the run. -/
def performAll (c : Collaborators σ κ) (node : String) (steps : List Step) (s : σ)
    : Except RunError Unit × Verdict × σ :=
  (steps.forM (perform c node)).run.run ({}, s)

/-- The verdict on a topology; a run that ended before its time gives none. -/
def verify (c : Collaborators σ κ) (params : RunParameters) (topology : Topology)
    : StateM σ (Except RunError Verdict) := fun s =>
  match performAll c params.node (Agenda.ofTopology params topology) s with
  | (.ok (), verdict, s) => (.ok verdict, s)
  | (.error e, _, s) => (.error e, s)

/-- The verdict on one port, with what was found up to the end of the run. -/
def verifyPort (c : Collaborators σ κ) (params : RunParameters) (record : PortRecord) (s : σ)
    : Except RunError Unit × Verdict × σ :=
  let steps := match record with
    | .network r => Agenda.networkSteps params r
    | .degree r => Agenda.degreeSteps params r
  performAll c params.node steps s

end Lifecycle

end Lightpath
