import Lightpath.Lifecycle.Parameters
import Lightpath.Lifecycle.Verdict
import Lightpath.Service.ClientPath
import Lightpath.Service.OpticalPath
import Lightpath.Topology.PortClass

/-!
The agenda of a run: which services are brought up and torn down in which order, and which ports are
passed over with a finding. It follows from the topology and the parameters alone; nothing that a
node answers changes it.
-/

namespace Lightpath

/-- One step of a run. -/
inductive Step where
  | bringUp (plan : Plan)
  | tearDown (plan : Plan)
  | note (finding : Finding)
deriving Repr

namespace Agenda

/-- A service brought up and torn down again. -/
def cycle (plan : Plan)
    : List Step :=
  [.bringUp plan, .tearDown plan]

/-- What the plans of a run share. -/
def context (params : RunParameters)
    : PlanContext :=
  ⟨params.node, params.service, params.spectrum⟩

/-- The rates at which a port is run: those asked for, else those that it can carry, else the
lowest.
-/
def ratesFor (params : RunParameters) (port : Port)
    : List SignalRate :=
  if params.rates.isEmpty then
    let capable := SignalRate.ofCapabilities port
    if capable.isEmpty then [.g100] else capable
  else params.rates

/-- The finding for a port that nothing is linked to. -/
def unlinked (portClass : PortClass) (port : Port)
    : Finding :=
  { check := .create
    category := .reconstruction
    subject := port.name
    detail := "no linked " ++ portClass.partner ++ ", port not exercised" }

/-- The finding for a client that its network port has no slots for. -/
def overCapacity (network : Port) (rate : SignalRate) (client : Port) (kind : ClientKind)
    : Finding :=
  { check := .create
    category := .reconstruction
    subject := client.name
    detail := network.name ++ " at " ++ rate.word ++ " carries "
      ++ toString (kind.capacity rate) ++ " " ++ toString kind.gbps
      ++ "G clients, no tributary slots left" }

/-- The steps for the client at a position on a network port. -/
def clientSteps (ctx : PlanContext) (network : Port) (rate : SignalRate) (kind : ClientKind)
    (position : Nat) (client : Port)
    : List Step :=
  match Plan.client? ctx network rate client kind position with
  | some plan => cycle plan
  | none => [.note (overCapacity network rate client kind)]

/-- The steps for a network port at a rate: the whole path of a transponder with its first
client, or the network side with the services of all clients inside.
-/
def rateSteps (ctx : PlanContext) (record : NetworkRecord) (first : Port) (rate : SignalRate)
    : List Step :=
  match (PortClass.ofNetwork record).clientKind? with
  | none => cycle (.optical ctx record.port (some first) rate)
  | some kind =>
      let plan := Plan.optical ctx record.port none rate
      [.bringUp plan]
        ++ (record.clients.mapIdx (clientSteps ctx record.port rate kind)).flatten
        ++ [.tearDown plan]

/-- The steps for a network port. -/
def networkSteps (params : RunParameters) (record : NetworkRecord)
    : List Step :=
  match record.clients with
  | [] => [.note (unlinked (.ofNetwork record) record.port)]
  | first :: _ =>
      (ratesFor params record.port).flatMap (rateSteps (context params) record first)

/-- The steps for a degree and one shared-risk-group port: first added, then dropped. -/
def riskGroupSteps (ctx : PlanContext) (degree drop : Port)
    : List Step :=
  cycle (.roadm ctx drop degree false) ++ cycle (.roadm ctx degree drop true)

/-- The steps for a degree. -/
def degreeSteps (params : RunParameters) (record : DegreeRecord)
    : List Step :=
  if record.riskGroups.isEmpty then [.note (unlinked .degree record.port)]
  else record.riskGroups.flatMap (riskGroupSteps (context params) record.port)

/-- The steps for all ports: the network ports in order, then the degrees. -/
def ofTopology (params : RunParameters) (topology : Topology)
    : List Step :=
  topology.networks.flatMap (networkSteps params)
    ++ topology.degrees.flatMap (degreeSteps params)

end Agenda

end Lightpath
