import Lightpath.Main
import Lightpath.Simulation.Assertion
import Lightpath.Simulation.Rehearsal
import Lightpath.Simulation.Server
import Lightpath.Simulation.Specimen.Device
import Lightpath.Proofs.Lifecycle.Interaction
import Lightpath.Proofs.Lifecycle.Observation
import Lightpath.Proofs.Lifecycle.ObservedRun
import Lightpath.Proofs.Keyed
import Lightpath.Proofs.Lifecycle.Schedule
import Lightpath.Proofs.Json.Covering
import Lightpath.Proofs.Lifecycle.Evidence
import Lightpath.Proofs.Topology.DeclaredLinkage
import Lightpath.Proofs.Topology.Defects
import Lightpath.Proofs.Topology.FirstRows
import Lightpath.Proofs.Json.Members
import Lightpath.Proofs.Topology.Clean
import Lightpath.Proofs.Simulation.Faultless
import Lightpath.Proofs.Simulation.Realization
import Lightpath.Proofs.Simulation.Telemetry
import Lightpath.Proofs.Service.Slots
import Lightpath.Proofs.Simulation.Requests
import Lightpath.Proofs.Simulation.Likeness
import Lightpath.Proofs.Simulation.RealizedPlans
import Lightpath.Proofs.Simulation.Agreement
import Lightpath.Proofs.Json.Containment
import Lightpath.Proofs.Model.Conforming
import Lightpath.Proofs.Model.CountedDefects
import Lightpath.Proofs.Model.Registration
import Lightpath.Proofs.Simulation.Rendered
import Lightpath.Proofs.Lifecycle.Settled
import Lightpath.Proofs.Simulation.Restoration
import Lightpath.Proofs.Simulation.Reachable
import Lightpath.Proofs.Service.Expectations
import Lightpath.Proofs.Simulation.CarriedAgenda
import Lightpath.Proofs.Simulation.KeptOut
import Lightpath.Proofs.Simulation.Blame
import Lightpath.Proofs.Topology.SharedMembers
import Lightpath.Proofs.Topology.LaterRows
import Lightpath.Proofs.Topology.WellFormed
import Lightpath.Proofs.Lifecycle.Sessions
import Lightpath.Proofs.Model.ThreadedWalk
import Lightpath.Proofs.Lifecycle.TerminationPoints
import Lightpath.Proofs.Simulation.SilentClients
import Lightpath.Proofs.Json.WrittenRecords
import Lightpath.Proofs.Node.Documents
import Lightpath.Proofs.Json.Requalified
import Lightpath.Proofs.Telemetry.ModuleNames
import Lightpath.Proofs.Lifecycle.CreatedEntries
import Lightpath.Proofs.Topology.ClientRoles
import Lightpath.Proofs.Model.KnownVersions
import Lightpath.Proofs.Model.InstanceNames
import Lightpath.Proofs.Node.SettledTags
import Lightpath.Proofs.Telemetry.FoundSamples
import Lightpath.Proofs.Simulation.MirroredTelemetry
import Lightpath.Proofs.Model.SoftAttributes
import Lightpath.Proofs.Json.FirstMismatch
import Lightpath.Proofs.Topology.Reordered
import Lightpath.Proofs.Port.RoleGrammar
import Lightpath.Proofs.Simulation.TruthfulAnswers
import Lightpath.Proofs.Service.NestedNames
import Lightpath.Proofs.Simulation.NestedServices
import Lightpath.Proofs.Lifecycle.MirroredRun
import Lightpath.Proofs.Restconf.AnsweredExchanges
import Lightpath.Proofs.Service.Words
import Lightpath.Proofs.Telemetry.SharedPaths
import Lightpath.Proofs.Simulation.SessionAccounts
import Lightpath.Proofs.Session.FilterTexts
