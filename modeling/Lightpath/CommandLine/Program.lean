import Lightpath.CommandLine.Arguments
import Lightpath.CommandLine.Listing
import Lightpath.CommandLine.LogFilter
import Lightpath.Lifecycle.Run
import Lightpath.Model.Builtin
import Lightpath.Model.DescriptorFile
import Lightpath.Restconf.Client

/-!
The program: a command checks a device against the checklists of its model, shows the topology of a
node, or runs the life cycle of services on it. It gives an exit code and its output; files and the
network are given to it.
-/

namespace Lightpath

/-- What the program is given besides its arguments: the texts of files by their paths, and a
model version that goes before the configured one.
-/
structure Surroundings where
  file : String → Option String
  version : Option String := none

/-- Why a command gives no result. -/
inductive ProgramError where
  | config (cause : ConfigError)
  | registry (cause : RegistryError)
  | category (text : String)
  | file (path : String)
  | transport (cause : TransportError)
  | table (cause : ReadError)
  | run (cause : RunError)
  | noNode
  | missingNode (node : String)
  | noVersion
deriving Repr

namespace ProgramError

/-- The message of an error. -/
def message
    : ProgramError → String
  | .config cause => cause.message
  | .registry cause => cause.message
  | .category text => (ReadError.deviceCategory text).message
  | .file path => "cannot read " ++ path
  | .transport cause => cause.message
  | .table cause => cause.message
  | .run cause => cause.message
  | .noNode => "no node id given (use --node or [device] node_id)"
  | .missingNode node => "port mapping has no node " ++ node
  | .noVersion => "device model version unknown (use --version)"

end ProgramError

/-- The result of a command: whether everything is as it should be, and what is to be printed. -/
structure CommandResult where
  passed : Bool
  output : String
deriving DecidableEq, Repr

/-- A part of a command. -/
abbrev CommandM (σ : Type) :=
  ExceptT ProgramError (StateM (RestconfState σ))

namespace Program

variable {σ : Type}

/-- A value that may be an error of one sort. -/
def lift {ε α : Type} (error : ε → ProgramError)
    : Except ε α → CommandM σ α
  | .ok a => pure a
  | .error e => throw (error e)

/-- A value that has to be there. -/
def demand {α : Type} (error : ProgramError)
    : Option α → CommandM σ α
  | some a => pure a
  | none => throw error

/-- The client of the configured controller. -/
def client (c : Configuration)
    : CommandM σ RestconfClient :=
  lift .transport (RestconfClient.ofSettings c.controller)

/-- The configured node. -/
def node (c : Configuration)
    : CommandM σ String :=
  demand .noNode c.device.node

/-- The document in a file. -/
def document (s : Surroundings) (path : String)
    : CommandM σ Json :=
  demand (.file path) ((s.file path).bind Json.parse?)

/-- The table of the configured node, or the first one if none is configured. -/
def select (c : Configuration) (tables : List PortTable)
    : Option PortTable :=
  match c.device.node with
  | some node => tables.find? fun t => t.node = node
  | none => tables.head?

/-- The table of the configured node in a document. -/
def tableIn (c : Configuration) (document : Json)
    : CommandM σ PortTable := do
  let tables ← lift .table (PortTable.ofDocument document)
  demand (.missingNode (c.device.node.getD "")) (select c tables)

/-- The table of the configured node as the controller hands it out. -/
def fetchTable (exchange : Exchange σ) (c : Configuration)
    : CommandM σ PortTable := do
  let client ← client c
  let node ← node c
  let answer ← (RestconfClient.onNetwork (client.portTable exchange node) : StateM _ _)
  tableIn c (← lift .transport answer)

/-- The table of the configured node, from a file if one is given. -/
def loadTable (s : Surroundings) (exchange : Exchange σ) (c : Configuration)
    : Option String → CommandM σ PortTable
  | some path => do tableIn c (← document s path)
  | none => fetchTable exchange c

/-- The configuration of the configured node as the device itself gives it. -/
def fetchDevice (exchange : Exchange σ) (c : Configuration)
    : CommandM σ (Except TransportError Json) := do
  let client ← client c
  let node ← node c
  let opened ← (RestconfClient.openSession node : StateM (RestconfState σ) _)
  let session ← lift .transport opened
  let answer ← (client.read exchange session .deviceConfig : StateM _ _)
  let _ ← (RestconfClient.close session : StateM (RestconfState σ) _)
  pure answer

/-- The registry with the descriptors of further files. -/
def loadRegistry (s : Surroundings)
    : Registry → List String → CommandM σ Registry
  | registry, [] => pure registry
  | registry, path :: rest => do
      let (registry, _) ← lift .registry (registry.load (fileEnding path) (s.file path))
      loadRegistry s registry rest
where
  /-- The part of a file's name after its last dot, unless the name starts with that dot. -/
  fileEnding (path : String)
      : String :=
    match Text.splitLast (· = '.') (Text.splitLast (· = '/') path.toList).2 with
    | (some (_ :: _), ending) => String.ofList ending
    | _ => ""

/-- The category that a command is told, or else the configured one. -/
def chosenCategory (c : Configuration)
    : Option String → CommandM σ (Option DeviceCategory)
  | some text => do
      let category ← demand (.category text) (DeviceCategory.ofText? text)
      pure (some category)
  | none => lift .config c.category

/-- The device to be checked with the port table of its node, if that can be had. -/
def deviceAndTable (s : Surroundings) (exchange : Exchange σ) (c : Configuration)
    : Option String → CommandM σ (Json × Option PortTable)
  | some path => do pure (← document s path, none)
  | none => do
      let answer ← fetchDevice exchange c
      let table ← try
          let table ← fetchTable exchange c
          pure (some table)
        catch _ => pure none
      pure (← lift .transport answer, table)

/-- The check of a device. What the command is told goes before the configuration, and that
before the port table.
-/
def schema (s : Surroundings) (exchange : Exchange σ) (c : Configuration) (json : Bool)
    (version category : Option String) (descriptors : List String) (file : Option String)
    : CommandM σ CommandResult := do
  let registry ← loadRegistry s Registry.builtin descriptors
  let category ← chosenCategory c category
  let (device, table) ← deviceAndTable s exchange c file
  let version ← demand .noVersion
    ((version.map ModelVersion.ofTag).or (c.modelVersion?.or (table.bind PortTable.version?)))
  let checker ← lift .registry (Checker.ofRegistry registry version)
  let report := checker.checkDevice device (category.or (table.bind PortTable.category?))
  pure ⟨report.isValid, if json then Listing.reportDocument report else Listing.report report⟩

/-- The topology of a node. -/
def topology (s : Surroundings) (exchange : Exchange σ) (c : Configuration) (json : Bool)
    (file : Option String)
    : CommandM σ CommandResult := do
  let table ← loadTable s exchange c file
  let result := Reconstruction.ofTable table
  let defects := result.allDefects
  let listing := if json then Listing.topologyDocument else Listing.topology
  pure ⟨defects.isEmpty, listing table.node result.topology defects⟩

/-- The life cycle of services on a node. -/
def lifecycle (exchange : Exchange σ) (c : Configuration) (json : Bool)
    : CommandM σ CommandResult := do
  let table ← fetchTable exchange c
  let result := Reconstruction.ofTable table
  let client ← client c
  let run := Lifecycle.verify (client.collaborators exchange) (c.parameters table.node)
    result.topology
  let verdict ← lift .run (← run)
  pure ⟨verdict.passed && result.allDefects.isEmpty,
    if json then Listing.verdictDocument verdict else Listing.verdict verdict⟩

/-- The configuration that holds for a command. -/
def configuration (s : Surroundings) (options : GlobalOptions)
    : Except ConfigError Configuration := do
  let c ← Configuration.load (s.file options.config)
  let c := c.withVersion s.version
  let c := match options.node with
    | some node => { c with device := { c.device with node := some node } }
    | none => c
  c.validate
  pure c

/-- The result of a command. -/
def command (s : Surroundings) (exchange : Exchange σ) (options : GlobalOptions)
    (command : Command)
    : CommandM σ CommandResult := do
  let c ← lift .config (configuration s options)
  match command with
  | .schema version category descriptors file =>
      schema s exchange c options.json version category descriptors file
  | .topology file => topology s exchange c options.json file
  | .lifecycle => lifecycle exchange c options.json

/-- The variable of the surroundings that holds the model version. -/
def versionVariable
    : String :=
  "OROADM_DEVICE_VERSION"

/-- How the program is called. -/
def usageText
    : String :=
  Listing.lines [
    "Usage: lightpath [-c FILE] [-n NODE] [-l LEVEL] [--json] COMMAND",
    "Commands:",
    "  schema [--version VERSION] [--category CATEGORY] [--descriptors FILE]... [--file FILE]",
    "  topology [--file FILE]",
    "  lifecycle"]

/-- How the program ends: its exit code, its output, and what is said of an error. -/
structure Ending where
  code : Nat
  output : String := ""
  complaint : String := ""
deriving DecidableEq, Repr

/-- The ending that a command's result brings about. -/
def endingOf
    : Except ProgramError CommandResult → Ending
  | .ok result => { code := if result.passed then 0 else 1, output := result.output }
  | .error e => { code := 2, complaint := e.message }

/-- A run of the program. -/
def run (s : Surroundings) (exchange : Exchange σ) (arguments : List String)
    : StateM σ Ending := fun network =>
  match Arguments.usage arguments with
  | .wrong => ({ code := 2, complaint := usageText }, network)
  | .information => ({ code := 0, output := usageText }, network)
  | .run options chosen =>
      if LogFilter.isUsable options.logLevel then
        let (result, after) := (command s exchange options chosen).run ⟨network, []⟩
        (endingOf result, after.network)
      else ({ code := 1, complaint := "invalid log level" }, network)

end Program

end Lightpath
