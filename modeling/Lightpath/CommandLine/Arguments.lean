import Lightpath.Text.Split

/-!
The arguments of the command line: options for all commands, the word of a command, and the options of
that command. An option's value follows it, or is attached to it with or without an equals sign.
-/

namespace Lightpath

/-- The options for all commands. -/
structure GlobalOptions where
  config : String := "/etc/oroadm/verify.toml"
  node : Option String := none
  logLevel : String := "info"
  json : Bool := false
deriving DecidableEq, Repr

/-- The commands with their own options. -/
inductive Command where
  | schema (version category : Option String) (descriptors : List String) (file : Option String)
  | topology (file : Option String)
  | lifecycle
deriving DecidableEq, Repr

/-- What the arguments ask for. -/
inductive Usage where
  | run (options : GlobalOptions) (command : Command)
  | information
  | wrong
deriving DecidableEq, Repr

namespace Usage

/-- The paths of the files that a command may read. -/
def paths
    : Usage → List String
  | .run options (.schema _ _ descriptors file) => options.config :: descriptors ++ file.toList
  | .run options (.topology file) => options.config :: file.toList
  | .run options .lifecycle => [options.config]
  | _ => []

end Usage

namespace Arguments

/-- What values an option takes. -/
inductive OptionKind where
  | flag
  | text
  | path
deriving DecidableEq, Repr

/-- An option that a command knows. -/
structure OptionSpec where
  name : String
  letter : Option Char := none
  kind : OptionKind
  repeats : Bool := false
deriving DecidableEq, Repr

/-- The options for all commands. -/
def globalSpecs
    : List OptionSpec :=
  [{ name := "config", letter := some 'c', kind := .path },
    { name := "node", letter := some 'n', kind := .text },
    { name := "log-level", letter := some 'l', kind := .text },
    { name := "json", kind := .flag }]

/-- The options of the command that checks a device. -/
def schemaSpecs
    : List OptionSpec :=
  [{ name := "version", kind := .text },
    { name := "category", kind := .text },
    { name := "descriptors", kind := .path, repeats := true },
    { name := "file", kind := .path }]

/-- The options of the command that shows a topology. -/
def topologySpecs
    : List OptionSpec :=
  [{ name := "file", kind := .path }]

/-- What stands at the head of the arguments. -/
inductive Token where
  | option (spec : OptionSpec) (attached : Option String)
  | information
  | ending
  | word (text : String)
  | unknown

/-- The token that an argument is. -/
def token (specs : List OptionSpec) (informing : List String) (argument : String)
    : Token :=
  match argument.toList with
  | ['-', '-'] => .ending
  | '-' :: '-' :: long =>
      let (name, value) := Text.splitFirst (· = '=') long
      match specs.find? fun spec => spec.name.toList = name with
      | some spec => .option spec (value.map String.ofList)
      | none => if informing.contains argument then .information else .unknown
  | '-' :: letter :: rest =>
      match specs.find? fun spec => spec.letter = some letter with
      | some spec =>
          let attached := match rest with
            | [] => none
            | '=' :: value => some value
            | value => some value
          .option spec (attached.map String.ofList)
      | none =>
          if informing.contains (String.ofList ['-', letter]) then .information else .unknown
  | _ => .word argument

/-- Whether an argument can be the value of the option before it. -/
def isValue (argument : String)
    : Bool :=
  match argument.toList with
  | '-' :: _ :: _ => false
  | _ => true

/-- The options found, in order, and the words that follow them. -/
structure Scan where
  found : List (String × String) := []
  rest : List String := []
deriving DecidableEq, Repr

/-- Why there is no scan. -/
inductive ScanError where
  | information
  | wrong
deriving DecidableEq, Repr

/-- A scan with one option more in front of what is found after it, unless the option may not be
there again or cannot have the value.
-/
def including (spec : OptionSpec) (value : String) (seen : List String)
    (rest : List String → Except ScanError Scan)
    : Except ScanError Scan :=
  if spec.kind = .path ∧ value = "" then .error .wrong
  else if !spec.repeats && seen.contains spec.name then .error .wrong
  else (rest (spec.name :: seen)).map fun s => { s with found := (spec.name, value) :: s.found }

/-- The options at the head of the arguments up to the first word. -/
def scan (specs : List OptionSpec) (informing : List String)
    : (seen : List String) → List String → Except ScanError Scan
  | _, [] => .ok {}
  | seen, argument :: rest =>
      match token specs informing argument with
      | .information => .error .information
      | .unknown => .error .wrong
      | .word _ => .ok { rest := argument :: rest }
      | .ending => if rest.isEmpty then .ok {} else .error .wrong
      | .option spec attached =>
          match spec.kind, attached, rest with
          | .flag, some _, _ => .error .wrong
          | .flag, none, rest =>
              including spec "" seen fun seen => scan specs informing seen rest
          | _, some value, rest =>
              including spec value seen fun seen => scan specs informing seen rest
          | _, none, [] => .error .wrong
          | _, none, value :: rest =>
              if isValue value then
                including spec value seen fun seen => scan specs informing seen rest
              else .error .wrong

/-- The last value of an option. -/
def Scan.value? (s : Scan) (name : String)
    : Option String :=
  s.found.lookup name

/-- All values of an option in order. -/
def Scan.values (s : Scan) (name : String)
    : List String :=
  (s.found.filter fun p => p.1 = name).map Prod.snd

/-- The options for all commands that were found. -/
def globalOptions (s : Scan)
    : GlobalOptions :=
  let standard : GlobalOptions := {}
  { config := (s.value? "config").getD standard.config
    node := s.value? "node"
    logLevel := (s.value? "log-level").getD standard.logLevel
    json := (s.value? "json").isSome }

/-- What a command asks for by its arguments, none of which may be a word. -/
def commandUsage (options : GlobalOptions) (specs : List OptionSpec) (command : Scan → Command)
    (arguments : List String)
    : Usage :=
  match scan specs ["-h", "--help"] [] arguments with
  | .error .information => .information
  | .error .wrong => .wrong
  | .ok s => if s.rest.isEmpty then .run options (command s) else .wrong

/-- The words of the commands. -/
def commandWords
    : List String :=
  ["schema", "topology", "lifecycle", "help"]

/-- What the arguments after the common options ask for. -/
def ofCommand (options : GlobalOptions)
    : List String → Usage
  | "schema" :: rest => commandUsage options schemaSpecs
      (fun s => .schema (s.value? "version") (s.value? "category") (s.values "descriptors")
        (s.value? "file")) rest
  | "topology" :: rest =>
      commandUsage options topologySpecs (fun s => .topology (s.value? "file")) rest
  | "lifecycle" :: rest => commandUsage options [] (fun _ => .lifecycle) rest
  | ["help"] => .information
  | ["help", command] => if commandWords.contains command then .information else .wrong
  | _ => .wrong

/-- What the arguments ask for. -/
def usage (arguments : List String)
    : Usage :=
  match scan globalSpecs ["-h", "--help", "-V", "--version"] [] arguments with
  | .error .information => .information
  | .error .wrong => .wrong
  | .ok s => ofCommand (globalOptions s) s.rest

end Arguments

end Lightpath
