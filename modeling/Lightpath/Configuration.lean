import Lightpath.Lifecycle.Parameters
import Lightpath.Node.ReadError
import Lightpath.Node.Tag
import Lightpath.Toml.Reader
import Lightpath.Toml.Writer

/-!
The configuration of a verifier: the controller, the device and the run. It is read from and written
to configuration text, checked field by field, and turned into the parameters of a run.
-/

namespace Lightpath

/-- Why a configuration cannot be used. -/
inductive ConfigError where
  | unreadable
  | invalid (field reason : String)
deriving DecidableEq, Repr

namespace ConfigError

/-- The message of an error. -/
def message
    : ConfigError → String
  | .unreadable => "failed to parse config file"
  | .invalid field reason => "invalid configuration for " ++ field ++ ": " ++ reason

end ConfigError

/-- How the controller is reached. -/
structure ControllerSettings where
  baseUrl : String := "http://127.0.0.1:8181"
  username : String := "admin"
  password : String := "admin"
  timeoutSecs : Nat := 30
deriving DecidableEq, Repr

namespace ControllerSettings

/-- The settings that a document describes. -/
def ofJson? (format : DocumentFormat) (v : Json)
    : Option ControllerSettings := do
  let r ← JsonRecord.inFormat? format ["base_url", "username", "password", "timeout_secs"] v
  let standard : ControllerSettings := {}
  some {
    baseUrl := ← r.orElse "base_url" standard.baseUrl Json.string?
    username := ← r.orElse "username" standard.username Json.string?
    password := ← r.orElse "password" standard.password Json.string?
    timeoutSecs := ← r.orElse "timeout_secs" standard.timeoutSecs (Json.natBelow? UInt64.size) }

/-- The document of the settings. -/
def toJson (c : ControllerSettings)
    : Json :=
  Json.ofMembers [
    ("base_url", .string c.baseUrl),
    ("username", .string c.username),
    ("password", .string c.password),
    ("timeout_secs", .ofNat c.timeoutSecs)]

end ControllerSettings

/-- Which device is meant and what is known of it. -/
structure DeviceSettings where
  node : Option String := none
  version : Option String := none
  category : Option String := none
deriving DecidableEq, Repr

namespace DeviceSettings

/-- The settings that a document describes. -/
def ofJson? (format : DocumentFormat) (v : Json)
    : Option DeviceSettings := do
  let r ← JsonRecord.inFormat? format ["node_id", "version", "category"] v
  some {
    node := ← r.optional "node_id" Json.string?
    version := ← r.optional "version" Json.string?
    category := ← r.optional "category" Json.string? }

/-- The document of the settings. -/
def toJson (d : DeviceSettings)
    : Json :=
  Json.ofMembers [
    ("node_id", Json.ofOption .string d.node),
    ("version", Json.ofOption .string d.version),
    ("category", Json.ofOption .string d.category)]

end DeviceSettings

/-- How services are run. -/
structure RunSettings where
  service : String := "oroadm-lifecycle"
  settleMs : Nat := 2000
  lowestSlot : Nat := 761
  highestSlot : Nat := 768
  rates : List SignalRate := []
deriving DecidableEq, Repr

namespace RunSettings

/-- The settings that a document describes. -/
def ofJson? (format : DocumentFormat) (v : Json)
    : Option RunSettings := do
  let r ← JsonRecord.inFormat? format
    ["service_name", "settle_delay_ms", "spectrum_min_slot", "spectrum_max_slot", "rates"] v
  let standard : RunSettings := {}
  some {
    service := ← r.orElse "service_name" standard.service Json.string?
    settleMs := ← r.orElse "settle_delay_ms" standard.settleMs (Json.natBelow? UInt64.size)
    lowestSlot := ← r.orElse "spectrum_min_slot" standard.lowestSlot (Json.natBelow? UInt32.size)
    highestSlot :=
      ← r.orElse "spectrum_max_slot" standard.highestSlot (Json.natBelow? UInt32.size)
    rates := ← r.orElse "rates" [] (Json.list? (SignalRate.ofJson? format)) }

/-- The document of the settings. -/
def toJson (s : RunSettings)
    : Json :=
  Json.ofMembers [
    ("service_name", .string s.service),
    ("settle_delay_ms", .ofNat s.settleMs),
    ("spectrum_min_slot", .ofNat s.lowestSlot),
    ("spectrum_max_slot", .ofNat s.highestSlot),
    ("rates", .array (s.rates.map fun r => .string r.word))]

end RunSettings

/-- A whole configuration. -/
structure Configuration where
  controller : ControllerSettings := {}
  device : DeviceSettings := {}
  run : RunSettings := {}
deriving DecidableEq, Repr

namespace Configuration

/-- The configuration that a document describes. -/
def ofJson? (format : DocumentFormat) (v : Json)
    : Option Configuration := do
  let r ← JsonRecord.inFormat? format ["controller", "device", "lifecycle"] v
  some {
    controller := ← r.orElse "controller" {} (ControllerSettings.ofJson? format)
    device := ← r.orElse "device" {} (DeviceSettings.ofJson? format)
    run := ← r.orElse "lifecycle" {} (RunSettings.ofJson? format) }

/-- The document of a configuration. -/
def toJson (c : Configuration)
    : Json :=
  Json.ofMembers [
    ("controller", c.controller.toJson),
    ("device", c.device.toJson),
    ("lifecycle", c.run.toJson)]

/-- The configuration in a file's text; without a file all settings have their defaults. -/
def load
    : Option String → Except ConfigError Configuration
  | none => .ok {}
  | some text =>
      match (Toml.parse? text).bind (ofJson? .toml) with
      | some c => .ok c
      | none => .error .unreadable

/-- One line of a configuration text. -/
def line (key value : String)
    : String :=
  key ++ " = " ++ value ++ "\n"

/-- One line for a text that may be missing. -/
def textLine (key : String)
    : Option String → String
  | some value => line key (Toml.quote value)
  | none => ""

/-- A list of texts: on one line if it has at most one item, else with one item a line. -/
def textList (texts : List String)
    : String :=
  match texts with
  | [] => "[]"
  | [t] => "[" ++ Toml.quote t ++ "]"
  | texts => "[\n" ++ String.join (texts.map fun t => "    " ++ Toml.quote t ++ ",\n") ++ "]"

/-- The text of a configuration. -/
def toText (c : Configuration)
    : String :=
  "[controller]\n"
    ++ line "base_url" (Toml.quote c.controller.baseUrl)
    ++ line "username" (Toml.quote c.controller.username)
    ++ line "password" (Toml.quote c.controller.password)
    ++ line "timeout_secs" (toString c.controller.timeoutSecs)
    ++ "\n[device]\n"
    ++ textLine "node_id" c.device.node
    ++ textLine "version" c.device.version
    ++ textLine "category" c.device.category
    ++ "\n[lifecycle]\n"
    ++ line "service_name" (Toml.quote c.run.service)
    ++ line "settle_delay_ms" (toString c.run.settleMs)
    ++ line "spectrum_min_slot" (toString c.run.lowestSlot)
    ++ line "spectrum_max_slot" (toString c.run.highestSlot)
    ++ line "rates" (textList (c.run.rates.map SignalRate.word))

/-- The configuration with another model version, unless that is missing or blank. -/
def withVersion (c : Configuration)
    : Option String → Configuration
  | some version =>
      if Text.allBlank version then c
      else { c with device := { c.device with version := some version } }
  | none => c

/-- The spectrum of the run. -/
def spectrum (c : Configuration)
    : Spectrum :=
  ⟨c.run.lowestSlot, c.run.highestSlot⟩

/-- The version of the device's model, if stated. -/
def modelVersion? (c : Configuration)
    : Option ModelVersion :=
  c.device.version.map ModelVersion.ofTag

/-- The category of the device, if stated; a word that names none is an error. -/
def category (c : Configuration)
    : Except ConfigError (Option DeviceCategory) :=
  match c.device.category with
  | none => .ok none
  | some text =>
      match DeviceCategory.ofText? text with
      | some category => .ok (some category)
      | none => .error (.invalid "device.category" (ReadError.deviceCategory text).message)

/-- The parameters of a run on a node. -/
def parameters (c : Configuration) (node : String)
    : RunParameters :=
  { node := node
    service := c.run.service
    spectrum := c.spectrum
    rates := c.run.rates
    settleMs := c.run.settleMs }

/-- Whether a text starts like the address of a web server. -/
def isWebAddress (url : String)
    : Bool :=
  "http://".isPrefixOf url || "https://".isPrefixOf url

/-- The first fault of a configuration, in the order of its checks. -/
def validate (c : Configuration)
    : Except ConfigError Unit :=
  if !isWebAddress c.controller.baseUrl then
    .error (.invalid "controller.base_url"
      ("'" ++ c.controller.baseUrl ++ "' is not an http(s) URL"))
  else if c.controller.timeoutSecs = 0 then
    .error (.invalid "controller.timeout_secs" "must be > 0")
  else if !c.spectrum.isValid then
    .error (.invalid "lifecycle.spectrum" ("invalid slot range " ++ c.spectrum.text))
  else if Text.allBlank c.run.service then
    .error (.invalid "lifecycle.service_name" "must not be empty")
  else c.category.map fun _ => ()

end Configuration

end Lightpath
