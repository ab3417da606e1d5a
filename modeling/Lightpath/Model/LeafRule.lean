import Lightpath.Json.Envelope
import Lightpath.Json.Writer
import Lightpath.Model.Role

/-!
Rules on single leaves: a leaf whose value is one of a few words, whatever module they carry, and a
leaf that is a positive number of 64 bits, stated as a number or in digits. A leaf that is absent
keeps every rule.
-/

namespace Lightpath

/-- A rule on the value of one leaf. -/
inductive LeafRule where
  | oneOf (leaf : String) (words : List String)
  | positive (leaf : String)
deriving DecidableEq, Repr

namespace LeafRule

/-- The leaf that a rule is about. -/
def leaf
    : LeafRule → String
  | .oneOf leaf _ => leaf
  | .positive leaf => leaf

/-- The number that a text of ASCII digits states, with or without a plus sign. -/
def numeral? (s : String)
    : Option Nat :=
  let digits := match s.toList with
    | '+' :: rest => rest
    | cs => cs
  if digits.isEmpty then none
  else if digits.all Char.isDigit then
    let n := digits.foldl (fun n c => n * 10 + (c.toNat - '0'.toNat)) 0
    if n < UInt64.size then some n else none
  else none

/-- The number that a leaf states, as a number or in digits. -/
def number?
    : Json → Option Nat
  | .string s => numeral? s
  | v => v.nat?

/-- Whether a rule admits a value. -/
def admits
    : LeafRule → Json → Bool
  | .oneOf _ words, .string s => words.contains (Json.localName s)
  | .oneOf _ _, _ => false
  | .positive _, v => (number? v).any fun n => 0 < n

/-- The words of the administrative states. -/
def states
    : LeafRule :=
  .oneOf "administrative-state" ["inService", "outOfService", "maintenance"]

/-- The words of the directions of a port. -/
def directions
    : LeafRule :=
  .oneOf "port-direction" ["tx", "rx", "bidirectional"]

/-- The words of the qualifiers of a port. -/
def qualifiers
    : LeafRule :=
  .oneOf "port-qual" ["roadm-internal", "roadm-external", "xpdr-network", "xpdr-client",
    "switch-network", "switch-client", "otdr", "ila-external", "ila-internal"]

/-- The words of the node types. -/
def nodeTypes
    : LeafRule :=
  .oneOf "node-type" ["rdm", "xpdr", "ila", "extplug"]

/-- The words of the kinds of xponder. -/
def xponderKinds
    : LeafRule :=
  .oneOf "xpdr-type" ["tpdr", "mpdr", "switch", "regen", "regen-uni"]

end LeafRule

/-- The rules on the leaves of a role. -/
def StructuralRole.leafRules
    : StructuralRole → List LeafRule
  | .info => [.nodeTypes]
  | .shelf => [.states]
  | .circuitPack => [.states]
  | .port => [.directions, .qualifiers, .states]
  | .xponder => [.xponderKinds]
  | .degree => [.positive "max-wavelengths"]
  | .sharedRiskGroup => [.positive "max-add-drop-ports"]
  | .slot => []
  | .capabilities => []
  | .capability => []
  | .xponderPort => []

end Lightpath
