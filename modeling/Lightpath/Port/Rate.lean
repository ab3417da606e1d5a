import Lightpath.Port.Basic
import Lightpath.Text.Blank

/-!
The line rates of network ports. The lowest rate is one optical channel with one transport unit; the
higher ones are made of slices of 100 Gbit/s.
-/

namespace Lightpath

/-- The signal rate of a network port. -/
inductive SignalRate where
  | g100
  | g200
  | g300
  | g400
deriving DecidableEq, Repr

namespace SignalRate

/-- All rates, from the lowest. -/
def all
    : List SignalRate :=
  [.g100, .g200, .g300, .g400]

/-- The rate in Gbit/s. -/
def gbps
    : SignalRate → Nat
  | .g100 => 100
  | .g200 => 200
  | .g300 => 300
  | .g400 => 400

/-- The number of slices of 100 Gbit/s, unless the rate is carried whole. -/
def slices?
    : SignalRate → Option Nat
  | .g100 => none
  | .g200 => some 2
  | .g300 => some 3
  | .g400 => some 4

/-- Whether the rate is carried in slices. -/
def isSliced (r : SignalRate)
    : Bool :=
  r.slices?.isSome

/-- The modulation on the optical layer. -/
def modulation
    : SignalRate → String
  | .g100 | .g200 => "dp-qpsk"
  | .g300 => "dp-qam8"
  | .g400 => "dp-qam16"

/-- The forward error correction on the transport layer. -/
def errorCorrection
    : SignalRate → String
  | .g100 => "scfec"
  | _ => "ofec"

/-- The word of a rate. -/
def word (r : SignalRate)
    : String :=
  toString r.gbps ++ "G"

/-- The rate that a text names, with or without the unit, in any letter case. -/
def ofText? (text : String)
    : Option SignalRate :=
  let t := Text.upperWord (Text.trim text)
  all.find? fun r => t = r.word || t = toString r.gbps

/-- The rate that a document states by its exact word. -/
def ofJson? (format : DocumentFormat)
    : Json → Option SignalRate :=
  Json.enum? format all word

/-- The rates that the capabilities of a port name. -/
def ofCapabilities (p : Port)
    : List SignalRate :=
  (if p.supports "if-OCH-OTU4-ODU4" || p.supports "if-OTU4-ODU4" then [.g100] else [])
    ++ (if p.supports "if-otsi-otsigroup" || p.supports "if-OTUCn-ODUCn" then [.g400] else [])

end SignalRate

end Lightpath
