import Lightpath.Json.Word

/-!
The structural roles of the parts of a device's configuration, and the leaves that a role restricts
beyond their presence.
-/

namespace Lightpath

/-- What a part of a device's configuration is. -/
inductive StructuralRole where
  | info
  | shelf
  | slot
  | circuitPack
  | port
  | capabilities
  | capability
  | xponder
  | xponderPort
  | degree
  | sharedRiskGroup
deriving DecidableEq, Repr

namespace StructuralRole

/-- All roles. -/
def all
    : List StructuralRole :=
  [.info, .shelf, .slot, .circuitPack, .port, .capabilities, .capability, .xponder,
    .xponderPort, .degree, .sharedRiskGroup]

/-- The word of a role. -/
def word
    : StructuralRole → String
  | .info => "info"
  | .shelf => "shelf"
  | .slot => "slot"
  | .circuitPack => "circuit-pack"
  | .port => "port"
  | .capabilities => "capabilities"
  | .capability => "capability"
  | .xponder => "xponder"
  | .xponderPort => "xponder-port"
  | .degree => "degree"
  | .sharedRiskGroup => "shared-risk-group"

/-- The leaf that names an instance of a role among others. -/
def keyLeaf?
    : StructuralRole → Option String
  | .info => none
  | .shelf => some "shelf-name"
  | .slot => some "slot-name"
  | .circuitPack => some "circuit-pack-name"
  | .port => some "port-name"
  | .capabilities => none
  | .capability => some "if-cap-type"
  | .xponder => some "xpdr-number"
  | .xponderPort => some "index"
  | .degree => some "degree-number"
  | .sharedRiskGroup => some "srg-number"

/-- The role that a document states by its exact word. -/
def ofJson? (format : DocumentFormat)
    : Json → Option StructuralRole :=
  Json.enum? format all word

end StructuralRole

end Lightpath
