import Lightpath.Json.Envelope
import Lightpath.Port.Name
import Lightpath.Port.Qualifier

/-!
A port as the controller's table describes it, and the role that follows from its description. The
qualifier decides if there is one; only a port without any is classified by its name alone.
-/

namespace Lightpath

/-- One row of a port table. The name is the logical connection point of the port. -/
structure Port where
  name : String
  qualifierText : Option String := none
  xponderText : Option String := none
  direction : Option String := none
  circuitPack : String := ""
  supportingPort : String := ""
  connectionMap : Option String := none
  partner : Option String := none
  capabilityTexts : List String := []
  adminState : Option String := none
  operState : Option String := none
deriving DecidableEq, Repr, Inhabited

namespace Port

/-- The qualifier, unless it is absent or unknown. -/
def qualifier (p : Port)
    : Option PortQualifier :=
  p.qualifierText.bind PortQualifier.ofText?

/-- The kind of xponder, unless it is absent or unknown. -/
def xponderKind (p : Port)
    : Option XponderKind :=
  p.xponderText.bind XponderKind.ofText?

/-- The names of the capabilities without their modules. -/
def capabilities (p : Port)
    : List String :=
  p.capabilityTexts.map Json.localName

/-- Whether a port has a capability, whatever module either name carries. -/
def supports (p : Port) (capability : String)
    : Bool :=
  p.capabilities.contains (Json.localName capability)

/-- The role of a roadm port by its name. -/
def roadmRole? (name : String)
    : Option PortRole :=
  if PortName.isDegree name then some .degree
  else if PortName.isRiskGroup name then some .riskGroup
  else none

/-- The role of a port that states no qualifier, by its name. -/
def roleOfName? (name : String)
    : Option PortRole :=
  if PortName.isNetwork name then some .network
  else if PortName.isClient name then some .client
  else roadmRole? name

/-- The role that a stated qualifier gives a port of a name. -/
def roleOfQualifier? (name : String)
    : PortQualifier → Option PortRole
  | .xponderNetwork | .switchNetwork => some .network
  | .xponderClient | .switchClient => some .client
  | .roadmExternal => roadmRole? name
  | .roadmInternal => none

/-- The role of a port, if it has one. -/
def role? (p : Port)
    : Option PortRole :=
  match p.qualifierText with
  | none => roleOfName? p.name
  | some text => (PortQualifier.ofText? text).bind (roleOfQualifier? p.name)

/-- The names of the fields in a document, in their order. -/
def fields
    : List String :=
  ["logical-connection-point", "port-qual", "xpdr-type", "port-direction",
    "supporting-circuit-pack-name", "supporting-port", "connection-map-lcp", "partner-lcp",
    "supported-interface-capability", "port-admin-state", "port-oper-state"]

/-- The port that a document describes. -/
def ofJson? (v : Json)
    : Option Port := do
  let r ← JsonRecord.ofJson? fields v
  some {
    name := ← r.required "logical-connection-point" Json.string?
    qualifierText := ← r.optional "port-qual" Json.string?
    xponderText := ← r.optional "xpdr-type" Json.string?
    direction := ← r.optional "port-direction" Json.string?
    circuitPack := ← r.orElse "supporting-circuit-pack-name" "" Json.string?
    supportingPort := ← r.orElse "supporting-port" "" Json.string?
    connectionMap := ← r.optional "connection-map-lcp" Json.string?
    partner := ← r.optional "partner-lcp" Json.string?
    capabilityTexts :=
      ← r.orElse "supported-interface-capability" [] (Json.list? Json.string?)
    adminState := ← r.optional "port-admin-state" Json.string?
    operState := ← r.optional "port-oper-state" Json.string? }

/-- The document that describes a port; what is absent is left out. -/
def toJson (p : Port)
    : Json :=
  Json.ofFields [
    ("logical-connection-point", some (.string p.name)),
    ("port-qual", p.qualifierText.map .string),
    ("xpdr-type", p.xponderText.map .string),
    ("port-direction", p.direction.map .string),
    ("supporting-circuit-pack-name", some (.string p.circuitPack)),
    ("supporting-port", some (.string p.supportingPort)),
    ("connection-map-lcp", p.connectionMap.map .string),
    ("partner-lcp", p.partner.map .string),
    ("supported-interface-capability",
      if p.capabilityTexts.isEmpty then none else some (Json.ofStrings p.capabilityTexts)),
    ("port-admin-state", p.adminState.map .string),
    ("port-oper-state", p.operState.map .string)]

end Port

end Lightpath
