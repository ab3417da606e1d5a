import Lightpath.Text.Case
import Lightpath.Json.Word

/-!
The words that a port table uses of its ports: the qualifier of a port, the kind of the xponder it
belongs to, and the role that a port has in a topology. Qualifiers and kinds are read in any
letter case and written in one.
-/

namespace Lightpath

/-- What a port is within its device. -/
inductive PortQualifier where
  | xponderNetwork
  | xponderClient
  | switchNetwork
  | switchClient
  | roadmExternal
  | roadmInternal
deriving DecidableEq, Repr

namespace PortQualifier

/-- All qualifiers. -/
def all
    : List PortQualifier :=
  [.xponderNetwork, .xponderClient, .switchNetwork, .switchClient, .roadmExternal,
    .roadmInternal]

/-- The word of a qualifier. -/
def word
    : PortQualifier → String
  | .xponderNetwork => "xpdr-network"
  | .xponderClient => "xpdr-client"
  | .switchNetwork => "switch-network"
  | .switchClient => "switch-client"
  | .roadmExternal => "roadm-external"
  | .roadmInternal => "roadm-internal"

/-- Whether a port faces the line side. -/
def isNetwork
    : PortQualifier → Bool
  | .xponderNetwork | .switchNetwork => true
  | _ => false

/-- Whether a port faces the client side. -/
def isClient
    : PortQualifier → Bool
  | .xponderClient | .switchClient => true
  | _ => false

/-- The qualifier that a text names in any letter case. -/
def ofText? (text : String)
    : Option PortQualifier :=
  Json.ofWord? all word (Text.lowerWord text)

/-- The qualifier that a document states by its exact word. -/
def ofJson?
    : Json → Option PortQualifier :=
  Json.enum? .json all word

end PortQualifier

/-- The kinds of xponder. -/
inductive XponderKind where
  | transponder
  | muxponder
  | switch
deriving DecidableEq, Repr

namespace XponderKind

/-- All kinds. -/
def all
    : List XponderKind :=
  [.transponder, .muxponder, .switch]

/-- The word of a kind. -/
def word
    : XponderKind → String
  | .transponder => "tpdr"
  | .muxponder => "mpdr"
  | .switch => "switch"

/-- The kind that a text names in any letter case. -/
def ofText? (text : String)
    : Option XponderKind :=
  Json.ofWord? all word (Text.lowerWord text)

/-- The kind that a document states by its exact word. -/
def ofJson?
    : Json → Option XponderKind :=
  Json.enum? .json all word

end XponderKind

/-- The part that a port plays in a topology. -/
inductive PortRole where
  | network
  | client
  | degree
  | riskGroup
deriving DecidableEq, Repr

namespace PortRole

/-- All roles. -/
def all
    : List PortRole :=
  [.network, .client, .degree, .riskGroup]

/-- The word of a role. -/
def word
    : PortRole → String
  | .network => "xponder-network"
  | .client => "xponder-client"
  | .degree => "degree"
  | .riskGroup => "srg"

/-- The role that a document states by its exact word. -/
def ofJson?
    : Json → Option PortRole :=
  Json.enum? .json all word

end PortRole

end Lightpath
