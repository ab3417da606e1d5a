import Lightpath.Service.Kind
import Lightpath.Topology.Record

/-!
The classes of port by how they are exercised. What a transponder pairs with one client, the other
xponders carry as services of several clients.
-/

namespace Lightpath

/-- How a port is exercised. -/
inductive PortClass where
  | transponder
  | muxponder
  | switch
  | degree
deriving DecidableEq, Repr

namespace PortClass

/-- The class of a network port: a transponder unless its kind says otherwise. -/
def ofNetwork (r : NetworkRecord)
    : PortClass :=
  match r.kind with
  | some .muxponder => .muxponder
  | some .switch => .switch
  | some .transponder => .transponder
  | none => .transponder

/-- The word of a class. -/
def word
    : PortClass → String
  | .transponder => "transponder"
  | .muxponder => "muxponder"
  | .switch => "switch"
  | .degree => "degree"

/-- What a port of a class has to be linked to. -/
def partner
    : PortClass → String
  | .degree => "shared-risk-group port"
  | _ => "client port"

/-- The kind of service that the clients of a port get, unless they are part of its own path. -/
def clientKind?
    : PortClass → Option ClientKind
  | .muxponder => some .ethernet10G
  | .switch => some .ethernet100G
  | _ => none

end PortClass

end Lightpath
