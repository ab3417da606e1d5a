import Lightpath.Port.Rate

/-!
The vocabulary of services: the two operations of a request, the kinds of resource that a service is
made of, and the kinds of client service with the tributary slots they take.
-/

namespace Lightpath

/-- What a request asks a node to do with a service. -/
inductive Operation where
  | create
  | delete
deriving DecidableEq, Repr

namespace Operation

/-- Both operations. -/
def all
    : List Operation :=
  [.create, .delete]

/-- The word of an operation. -/
def word
    : Operation → String
  | .create => "create"
  | .delete => "delete"

end Operation

/-- The kinds of resource in their order of listing. -/
inductive ResourceKind where
  | opticalChannel
  | transportUnit
  | dataUnit
  | ethernet
  | connection
deriving DecidableEq, Repr

namespace ResourceKind

/-- All kinds. -/
def all
    : List ResourceKind :=
  [.opticalChannel, .transportUnit, .dataUnit, .ethernet, .connection]

/-- The name under which a node lists its resources of a kind. -/
def listKey
    : ResourceKind → String
  | .opticalChannel => "och-interface-id"
  | .transportUnit => "otu-interface-id"
  | .dataUnit => "odu-interface-id"
  | .ethernet => "eth-interface-id"
  | .connection => "connection-id"

end ResourceKind

/-- The kinds of client service on a network port that switches or multiplexes. -/
inductive ClientKind where
  | ethernet10G
  | ethernet100G
deriving DecidableEq, Repr

namespace ClientKind

/-- The rate of the service in Gbit/s. -/
def gbps
    : ClientKind → Nat
  | .ethernet10G => 10
  | .ethernet100G => 100

/-- The data unit that carries the service. -/
def dataUnit
    : ClientKind → String
  | .ethernet10G => "ODU2e"
  | .ethernet100G => "ODU4"

/-- The slots of 1.25 Gbit/s that a client takes of a parent that is carried whole. -/
def wholeSlots
    : ClientKind → Nat
  | .ethernet10G => 8
  | .ethernet100G => 80

/-- The slots of 5 Gbit/s that a client takes of a parent carried in slices. -/
def slicedSlots
    : ClientKind → Nat
  | .ethernet10G => 2
  | .ethernet100G => 20

/-- The slots of 1.25 Gbit/s of a parent that is carried whole. -/
def wholePayload
    : Nat :=
  80

/-- The slots of 5 Gbit/s of one slice. -/
def slicePayload
    : Nat :=
  20

/-- How many clients of a kind fit on a network port of a rate. -/
def capacity (k : ClientKind) (rate : SignalRate)
    : Nat :=
  match rate.slices? with
  | some n => n * slicePayload / k.slicedSlots
  | none => wholePayload / k.wholeSlots

end ClientKind

end Lightpath
