import Lightpath.Text.Case
import Lightpath.Json.Word

/-!
Switching pools: which ports of an xponder may be connected with each other. A pool has groups of
ports; in a blocking pool they exclude each other, and a non-blocking pool has one group only.
-/

namespace Lightpath

/-- The kinds of switching pool. -/
inductive PoolKind where
  | blocking
  | nonBlocking
deriving DecidableEq, Repr

namespace PoolKind

/-- All kinds. -/
def all
    : List PoolKind :=
  [.blocking, .nonBlocking]

/-- The word of a kind. -/
def word
    : PoolKind → String
  | .blocking => "blocking"
  | .nonBlocking => "non-blocking"

/-- The kind that a text names in any letter case. -/
def ofText? (text : String)
    : Option PoolKind :=
  Json.ofWord? all word (Text.lowerWord text)

/-- The kind that a document states by its exact word. -/
def ofJson?
    : Json → Option PoolKind :=
  Json.enum? .json all word

end PoolKind

/-- One group of a pool: the names of its ports, and its bandwidths in bits per second. -/
structure PoolGroup where
  number : Nat
  ports : List String := []
  bandwidthUnit : Option Nat := none
  bandwidth : Option Nat := none
deriving DecidableEq, Repr

namespace PoolGroup

/-- The names of the fields in a document, in their order. -/
def fields
    : List String :=
  ["nbl-number", "lcp-list", "interconnect-bandwidth-unit", "interconnect-bandwidth"]

/-- The group that a document describes. -/
def ofJson? (v : Json)
    : Option PoolGroup := do
  let r ← JsonRecord.ofJson? fields v
  some {
    number := ← r.required "nbl-number" (Json.natBelow? UInt32.size)
    ports := ← r.orElse "lcp-list" [] (Json.list? Json.string?)
    bandwidthUnit := ← r.optional "interconnect-bandwidth-unit" (Json.natBelow? UInt64.size)
    bandwidth := ← r.optional "interconnect-bandwidth" (Json.natBelow? UInt64.size) }

/-- The document that describes a group. -/
def toJson (g : PoolGroup)
    : Json :=
  Json.ofFields [
    ("nbl-number", some (.ofNat g.number)),
    ("lcp-list", some (Json.ofStrings g.ports)),
    ("interconnect-bandwidth-unit", g.bandwidthUnit.map .ofNat),
    ("interconnect-bandwidth", g.bandwidth.map .ofNat)]

end PoolGroup

/-- A switching pool with the text of its kind and its groups. -/
structure SwitchingPool where
  number : Nat
  kindText : String
  groups : List PoolGroup := []
deriving DecidableEq, Repr

namespace SwitchingPool

/-- The kind of a pool, unless its text names none. -/
def kind? (pool : SwitchingPool)
    : Option PoolKind :=
  PoolKind.ofText? pool.kindText

/-- The names of the ports of all groups, in order. -/
def members (pool : SwitchingPool)
    : List String :=
  pool.groups.flatMap PoolGroup.ports

/-- The names of the fields in a document, in their order. -/
def fields
    : List String :=
  ["switching-pool-number", "switching-pool-type", "non-blocking-list"]

/-- The pool that a document describes. -/
def ofJson? (v : Json)
    : Option SwitchingPool := do
  let r ← JsonRecord.ofJson? fields v
  some {
    number := ← r.required "switching-pool-number" (Json.natBelow? UInt32.size)
    kindText := ← r.required "switching-pool-type" Json.string?
    groups := ← r.orElse "non-blocking-list" [] (Json.list? PoolGroup.ofJson?) }

/-- The document that describes a pool. -/
def toJson (pool : SwitchingPool)
    : Json :=
  Json.ofFields [
    ("switching-pool-number", some (.ofNat pool.number)),
    ("switching-pool-type", some (.string pool.kindText)),
    ("non-blocking-list", some (.array (pool.groups.map PoolGroup.toJson)))]

end SwitchingPool

end Lightpath
