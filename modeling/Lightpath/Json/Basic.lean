import Lightpath.Keyed
import Lightpath.Number.Double

/-!
JSON documents as data. An object keeps its members in ascending order of their names, each name
once; `Json.ofMembers` builds one from members in any order. Integers and doubles are different
numbers even where their values agree.
-/

namespace Lightpath

/-- A number of a document: an integer of at most 64 bits, or a double. -/
inductive JsonNumber where
  | integer (value : Int)
  | double (value : Double)
deriving DecidableEq, Repr

namespace JsonNumber

/-- Equality of numbers: integers by value, doubles numerically, never one with the other. -/
instance : BEq JsonNumber where
  beq
    | .integer m, .integer n => decide (m = n)
    | .double x, .double y => x == y
    | _, _ => false

end JsonNumber

/-- A JSON document or a part of one. -/
inductive Json where
  | null
  | bool (value : Bool)
  | number (value : JsonNumber)
  | string (value : String)
  | array (items : List Json)
  | object (members : List (String × Json))
deriving Repr, Inhabited

namespace Json

mutual

/-- Equality of documents: numbers as numbers, arrays item by item, objects member by member. -/
def equal
    : Json → Json → Bool
  | .null, .null => true
  | .bool a, .bool b => a == b
  | .number a, .number b => a == b
  | .string a, .string b => a == b
  | .array a, .array b => equalItems a b
  | .object a, .object b => equalMembers a b
  | _, _ => false

/-- Equality of two lists of items. -/
def equalItems
    : List Json → List Json → Bool
  | [], [] => true
  | a :: as, b :: bs => equal a b && equalItems as bs
  | _, _ => false

/-- Equality of two lists of members. -/
def equalMembers
    : List (String × Json) → List (String × Json) → Bool
  | [], [] => true
  | (k, a) :: as, (l, b) :: bs => k == l && equal a b && equalMembers as bs
  | _, _ => false

end

instance : BEq Json := ⟨equal⟩

/-- An object with the given members; of two with one name the later stays. -/
def ofMembers (members : List (String × Json))
    : Json :=
  .object (Keyed.ofList members)

/-- The member of an object by its name. -/
def get?
    : Json → String → Option Json
  | .object members, key => members.lookup key
  | _, _ => none

/-- The text of a string. -/
def string?
    : Json → Option String
  | .string s => some s
  | _ => none

/-- The items of an array. -/
def items?
    : Json → Option (List Json)
  | .array items => some items
  | _ => none

/-- The members of an object. -/
def members?
    : Json → Option (List (String × Json))
  | .object members => some members
  | _ => none

/-- The value of a boolean. -/
def bool?
    : Json → Option Bool
  | .bool b => some b
  | _ => none

/-- The value of an integer that is not negative. -/
def nat?
    : Json → Option Nat
  | .number (.integer n) => if 0 ≤ n then some n.toNat else none
  | _ => none

/-- The value of an integer below a bound. -/
def natBelow? (bound : Nat) (v : Json)
    : Option Nat :=
  match v.nat? with
  | some n => if n < bound then some n else none
  | none => none

/-- Whether the value is an object. -/
def isObject
    : Json → Bool
  | .object _ => true
  | _ => false

/-- The number of an integer. -/
def ofNat (n : Nat)
    : Json :=
  .number (.integer n)

/-- The number of a double. -/
def ofDouble (x : Double)
    : Json :=
  .number (.double x)

/-- A value that may be missing, written as null. -/
def ofOption {α : Type} (write : α → Json)
    : Option α → Json
  | some a => write a
  | none => .null

/-- A list of texts. -/
def ofStrings (texts : List String)
    : Json :=
  .array (texts.map .string)

end Json

end Lightpath
