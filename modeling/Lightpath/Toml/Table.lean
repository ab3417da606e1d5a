import Lightpath.Json.Basic

/-!
Tables in the making. A table can be stated by its own header, implied by the header of a table
inside it, or made by a key with dots; what came about in one way can be extended only in some. A
value, an inline table among them, is never extended.
-/

namespace Lightpath

/-- How a table came about. -/
inductive TableOrigin where
  | implied
  | stated
  | dotted
deriving DecidableEq, Repr

/-- A part of a configuration text that is still being read. -/
inductive TomlNode where
  | value (value : Json)
  | table (origin : TableOrigin) (members : List (String × TomlNode))
  | tables (items : List (List (String × TomlNode)))
deriving Repr, Inhabited

namespace TomlNode

/-- The members of a table under construction. -/
abbrev Members :=
  List (String × TomlNode)

/-- The members with the node at a key replaced or added at the end. -/
def put (key : String) (node : TomlNode)
    : Members → Members
  | [] => [(key, node)]
  | (k, n) :: rest => if k = key then (k, node) :: rest else (k, n) :: put key node rest

/-- The list with its last item changed, if there is one. -/
def updateLast? {α : Type} (f : α → Option α)
    : List α → Option (List α)
  | [] => none
  | [a] => (f a).map fun b => [b]
  | a :: rest => (updateLast? f rest).map fun more => a :: more

/-- The members with the table at a path of headers changed; tables on the way are implied, and
of a list of tables the last is meant.
-/
def updateAt? (f : Members → Option Members)
    : List String → Members → Option Members
  | [], members => f members
  | key :: path, members =>
      match members.lookup key with
      | none => (updateAt? f path []).map fun inner => put key (.table .implied inner) members
      | some (.table origin inner) =>
          (updateAt? f path inner).map fun inner => put key (.table origin inner) members
      | some (.tables items) =>
          (updateLast? (updateAt? f path) items).map fun items => put key (.tables items) members
      | some (.value _) => none

/-- The members with a table stated by its header; an implied one keeps what it holds. -/
def stateTable? (key : String) (members : Members)
    : Option Members :=
  match members.lookup key with
  | none => some (put key (.table .stated []) members)
  | some (.table .implied inner) => some (put key (.table .stated inner) members)
  | some _ => none

/-- The members with one more table in the list at a key. -/
def stateItem? (key : String) (members : Members)
    : Option Members :=
  match members.lookup key with
  | none => some (put key (.tables [[]]) members)
  | some (.tables items) => some (put key (.tables (items ++ [[]])) members)
  | some _ => none

/-- The members with a value at a key with dots, given how the present table came about. Every
key names a value once, and a table that a header stated takes no dotted key.
-/
def putValue? (origin : TableOrigin) (first : Bool) (value : Json)
    : List String → Members → Option Members
  | [], _ => none
  | [key], members =>
      if !first && origin ≠ .dotted then none
      else match members.lookup key with
        | none => some (put key (.value value) members)
        | some _ => none
  | key :: path, members =>
      match members.lookup key with
      | none =>
          (putValue? .dotted false value path []).map fun inner =>
            put key (.table .dotted inner) members
      | some (.table .stated _) => none
      | some (.table inside inner) =>
          (putValue? inside false value path inner).map fun inner =>
            put key (.table inside inner) members
      | some (.tables items) =>
          (updateLast? (putValue? .stated false value path) items).map fun items =>
            put key (.tables items) members
      | some (.value _) => none

mutual

/-- The document of a node. -/
def toJson
    : TomlNode → Json
  | .value v => v
  | .table _ members => .object (membersJson members)
  | .tables items => .array (itemsJson items)

/-- The members of the document of a table. -/
def membersJson
    : List (String × TomlNode) → List (String × Json)
  | [] => []
  | (k, n) :: rest => (k, toJson n) :: membersJson rest

/-- The items of the document of a list of tables. -/
def itemsJson
    : List (List (String × TomlNode)) → List Json
  | [] => []
  | members :: rest => .object (membersJson members) :: itemsJson rest

end

end TomlNode

end Lightpath
