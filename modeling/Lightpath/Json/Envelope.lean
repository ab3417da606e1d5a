import Lightpath.Json.Basic

/-!
Finding one's way in answers whose shape varies: names may carry the module that defines them, the
content may sit inside a wrapper, and a list of one may be given as its only item.
-/

namespace Lightpath

namespace Json

/-- The part of a name after its last colon, if there is a colon. -/
def localName? (name : String)
    : Option String :=
  match name.toList.reverse.span (· ≠ ':') with
  | (_, []) => none
  | (reversed, _ :: _) => some (String.ofList reversed.reverse)

/-- The part of a name after its last colon, or the whole name. -/
def localName (name : String)
    : String :=
  (localName? name).getD name

/-- The member of a name, or else the first whose name has it after a module. -/
def field? (v : Json) (name : String)
    : Option Json :=
  match v with
  | .object members =>
      match members.lookup name with
      | some found => some found
      | none => (members.find? fun m => localName? m.1 = some name).map Prod.snd
  | _ => none

/-- The text of the member of a name. -/
def textField? (v : Json) (name : String)
    : Option String :=
  (v.field? name).bind string?

/-- The content of a wrapper that is the only member of its object, or the value itself. -/
def unwrap (v : Json) (wrapper : String)
    : Json :=
  match v with
  | .object [_] => (v.field? wrapper).getD v
  | _ => v

/-- The content inside an optional `data`. -/
def unwrapData (v : Json)
    : Json :=
  v.unwrap "data"

/-- The content inside an optional `output`. -/
def unwrapOutput (v : Json)
    : Json :=
  v.unwrap "output"

/-- The items of a list, which may be given as its only item; null is the empty list. -/
def asList
    : Json → List Json
  | .array items => items
  | .null => []
  | v => [v]

mutual

/-- The document without the modules in the names of nested objects; arrays are left alone. -/
def withLocalNames
    : Json → Json
  | .object members => ofMembers (membersWithLocalNames members)
  | v => v

/-- The members with local names. -/
def membersWithLocalNames
    : List (String × Json) → List (String × Json)
  | [] => []
  | (k, v) :: rest => (localName k, withLocalNames v) :: membersWithLocalNames rest

end

end Json

end Lightpath
