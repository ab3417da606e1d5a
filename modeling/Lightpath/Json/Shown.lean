import Lightpath.Json.Writer
import Lightpath.Text.Quoted

/-!
Documents as they are shown inside messages: each value with the name of its sort.
-/

namespace Lightpath

namespace Json

mutual

/-- A value as it is shown. -/
def shown
    : Json → String
  | .null => "Null"
  | .bool true => "Bool(true)"
  | .bool false => "Bool(false)"
  | .number n => "Number(" ++ n.toText ++ ")"
  | .string s => "String(" ++ Text.quoted s ++ ")"
  | .array items => "Array [" ++ shownItems items ++ "]"
  | .object members => "Object \x7b" ++ shownMembers members ++ "\x7d"

/-- The items of an array as they are shown. -/
def shownItems
    : List Json → String
  | [] => ""
  | [v] => shown v
  | v :: rest => shown v ++ ", " ++ shownItems rest

/-- The members of an object as they are shown. -/
def shownMembers
    : List (String × Json) → String
  | [] => ""
  | [(k, v)] => Text.quoted k ++ ": " ++ shown v
  | (k, v) :: rest => Text.quoted k ++ ": " ++ shown v ++ ", " ++ shownMembers rest

end

end Json

end Lightpath
