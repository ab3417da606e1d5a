import Lightpath.Json.Record

/-!
Enumerations whose values are written as fixed words. A document states a value by its word, alone
or as the name of an only member that holds nothing.
-/

namespace Lightpath

/-- Whether a value stands for nothing: null where there is a null, else an empty list or table. -/
def DocumentFormat.isNothing
    : DocumentFormat → Json → Bool
  | .json, .null => true
  | .toml, .array [] => true
  | .toml, .object [] => true
  | _, _ => false

namespace Json

/-- The value of an enumeration that a word names. -/
def ofWord? {α : Type} (all : List α) (word : α → String) (text : String)
    : Option α :=
  all.find? fun a => word a = text

/-- The word that a document states. -/
def word? (format : DocumentFormat)
    : Json → Option String
  | .string s => some s
  | .object [(s, v)] => if format.isNothing v then some s else none
  | _ => none

/-- The value of an enumeration that a document states. -/
def enum? {α : Type} (format : DocumentFormat) (all : List α) (word : α → String) (v : Json)
    : Option α :=
  (v.word? format).bind (ofWord? all word)

end Json

end Lightpath
