import Lightpath.Text.Hidden

/-!
Texts and lists as they are shown inside messages: a text in double quotes with what could not be
read escaped, a list in brackets, and a value that may be missing with the word for either case.
-/

namespace Lightpath

namespace Text

/-- One character inside a quoted text. -/
def escapeShown (c : Char)
    : List Char :=
  if c = '"' then ['\\', '"']
  else if c = '\\' then ['\\', '\\']
  else if c = '\n' then ['\\', 'n']
  else if c = '\r' then ['\\', 'r']
  else if c = '\t' then ['\\', 't']
  else if c.toNat = 0 then ['\\', '0']
  else if isHidden c then ['\\', 'u', '\x7b'] ++ Nat.toDigits 16 c.toNat ++ ['\x7d']
  else [c]

/-- A text in quotes. -/
def quoted (s : String)
    : String :=
  "\"" ++ String.ofList (s.toList.flatMap escapeShown) ++ "\""

/-- A list in brackets, each item shown on its own. -/
def bracketed {α : Type} (shown : α → String) (items : List α)
    : String :=
  "[" ++ ", ".intercalate (items.map shown) ++ "]"

/-- A pair in parentheses. -/
def paired (p : Nat × Nat)
    : String :=
  "(" ++ toString p.1 ++ ", " ++ toString p.2 ++ ")"

/-- A value that may be missing. -/
def shownOption {α : Type} (shown : α → String)
    : Option α → String
  | some a => "Some(" ++ shown a ++ ")"
  | none => "None"

end Text

end Lightpath
