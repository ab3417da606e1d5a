import Lightpath.Text.Pattern.Support
import Lightpath.Text.Split

/-!
Log filters: directives with commas between them, each a level, a target with or without a level, or a
span in brackets. Only whether a filter can be used is of interest here.
-/

namespace Lightpath

namespace LogFilter

/-- The names of the levels. -/
def levelNames
    : List String :=
  ["off", "error", "warn", "info", "debug", "trace"]

/-- Whether a text states the number of a level: zero to five, perhaps with a plus sign and zeros
in front.
-/
def isLevelNumber (cs : List Char)
    : Bool :=
  let digits := match cs with
    | '+' :: rest => rest
    | cs => cs
  !digits.isEmpty && match digits.dropWhile (· = '0') with
    | [] => true
    | [c] => ['1', '2', '3', '4', '5'].contains c
    | _ => false

/-- Whether a text states a level, which may be left out. -/
def isLevel (cs : List Char)
    : Bool :=
  cs.isEmpty || isLevelNumber cs
    || levelNames.contains (String.ofList (cs.map Char.toLower))

/-- Whether a target or a level can start with a character. -/
def isStart (c : Char)
    : Bool :=
  c = '-' || c = ':' || c = '_' || Text.isAlphanumeric c

/-- Whether a text has a digit and nothing else. -/
def isDigits (cs : List Char)
    : Bool :=
  !cs.isEmpty && cs.all Char.isDigit

/-- Whether a text is a decimal number without a sign: digits on at least one side of the point if
there is one, and an exponent if there is one.
-/
def isMagnitude (cs : List Char)
    : Bool :=
  let (mantissa, power) := Text.splitFirst (fun c => c = 'e' || c = 'E') cs
  let (whole, fraction) := Text.splitFirst (· = '.') mantissa
  let isPower := match power with
    | none => true
    | some ('+' :: digits) => isDigits digits
    | some ('-' :: digits) => isDigits digits
    | some digits => isDigits digits
  isPower && isDigits (whole ++ fraction.getD [])

/-- Whether a text is a number, which may be infinite or none at all. -/
def isNumber (cs : List Char)
    : Bool :=
  let cs := match cs with
    | '+' :: rest => rest
    | '-' :: rest => rest
    | cs => cs
  isMagnitude cs
    || ["inf", "infinity", "nan"].contains (String.ofList (cs.map Char.toLower))

/-- Whether a text can be asked of a field: a number, or else a pattern. -/
def isWanted (cs : List Char)
    : Bool :=
  isNumber cs || match Pattern.ofChars? cs with
    | some pattern => pattern.isSupported
    | none => false

/-- Whether a text is a field, perhaps with what is asked of it; what stands after a second equals
sign does not matter.
-/
def isField (cs : List Char)
    : Bool :=
  !cs.isEmpty && match Text.splitFirst (· = '=') cs with
    | (_, some rest) => isWanted (Text.splitFirst (· = '=') rest).1
    | (_, none) => true

/-- The number of bytes of a text. -/
def size (cs : List Char)
    : Nat :=
  cs.foldl (fun n c => n + c.utf8Size) 0

/-- The text before and after so many bytes, if a character ends there. -/
def splitBytes?
    : Nat → List Char → Option (List Char × List Char)
  | 0, cs => some ([], cs)
  | _, [] => none
  | n, c :: rest =>
      if c.utf8Size ≤ n then
        (splitBytes? (n - c.utf8Size) rest).map fun (before, after) => (c :: before, after)
      else none

/-- A directive with and without the blanks at its ends. Places are counted in the text without
them, but what stands at a place is taken from the text with them.
-/
structure Directive where
  written : List Char
  trimmed : List Char

namespace Directive

/-- What stands from the place of a rest on. -/
def from? (d : Directive) (rest : List Char)
    : Option (List Char) :=
  (splitBytes? (size d.trimmed - size rest) d.written).map Prod.snd

/-- What stands between the places of two rests. -/
def between? (d : Directive) (rest later : List Char)
    : Option (List Char) := do
  let (before, _) ← splitBytes? (size rest - size later) (← d.from? rest)
  some before

/-- Whether a level stands at the place of a rest. -/
def hasLevel (d : Directive) (rest : List Char)
    : Bool :=
  (d.from? rest).any isLevel

/-- Whether a rest is what can follow a span. -/
def endsSpan (d : Directive)
    : List Char → Bool
  | [] => true
  | '=' :: level => d.hasLevel level
  | _ => false

/-- Whether a rest is a span after its opening bracket: a name, a field in braces or both. -/
def hasSpan (d : Directive) (cs : List Char)
    : Bool :=
  match cs.dropWhile fun c => c ≠ ']' && c ≠ '\x7b' with
  | ']' :: rest => d.endsSpan rest
  | _ :: rest =>
      let later := rest.dropWhile (· ≠ '\x7d')
      match later with
      | _ :: ']' :: ending => (d.between? rest later).any isField && d.endsSpan ending
      | _ => false
  | [] => false

/-- Whether a directive can be used. -/
def isUsable (d : Directive)
    : Bool :=
  match d.trimmed with
  | [] => false
  | '[' :: rest => d.hasSpan rest
  | c :: rest =>
      isStart c && match rest.dropWhile fun x => x ≠ '=' && x ≠ '[' with
        | [] => true
        | '=' :: level => d.hasLevel level
        | _ :: rest => d.hasSpan rest

end Directive

/-- Whether a filter can be used; empty directives do not matter. -/
def isUsable (filter : String)
    : Bool :=
  ((Text.partsBetween (· = ',') filter.toList).filter fun d => !d.isEmpty).all fun d =>
    (Directive.mk d (Text.trimChars d)).isUsable

end LogFilter

end Lightpath
