import Lightpath.Json.Basic
import Lightpath.Number.Shortest

/-!
The text of a document: compact, or with one member a line and two spaces of indent. Strings
escape the quote, the backslash and control characters only. Doubles keep a fraction part, so that
they never read back as integers.
-/

namespace Lightpath

namespace Decimal

/-- The digits of a decimal without the zeros at their end, which go to the exponent. -/
def trimZeros (digits : List Char) (exponent : Int)
    : List Char × Int :=
  let kept := (digits.reverse.dropWhile (· = '0')).reverse
  (kept, exponent + (digits.length - kept.length : Nat))

/-- The text of a decimal: positional from `10 ^ -5` to below `10 ^ 16`, always with a fraction
part; else with one digit before the point and a signed exponent.
-/
def toText (d : Decimal)
    : String :=
  if d.digits = 0 then "0.0"
  else
    let (cs, p) := trimZeros (Nat.toDigits 10 d.digits) d.exponent
    let lead := p + (cs.length : Int) - 1
    if -5 ≤ lead ∧ lead ≤ 15 then
      if 0 ≤ p then String.ofList (cs ++ List.replicate p.toNat '0') ++ ".0"
      else if 0 ≤ lead then
        let whole := lead.toNat + 1
        String.ofList (cs.take whole) ++ "." ++ String.ofList (cs.drop whole)
      else "0." ++ String.ofList (List.replicate (-lead - 1).toNat '0' ++ cs)
    else
      let mantissa := match cs with
        | [] => ""
        | [c] => String.singleton c
        | c :: rest => String.singleton c ++ "." ++ String.ofList rest
      let sign := if lead < 0 then "-" else "+"
      mantissa ++ "e" ++ sign ++ toString lead.natAbs

end Decimal

namespace Double

/-- The shortest text of a number that reads back as it. -/
def toText (x : Double)
    : String :=
  (if x.isNegative then "-" else "") ++ x.shortest.toText

end Double

/-- The text of a number. -/
def JsonNumber.toText
    : JsonNumber → String
  | .integer n => toString n
  | .double x => x.toText

namespace Json

/-- The lower-case hexadecimal digit of a number below sixteen. -/
def hexDigit (n : Nat)
    : Char :=
  Nat.digitChar (n % 16)

/-- One character inside a quoted string. -/
def escapeChar (c : Char)
    : List Char :=
  if c = '"' then ['\\', '"']
  else if c = '\\' then ['\\', '\\']
  else if c = '\x08' then ['\\', 'b']
  else if c = '\x0c' then ['\\', 'f']
  else if c = '\n' then ['\\', 'n']
  else if c = '\r' then ['\\', 'r']
  else if c = '\t' then ['\\', 't']
  else if c.toNat < 32 then ['\\', 'u', '0', '0', hexDigit (c.toNat / 16), hexDigit c.toNat]
  else [c]

/-- A string in quotes. -/
def quote (s : String)
    : String :=
  "\"" ++ String.ofList (s.toList.flatMap escapeChar) ++ "\""

mutual

/-- The text of a document without any space between its parts. -/
def compact
    : Json → String
  | .null => "null"
  | .bool true => "true"
  | .bool false => "false"
  | .number n => n.toText
  | .string s => quote s
  | .array items => "[" ++ compactItems items ++ "]"
  | .object members => "\x7b" ++ compactMembers members ++ "\x7d"

/-- The items of an array, separated by commas. -/
def compactItems
    : List Json → String
  | [] => ""
  | [v] => compact v
  | v :: rest => compact v ++ "," ++ compactItems rest

/-- The members of an object, separated by commas. -/
def compactMembers
    : List (String × Json) → String
  | [] => ""
  | [(k, v)] => quote k ++ ":" ++ compact v
  | (k, v) :: rest => quote k ++ ":" ++ compact v ++ "," ++ compactMembers rest

end

/-- A line break and the indent of a nesting depth. -/
def lineBreak (depth : Nat)
    : String :=
  "\n" ++ String.ofList (List.replicate (2 * depth) ' ')

mutual

/-- The text of a document with one item or member a line, as it stands at a nesting depth. -/
def prettyAt (depth : Nat)
    : Json → String
  | .null => "null"
  | .bool true => "true"
  | .bool false => "false"
  | .number n => n.toText
  | .string s => quote s
  | .array [] => "[]"
  | .array items => "[" ++ prettyItems (depth + 1) items ++ lineBreak depth ++ "]"
  | .object [] => "\x7b\x7d"
  | .object members =>
      "\x7b" ++ prettyMembers (depth + 1) members ++ lineBreak depth ++ "\x7d"

/-- The items of an array, each on a line of its own. -/
def prettyItems (depth : Nat)
    : List Json → String
  | [] => ""
  | [v] => lineBreak depth ++ prettyAt depth v
  | v :: rest => lineBreak depth ++ prettyAt depth v ++ "," ++ prettyItems depth rest

/-- The members of an object, each on a line of its own. -/
def prettyMembers (depth : Nat)
    : List (String × Json) → String
  | [] => ""
  | [(k, v)] => lineBreak depth ++ quote k ++ ": " ++ prettyAt depth v
  | (k, v) :: rest =>
      lineBreak depth ++ quote k ++ ": " ++ prettyAt depth v ++ ","
        ++ prettyMembers depth rest

end

/-- The text of a document with an indent of two spaces a level. -/
def pretty (v : Json)
    : String :=
  prettyAt 0 v

end Json

end Lightpath
