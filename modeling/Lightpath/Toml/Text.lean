import Lightpath.Json.Reader
import Lightpath.Toml.Scalar

/-!
The quoted texts of a configuration text: with escapes or verbatim, on one line or on several. On
several lines the first line break goes unnoticed if nothing stands before it, and a backslash at
the end of a line takes the blanks after it away.
-/

namespace Lightpath

namespace Toml

/-- Whether a character may not stand in a text as itself. -/
def isControl (c : Char)
    : Bool :=
  (c.toNat < 32 && c ≠ '\t') || c.toNat = 127

/-- The character with a number given in hexadecimal digits. -/
def charOfHex? (digits : List Char)
    : Option Char :=
  let n := numberIn 16 digits
  if digits.all isHexDigit && (n < 0xD800 || (0xDFFF < n && n < 0x110000)) then
    some (Char.ofNat n)
  else none

/-- The character of an escape, which begins after the backslash, and what follows it. -/
def escape?
    : List Char → Option (Char × List Char)
  | 'b' :: rest => some ('\x08', rest)
  | 't' :: rest => some ('\t', rest)
  | 'n' :: rest => some ('\n', rest)
  | 'f' :: rest => some ('\x0c', rest)
  | 'r' :: rest => some ('\r', rest)
  | 'e' :: rest => some ('\x1b', rest)
  | '"' :: rest => some ('"', rest)
  | '\\' :: rest => some ('\\', rest)
  | 'x' :: a :: b :: rest => (charOfHex? [a, b]).map fun c => (c, rest)
  | 'u' :: a :: b :: c :: d :: rest => (charOfHex? [a, b, c, d]).map fun c => (c, rest)
  | 'U' :: a :: b :: c :: d :: e :: f :: g :: h :: rest =>
      (charOfHex? [a, b, c, d, e, f, g, h]).map fun c => (c, rest)
  | _ => none

/-- The rest of a verbatim text up to its quote, after the characters read so far in reverse. -/
def verbatim? (read : List Char)
    : List Char → Option (String × List Char)
  | [] => none
  | c :: rest =>
      if c = '\'' then some (String.ofList read.reverse, rest)
      else if isControl c then none
      else verbatim? (c :: read) rest

/-- The rest of a text with escapes up to its quote, after the characters read so far in
reverse; no more than `limit` characters and escapes are read.
-/
def basic? (limit : Nat) (read cs : List Char)
    : Option (String × List Char) :=
  match limit with
  | 0 => none
  | limit + 1 =>
      match cs with
      | [] => none
      | '"' :: rest => some (String.ofList read.reverse, rest)
      | '\\' :: rest =>
          match escape? rest with
          | some (c, rest) => basic? limit (c :: read) rest
          | none => none
      | c :: rest => if isControl c then none else basic? limit (c :: read) rest

/-- The text without a line break at its head. -/
def dropLineBreak
    : List Char → List Char
  | '\n' :: rest => rest
  | '\r' :: '\n' :: rest => rest
  | cs => cs

/-- The end of a text of several lines: three quotes, before which up to two more belong to the
text; `quotes` of them stand at the head.
-/
def closing? (mark : Char) (read cs : List Char)
    : Option (String × List Char) :=
  let quotes := (cs.takeWhile (· = mark)).length
  if quotes < 3 ∨ 5 < quotes then none
  else some (String.ofList (read.reverse ++ List.replicate (quotes - 3) mark), cs.drop quotes)

/-- Whether three quotes stand at the head. -/
def closes (mark : Char)
    : List Char → Bool
  | a :: b :: c :: _ => a = mark && b = mark && c = mark
  | _ => false

/-- The blanks of a line. -/
def isLineBlank (c : Char)
    : Bool :=
  c = ' ' || c = '\t'

/-- The text without the blanks and line breaks at its head. -/
def dropEmptyLines
    : List Char → List Char
  | ' ' :: rest => dropEmptyLines rest
  | '\t' :: rest => dropEmptyLines rest
  | '\n' :: rest => dropEmptyLines rest
  | '\r' :: '\n' :: rest => dropEmptyLines rest
  | cs => cs

/-- The text after a backslash that ends its line: blanks and line breaks are passed over. -/
def continuation? (cs : List Char)
    : Option (List Char) :=
  match cs.dropWhile isLineBlank with
  | '\n' :: rest => some (dropEmptyLines rest)
  | '\r' :: '\n' :: rest => some (dropEmptyLines rest)
  | _ => none

/-- The rest of a verbatim text of several lines. -/
def longVerbatim? (read : List Char)
    : List Char → Option (String × List Char)
  | [] => none
  | c :: rest =>
      if closes '\'' (c :: rest) then closing? '\'' read (c :: rest)
      else if c = '\r' then
        match rest with
        | '\n' :: _ => longVerbatim? ('\r' :: read) rest
        | _ => none
      else if c = '\n' then longVerbatim? ('\n' :: read) rest
      else if isControl c then none
      else longVerbatim? (c :: read) rest

/-- The rest of a text of several lines with escapes; no more than `limit` steps are made. -/
def longBasic? (limit : Nat) (read cs : List Char)
    : Option (String × List Char) :=
  match limit with
  | 0 => none
  | limit + 1 =>
      match cs with
      | [] => none
      | '\\' :: rest =>
          match escape? rest with
          | some (c, rest) => longBasic? limit (c :: read) rest
          | none =>
              match continuation? rest with
              | some rest => longBasic? limit read rest
              | none => none
      | '\n' :: rest => longBasic? limit ('\n' :: read) rest
      | '\r' :: '\n' :: rest => longBasic? limit ('\n' :: '\r' :: read) rest
      | c :: rest =>
          if closes '"' cs then closing? '"' read cs
          else if isControl c then none
          else longBasic? limit (c :: read) rest

/-- The quoted text at the head of a text on one line, and what follows it. -/
def lineText?
    : List Char → Option (String × List Char)
  | '"' :: rest => basic? (rest.length + 1) [] rest
  | '\'' :: rest => verbatim? [] rest
  | _ => none

/-- The quoted text at the head of a text, and what follows it. -/
def text?
    : List Char → Option (String × List Char)
  | '"' :: '"' :: '"' :: rest =>
      let rest := dropLineBreak rest
      longBasic? (rest.length + 1) [] rest
  | '\'' :: '\'' :: '\'' :: rest => longVerbatim? [] (dropLineBreak rest)
  | cs => lineText? cs

end Toml

end Lightpath
