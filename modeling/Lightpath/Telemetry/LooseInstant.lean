import Lightpath.Telemetry.Instant
import Lightpath.Text.Blank

/-!
Moments written loosely. Numbers need no zeros in front, blanks may stand between the parts, years with
a sign may have any number of digits, the offset may be the letters UTC, and its hours and minutes
may have colons and blanks between them or nothing at all.
-/

namespace Lightpath

namespace Instant

/-- The text without the blanks at its head. -/
def skipBlank (cs : List Char)
    : List Char :=
  cs.dropWhile Text.isBlank

/-- The number that one to `most` digits at the head of a text state, and what follows. -/
def number? (most : Nat) (cs : List Char)
    : Option (Nat × List Char) :=
  let digits := (cs.take most).takeWhile Char.isDigit
  if digits.isEmpty then none
  else some (digits.foldl (fun n c => n * 10 + Numeral.digitValue c) 0, cs.drop digits.length)

/-- The number of one or two digits after blanks, and what follows. -/
def part? (cs : List Char)
    : Option (Nat × List Char) :=
  number? 2 (skipBlank cs)

/-- The number of one or two digits after a mark, and what follows; blanks may stand before both. -/
def markedPart? (mark : Char) (cs : List Char)
    : Option (Nat × List Char) :=
  match skipBlank cs with
  | c :: rest => if c = mark then part? rest else none
  | [] => none

/-- The year at the head of a text, and what follows; without a sign it has at most four digits. -/
def looseYear? (cs : List Char)
    : Option (Int × List Char) :=
  match skipBlank cs with
  | '-' :: rest => (number? rest.length rest).map fun (n, rest) => (-(n : Int), rest)
  | '+' :: rest => (number? rest.length rest).map fun (n, rest) => ((n : Int), rest)
  | rest => (number? 4 rest).map fun (n, rest) => ((n : Int), rest)

/-- Whether letters are those of universal time, in either case. -/
def isUniversal (letters : List Char)
    : Bool :=
  letters.map Char.toLower = ['u', 't', 'c']

/-- The offset that a text states, and what follows. -/
def looseOffset? (cs : List Char)
    : Option (Int × List Char) :=
  if isUniversal (cs.take 3) then some (0, cs.drop 3)
  else match cs with
    | 'Z' :: rest => some (0, rest)
    | 'z' :: rest => some (0, rest)
    | sign :: a :: b :: rest =>
        match rest.dropWhile fun c => c = ':' || Text.isBlank c with
        | c :: d :: rest => (offset? [sign, a, b, ':', c, d]).map fun offset => (offset, rest)
        | _ => none
    | _ => none

/-- The instant that a text states loosely. -/
def ofLooseText? (s : String)
    : Option Instant := do
  let (year, rest) ← looseYear? s.toList
  let (month, rest) ← markedPart? '-' rest
  let (day, rest) ← markedPart? '-' rest
  match rest with
  | [] => none
  | mark :: rest =>
      if mark ≠ 'T' ∧ mark ≠ 't' ∧ mark ≠ ' ' then none
      let (hour, rest) ← part? rest
      let (minute, rest) ← markedPart? ':' rest
      let (second, rest) ← markedPart? ':' rest
      let (nanos, rest) ← fraction? rest
      let (offset, rest) ← looseOffset? (skipBlank rest)
      if !(skipBlank rest).isEmpty then none
      check? ⟨year, month, day, hour, minute, second, nanos, offset⟩

end Instant

end Lightpath
