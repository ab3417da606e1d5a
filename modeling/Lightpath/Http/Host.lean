import Lightpath.Http.Domain.Ascii
import Lightpath.Http.PercentEncoding
import Lightpath.Text.Split

/-!
The host of a URL in its standard form: an address of version 4 as four numbers, one of version 6 in
brackets with its longest run of zeros left out, or a domain in ASCII.
-/

namespace Lightpath

namespace Host

/-- The parts of a list between the places where a character stands. -/
def partsAt (mark : Char)
    : List Char → List (List Char) :=
  Text.partsBetween (· = mark)

/-- The number that digits of a base state. -/
def number? (base : Nat) (digits : List Char)
    : Option Nat :=
  digits.foldlM
    (fun n c => do
      let d ← PercentEncoding.hexValue? c
      if d < base then some (n * base + d) else none)
    0

/-- The number that a part of an address of version 4 states: in base 16 after `0x`, in base 8
after a zero, else in base 10.
-/
def addressPart?
    : List Char → Option Nat
  | [] => none
  | '0' :: 'x' :: digits => number? 16 digits
  | '0' :: 'X' :: digits => number? 16 digits
  | '0' :: digits => number? 8 digits
  | digits => number? 10 digits

/-- The parts of a domain without an empty one at the end. -/
def domainParts (domain : List Char)
    : List (List Char) :=
  let parts := partsAt '.' domain
  if 1 < parts.length && parts.getLast? = some [] then parts.dropLast else parts

/-- Whether a domain has to be an address of version 4: its last part is a number. -/
def endsInNumber (domain : List Char)
    : Bool :=
  match (domainParts domain).getLast? with
  | some part => (!part.isEmpty && part.all Char.isDigit)
      || (part.take 2 = ['0', 'x'] || part.take 2 = ['0', 'X']) && (addressPart? part).isSome
  | none => false

/-- The address that numbers state: the last one fills the bytes that the others leave. -/
def address? (numbers : List Nat)
    : Option Nat :=
  match numbers.reverse with
  | [] => none
  | last :: firsts =>
      let firsts := firsts.reverse
      let room := Nat.pow 256 (4 - firsts.length)
      if 4 < numbers.length || firsts.any (255 < ·) || room ≤ last then none
      else some (firsts.foldl (fun n part => n * 256 + part) 0 * room + last)

/-- An address of version 4 as four numbers. -/
def addressText (n : Nat)
    : String :=
  ".".intercalate
    ([n >>> 24, (n >>> 16) % 256, (n >>> 8) % 256, n % 256].map fun part => toString part)

/-- The standard form of a domain that ends in a number. -/
def versionFour? (domain : List Char)
    : Option String := do
  let numbers ← (domainParts domain).mapM addressPart?
  some (addressText (← address? numbers))

/-- The number of four figures or fewer in base 16. -/
def piece? (digits : List Char)
    : Option Nat :=
  if digits.isEmpty || 4 < digits.length then none else number? 16 digits

/-- One number of an address of version 4 inside one of version 6. -/
def innerPart? (digits : List Char)
    : Option Nat :=
  match digits with
  | [] => none
  | '0' :: _ :: _ => none
  | digits =>
      match number? 10 digits with
      | some n => if n ≤ 255 then some n else none
      | none => none

/-- The two pieces that an address of version 4 stands for inside one of version 6. -/
def innerPieces? (cs : List Char)
    : Option (List Nat) :=
  match (partsAt '.' cs).mapM innerPart? with
  | some [a, b, c, d] => some [a * 256 + b, c * 256 + d]
  | _ => none

/-- The pieces of a half of an address of version 6, whose last one may be of version 4. -/
def pieces? (cs : List Char)
    : Option (List Nat) :=
  if cs.isEmpty then some []
  else
    let parts := partsAt ':' cs
    match parts.getLast? with
    | none => none
    | some last =>
        if last.contains '.' then do
          let pieces ← parts.dropLast.mapM piece?
          some (pieces ++ (← innerPieces? last))
        else parts.mapM piece?

/-- What stands before and after the first double colon. -/
def atDoubleColon?
    : List Char → Option (List Char × List Char)
  | ':' :: ':' :: rest => some ([], rest)
  | c :: rest => (atDoubleColon? rest).map fun halves => (c :: halves.1, halves.2)
  | [] => none

/-- The eight pieces of an address of version 6. -/
def versionSix? (cs : List Char)
    : Option (List Nat) :=
  match atDoubleColon? cs with
  | none => (pieces? cs).filter fun pieces => pieces.length = 8
  | some (before, after) => do
      if before.contains '.' then none
      let front ← pieces? before
      let back ← pieces? after
      let room := 8 - (front.length + back.length)
      if room = 0 then none else some (front ++ List.replicate room 0 ++ back)

/-- The length of the run of zeros at the head. -/
def zeroRun (pieces : List Nat)
    : Nat :=
  (pieces.takeWhile (· = 0)).length

/-- The first place of the longest run of zeros, with its length. -/
def longestZeroRun
    : List Nat → Nat × Nat
  | [] => (0, 0)
  | piece :: rest =>
      let here := zeroRun (piece :: rest)
      let (place, length) := longestZeroRun rest
      if length ≤ here then (0, here) else (place + 1, length)

/-- Pieces in base 16 with colons between them. -/
def piecesText (pieces : List Nat)
    : String :=
  ":".intercalate (pieces.map fun n => String.ofList (Nat.toDigits 16 n))

/-- An address of version 6, with its longest run of two or more zeros left out. -/
def versionSixText (pieces : List Nat)
    : String :=
  let (place, length) := longestZeroRun pieces
  if length < 2 then piecesText pieces
  else piecesText (pieces.take place) ++ "::" ++ piecesText (pieces.drop (place + length))

/-- The characters that no host can have. -/
def isForbidden (c : Char)
    : Bool :=
  c.toNat = 0 || ['\t', '\n', '\r', ' ', '#', '/', ':', '<', '>', '?', '@', '[', '\\', ']', '^',
    '|'].contains c

/-- The standard form of a domain or an address of version 4. -/
def domain? (cs : List Char)
    : Option String := do
  let domain ← Domain.toAscii? (← PercentEncoding.decode? cs)
  if domain.isEmpty then none
  else if endsInNumber domain then versionFour? domain
  else some (String.ofList domain)

/-- The standard form of a host in a scheme that knows no domains. -/
def plain? (cs : List Char)
    : Option String :=
  if cs.any isForbidden then none else some (String.ofList (PercentEncoding.encode [] cs))

/-- The standard form of a host. -/
def ofText? (isDomain : Bool) (cs : List Char)
    : Option String :=
  match cs with
  | '[' :: rest =>
      if rest.getLast? = some ']' then
        (versionSix? rest.dropLast).map fun pieces => "[" ++ versionSixText pieces ++ "]"
      else none
  | cs => if isDomain then domain? cs else plain? cs

end Host

end Lightpath
