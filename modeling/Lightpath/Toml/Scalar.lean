import Lightpath.Json.Numeral

/-!
The unquoted values of a configuration text: booleans, integers in four bases, floating-point numbers
and moments. No field holds a moment, so that nothing is kept of it but that it was there.
-/

namespace Lightpath

namespace Toml

/-- The pieces of a text between single marks. -/
def splitOn (mark : Char)
    : List Char → List (List Char)
  | [] => [[]]
  | c :: rest =>
      if c = mark then [] :: splitOn mark rest
      else match splitOn mark rest with
        | [] => [[c]]
        | piece :: more => (c :: piece) :: more

/-- The digits of a group without its underscores, which may only stand between digits. -/
def digitGroup? (isDigit : Char → Bool) (cs : List Char)
    : Option (List Char) :=
  let pieces := splitOn '_' cs
  if pieces.all fun p => !p.isEmpty && p.all isDigit then some pieces.flatten else none

/-- The value of a digit in bases up to sixteen. -/
def digitValue (c : Char)
    : Nat :=
  if c.isDigit then c.toNat - '0'.toNat
  else if 'a' ≤ c ∧ c ≤ 'f' then c.toNat - 'a'.toNat + 10
  else c.toNat - 'A'.toNat + 10

/-- The number that digits stand for in a base. -/
def numberIn (base : Nat) (digits : List Char)
    : Nat :=
  digits.foldl (fun n c => n * base + digitValue c) 0

/-- The number that a group of digits in a base stands for. -/
def basedInteger? (base : Nat) (isDigit : Char → Bool) (cs : List Char)
    : Option Int :=
  (digitGroup? isDigit cs).map fun digits => (numberIn base digits : Int)

/-- A sign and what follows it. -/
def sign
    : List Char → Bool × List Char
  | '+' :: rest => (false, rest)
  | '-' :: rest => (true, rest)
  | cs => (false, cs)

/-- The digits of a decimal whole number, which has no zero in front of others. -/
def wholeDigits? (cs : List Char)
    : Option (List Char) :=
  match digitGroup? Char.isDigit cs with
  | some ('0' :: _ :: _) => none
  | digits => digits

/-- Whether a character is a digit of base sixteen. -/
def isHexDigit (c : Char)
    : Bool :=
  c.isDigit || ('a' ≤ c && c ≤ 'f') || ('A' ≤ c && c ≤ 'F')

/-- The integer that a word stands for. -/
def integer?
    : List Char → Option Int
  | '0' :: 'x' :: rest => basedInteger? 16 isHexDigit rest
  | '0' :: 'o' :: rest => basedInteger? 8 (fun c => '0' ≤ c && c ≤ '7') rest
  | '0' :: 'b' :: rest => basedInteger? 2 (fun c => c = '0' || c = '1') rest
  | cs =>
      let (negative, cs) := sign cs
      (wholeDigits? cs).map fun digits =>
        let n : Int := numberIn 10 digits
        if negative then -n else n

/-- An integer as a number of a document, if it is within 128 bits. -/
def integerJson? (n : Int)
    : Option Json :=
  if -Int.pow 2 127 ≤ n ∧ n < Int.pow 2 128 then some (.number (.integer n)) else none

/-- A floating-point number by its decimal digits, unless it is too large. -/
def decimalFloat? (negative : Bool) (digits : List Char) (exponent : Int)
    : Option Float :=
  let significant := digits.dropWhile (· = '0')
  let m := numberIn 10 digits
  let magnitude := (significant.length : Int) + exponent
  let x :=
    if m = 0 ∨ magnitude < -400 then some 0.0
    else if 400 < magnitude then none
    else some (Float.ofScientific m (exponent < 0) exponent.natAbs)
  match x with
  | some x => if x.isInf then none else some (if negative then -x else x)
  | none => none

/-- The exponent of a number, zero where none is stated. -/
def floatExponent?
    : Option (List Char) → Option Int
  | none => some 0
  | some cs =>
      let (negative, cs) := sign cs
      (digitGroup? Char.isDigit cs).map fun digits =>
        let n : Int := numberIn 10 digits
        if negative then -n else n

/-- The text before a mark and the text after it, if the mark is there. -/
def cut (isMark : Char → Bool) (cs : List Char)
    : List Char × Option (List Char) :=
  match cs.span fun c => !isMark c with
  | (before, _ :: after) => (before, some after)
  | (before, []) => (before, none)

/-- The floating-point number that a word stands for. -/
def float? (cs : List Char)
    : Option Float := do
  let (negative, cs) := sign cs
  if cs = ['i', 'n', 'f'] then some (if negative then -1.0 / 0.0 else 1.0 / 0.0)
  else if cs = ['n', 'a', 'n'] then some (0.0 / 0.0)
  else
    let (mantissa, power) := cut (fun c => c = 'e' || c = 'E') cs
    let (whole, fraction) := cut (· = '.') mantissa
    if power.isNone && fraction.isNone then none
    let wholeDigits ← wholeDigits? whole
    let fractionDigits ← match fraction with
      | none => some []
      | some cs => digitGroup? Char.isDigit cs
    let exponent ← floatExponent? power
    decimalFloat? negative (wholeDigits ++ fractionDigits)
      (exponent - (fractionDigits.length : Int))

/-- A number of exactly so many digits at the head of a text, and what follows. -/
def fixedDigits? (n : Nat) (cs : List Char)
    : Option (Nat × List Char) :=
  let digits := cs.take n
  if digits.length = n && digits.all Char.isDigit then some (numberIn 10 digits, cs.drop n)
  else none

/-- The number of days of a month. -/
def daysIn (year month : Nat)
    : Nat :=
  if month = 2 then
    if year % 4 = 0 ∧ (year % 100 ≠ 0 ∨ year % 400 = 0) then 29 else 28
  else if month = 4 ∨ month = 6 ∨ month = 9 ∨ month = 11 then 30
  else 31

/-- The rest of a text after a date. -/
def dropDate? (cs : List Char)
    : Option (List Char) := do
  let (year, cs) ← fixedDigits? 4 cs
  match cs with
  | '-' :: cs =>
      let (month, cs) ← fixedDigits? 2 cs
      match cs with
      | '-' :: cs =>
          let (day, cs) ← fixedDigits? 2 cs
          if 1 ≤ month ∧ month ≤ 12 ∧ 1 ≤ day ∧ day ≤ daysIn year month then some cs else none
      | _ => none
  | _ => none

/-- The rest of a text after the fraction of a second, if there is one. -/
def dropFraction?
    : List Char → Option (List Char)
  | '.' :: rest =>
      match rest with
      | c :: more => if c.isDigit then some (more.dropWhile Char.isDigit) else none
      | [] => none
  | cs => some cs

/-- The rest of a text after a time of day; its seconds may be left out. -/
def dropTime? (cs : List Char)
    : Option (List Char) := do
  let (hour, cs) ← fixedDigits? 2 cs
  match cs with
  | ':' :: cs =>
      let (minute, cs) ← fixedDigits? 2 cs
      if 23 < hour ∨ 59 < minute then none
      match cs with
      | ':' :: cs =>
          let (second, cs) ← fixedDigits? 2 cs
          if 60 < second then none
          dropFraction? cs
      | cs => some cs
  | _ => none

/-- Whether a text is an offset from universal time, or nothing. -/
def isOffset
    : List Char → Bool
  | [] => true
  | ['Z'] => true
  | ['z'] => true
  | c :: cs =>
      (c = '+' || c = '-') && match fixedDigits? 2 cs with
        | some (hour, ':' :: rest) =>
            match fixedDigits? 2 rest with
            | some (minute, []) => hour ≤ 23 && minute ≤ 59
            | _ => false
        | _ => false

/-- Whether a word is a date, a time of day, or both with or without an offset. -/
def isMoment (cs : List Char)
    : Bool :=
  match dropDate? cs with
  | some [] => true
  | some (c :: rest) =>
      (c = 'T' || c = 't' || c = ' ') && match dropTime? rest with
        | some offset => isOffset offset
        | none => false
  | none =>
      match dropTime? cs with
      | some rest => rest.isEmpty
      | none => false

/-- What stands for a moment: an object with a member of its own, which is no field of anything. -/
def momentJson
    : Json :=
  .object [("moment", .bool true)]

/-- The value that an unquoted word stands for. -/
def scalar? (cs : List Char)
    : Option Json :=
  if cs = ['t', 'r', 'u', 'e'] then some (.bool true)
  else if cs = ['f', 'a', 'l', 's', 'e'] then some (.bool false)
  else if isMoment cs then some momentJson
  else match integer? cs with
    | some n => integerJson? n
    | none => (float? cs).map fun x => .ofDouble (.ofFloat x)

end Toml

end Lightpath
