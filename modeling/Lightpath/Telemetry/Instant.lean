import Lightpath.Json.Numeral

/-!
Moments with an offset from universal time, written in full: a date of four, two and two
digits, a time of day with an optional fraction, and an offset. A fraction is kept to nanoseconds
and written with as many digits as it needs of three, six and nine.
-/

namespace Lightpath

/-- A local date and time of day with the offset of its clock in minutes. -/
structure Instant where
  year : Int
  month : Nat
  day : Nat
  hour : Nat
  minute : Nat
  second : Nat
  nanos : Nat
  offset : Int
deriving DecidableEq, Repr

namespace Instant

/-- The number that two ASCII digits stand for. -/
def twoDigits? (a b : Char)
    : Option Nat :=
  if a.isDigit && b.isDigit then some (Numeral.digitValue a * 10 + Numeral.digitValue b)
  else none

/-- Whether a year has a 29th of February. -/
def isLeap (year : Int)
    : Bool :=
  year % 4 = 0 && (year % 100 ≠ 0 || year % 400 = 0)

/-- The number of days of a month. -/
def daysIn (year : Int) (month : Nat)
    : Nat :=
  if month = 2 then if isLeap year then 29 else 28
  else if month = 4 ∨ month = 6 ∨ month = 9 ∨ month = 11 then 30
  else 31

/-- The nanoseconds of a fraction's digits, of which no more than nine count. -/
def nanosOf (digits : List Char)
    : Nat :=
  let kept := digits.take 9
  kept.foldl (fun n c => n * 10 + Numeral.digitValue c) 0 * Nat.pow 10 (9 - kept.length)

/-- The fraction at the head of a text, if there is one, and what follows. -/
def fraction?
    : List Char → Option (Nat × List Char)
  | '.' :: rest =>
      match rest.span Char.isDigit with
      | ([], _) => none
      | (digits, rest) => some (nanosOf digits, rest)
  | rest => some (0, rest)

/-- The offset in minutes that a whole text states. -/
def offset?
    : List Char → Option Int
  | ['Z'] => some 0
  | ['z'] => some 0
  | [sign, a, b, ':', c, d] => do
      let hours ← twoDigits? a b
      let minutes ← twoDigits? c d
      let whole : Int := hours * 60 + minutes
      if 24 ≤ hours ∨ 60 ≤ minutes then none
      else if sign = '+' then some whole
      else if sign = '-' ∨ sign = '\u2212' then some (-whole)
      else none
  | _ => none

/-- The first year of universal time. -/
def firstYear
    : Int :=
  -262143

/-- The last year of universal time. -/
def lastYear
    : Int :=
  262142

/-- Whether the year of an instant is one of universal time, and stays one when the offset is taken
away.
-/
def isInReach (i : Instant)
    : Bool :=
  let minutes : Int := i.hour * 60 + i.minute - i.offset
  let isTooEarly := i.year = firstYear && i.month = 1 && i.day = 1 && minutes < 0
  let isTooLate := i.year = lastYear && i.month = 12 && i.day = 31 && 24 * 60 ≤ minutes
  firstYear ≤ i.year && i.year ≤ lastYear && !isTooEarly && !isTooLate

/-- The instant with the given fields, if they are within their bounds. -/
def check? (i : Instant)
    : Option Instant :=
  if 1 ≤ i.month ∧ i.month ≤ 12 ∧ 1 ≤ i.day ∧ i.day ≤ daysIn i.year i.month ∧ i.hour ≤ 23
      ∧ i.minute ≤ 59 ∧ i.second ≤ 60 ∧ i.isInReach then some i
  else none

/-- The instant that a text states. -/
def ofText? (s : String)
    : Option Instant :=
  match s.toList with
  | y₁ :: y₂ :: y₃ :: y₄ :: '-' :: m₁ :: m₂ :: '-' :: d₁ :: d₂ :: mark :: h₁ :: h₂ :: ':'
      :: n₁ :: n₂ :: ':' :: s₁ :: s₂ :: rest => do
      if mark ≠ 'T' ∧ mark ≠ 't' ∧ mark ≠ ' ' then none
      let century ← twoDigits? y₁ y₂
      let yearOf ← twoDigits? y₃ y₄
      let month ← twoDigits? m₁ m₂
      let day ← twoDigits? d₁ d₂
      let hour ← twoDigits? h₁ h₂
      let minute ← twoDigits? n₁ n₂
      let second ← twoDigits? s₁ s₂
      let (nanos, rest) ← fraction? rest
      let offset ← offset? rest
      check? ⟨(century * 100 + yearOf : Nat), month, day, hour, minute, second, nanos, offset⟩
  | _ => none

/-- A number with zeros in front up to a width. -/
def padded (width n : Nat)
    : String :=
  let digits := Nat.toDigits 10 n
  String.ofList (List.replicate (width - digits.length) '0' ++ digits)

/-- The text of a fraction of a second. -/
def fractionText (nanos : Nat)
    : String :=
  if nanos = 0 then ""
  else if nanos % 1000000 = 0 then "." ++ padded 3 (nanos / 1000000)
  else if nanos % 1000 = 0 then "." ++ padded 6 (nanos / 1000)
  else "." ++ padded 9 nanos

/-- The text of an offset in minutes. -/
def offsetText (offset : Int)
    : String :=
  if offset = 0 then "Z"
  else (if offset < 0 then "-" else "+") ++ padded 2 (offset.natAbs / 60) ++ ":"
    ++ padded 2 (offset.natAbs % 60)

/-- The text of a year, with a sign unless it has four digits. -/
def yearText (year : Int)
    : String :=
  let digits := padded 4 year.natAbs
  if 0 ≤ year && year ≤ 9999 then digits else (if year < 0 then "-" else "+") ++ digits

/-- The text of an instant. -/
def text (i : Instant)
    : String :=
  yearText i.year ++ "-" ++ padded 2 i.month ++ "-" ++ padded 2 i.day ++ "T"
    ++ padded 2 i.hour ++ ":" ++ padded 2 i.minute ++ ":" ++ padded 2 i.second
    ++ fractionText i.nanos ++ offsetText i.offset

end Instant

end Lightpath
