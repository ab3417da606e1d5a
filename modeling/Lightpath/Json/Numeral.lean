import Lightpath.Json.Basic

/-!
Reading a number of a document. Digits are gathered into a significand of 64 bits; digits that no
longer fit only move the exponent. A number without a point and an exponent is an integer if it
fits, every other one is the significand scaled once by a power of ten.
-/

namespace Lightpath

namespace Numeral

/-- The largest number of 64 bits. -/
def maxWord
    : Nat :=
  UInt64.size - 1

/-- The value of an ASCII digit. -/
def digitValue (c : Char)
    : Nat :=
  c.toNat - '0'.toNat

/-- A significand in the making: its value, and how many digits were left out. -/
structure Significand where
  value : Nat
  dropped : Nat

/-- The digits before the point: after the first one that does not fit all are left out. -/
def takeWhole (digits : List Char)
    : Significand :=
  digits.foldl
    (fun s c =>
      let next := s.value * 10 + digitValue c
      if s.dropped = 0 && next ≤ maxWord then ⟨next, 0⟩ else ⟨s.value, s.dropped + 1⟩)
    ⟨0, 0⟩

/-- The digits after the point that still fit, with how many of them were taken. -/
def takeFraction (value : Nat)
    : List Char → Nat × Nat
  | [] => (value, 0)
  | c :: rest =>
      let next := value * 10 + digitValue c
      if next ≤ maxWord then
        let (v, n) := takeFraction next rest
        (v, n + 1)
      else (value, 0)

/-- A power of ten up to the largest that a double holds. -/
def powerOfTen (n : Nat)
    : Float :=
  Float.ofScientific 1 false n

/-- A number scaled down by more than `10 ^ 308`, which takes several divisions. -/
def scaleDown (x : Float) (n : Nat)
    : Float :=
  if h : n ≤ 308 then x / powerOfTen n
  else if x == 0 then x
  else scaleDown (x / powerOfTen 308) (n - 308)
termination_by n
decreasing_by omega

/-- The number `significand * 10 ^ exponent` as a double, or nothing if it is too large. -/
def scale? (negative : Bool) (significand : Nat) (exponent : Int)
    : Option Double :=
  let x := significand.toUInt64.toFloat
  let signed (y : Float) := some (Double.ofFloat (if negative then -y else y))
  if exponent < 0 then signed (scaleDown x exponent.natAbs)
  else if exponent ≤ 308 then
    let y := x * powerOfTen exponent.toNat
    if y.isInf then none else signed y
  else if significand = 0 then signed x
  else none

/-- The value of an exponent's digits, or nothing if it is beyond 32 bits. -/
def exponent? (digits : List Char)
    : Option Nat :=
  let n := digits.foldl (fun n c => n * 10 + digitValue c) 0
  if n < UInt32.size / 2 then some n else none

/-- The longest run of ASCII digits at the head, and what follows. -/
def spanDigits (cs : List Char)
    : List Char × List Char :=
  cs.span Char.isDigit

/-- The sign of an exponent and what follows it. -/
def exponentSign
    : List Char → Bool × List Char
  | '+' :: rest => (false, rest)
  | '-' :: rest => (true, rest)
  | rest => (false, rest)

/-- The parts of a number token: sign, digits before and after the point, exponent. -/
structure Token where
  negative : Bool
  whole : List Char
  fraction : Option (List Char)
  exponent : Option (Bool × List Char)

/-- The integer that a token without point and exponent stands for, or the double if it does not
fit; the negative zero is a double.
-/
def integer? (negative : Bool) (s : Significand)
    : Option JsonNumber :=
  if s.dropped ≠ 0 then (scale? negative s.value s.dropped).map .double
  else if negative then
    if s.value = 0 ∨ UInt64.size / 2 < s.value then (scale? true s.value 0).map .double
    else some (.integer (-(s.value : Int)))
  else some (.integer s.value)

/-- The number of a token, or nothing if it is too large for a double. -/
def Token.number? (t : Token)
    : Option JsonNumber :=
  let whole := takeWhole t.whole
  match t.fraction, t.exponent with
  | none, none => integer? t.negative whole
  | fraction, power =>
      let (value, taken) := takeFraction whole.value (fraction.getD [])
      let shift := (whole.dropped : Int) - (taken : Int)
      match power with
      | none => (scale? t.negative value shift).map .double
      | some (down, digits) =>
          match exponent? digits with
          | some n =>
              (scale? t.negative value (if down then shift - n else shift + n)).map .double
          | none =>
              if value ≠ 0 && !down then none
              else some (.double (Double.ofFloat (if t.negative then -0.0 else 0.0)))

/-- The digits before the point: a zero stands alone. -/
def whole?
    : List Char → Option (List Char × List Char)
  | '0' :: rest =>
      match rest with
      | c :: _ => if c.isDigit then none else some (['0'], rest)
      | [] => some (['0'], [])
  | cs =>
      match spanDigits cs with
      | ([], _) => none
      | (digits, rest) => some (digits, rest)

/-- The digits after the point, if there is a point. -/
def fraction?
    : List Char → Option (Option (List Char) × List Char)
  | '.' :: rest =>
      match spanDigits rest with
      | ([], _) => none
      | (digits, rest) => some (some digits, rest)
  | cs => some (none, cs)

/-- The exponent, if there is one. -/
def power?
    : List Char → Option (Option (Bool × List Char) × List Char)
  | c :: rest =>
      if c = 'e' || c = 'E' then
        let (down, rest) := exponentSign rest
        match spanDigits rest with
        | ([], _) => none
        | (digits, rest) => some (some (down, digits), rest)
      else some (none, c :: rest)
  | [] => some (none, [])

/-- The number token at the head of a text, and what follows it. -/
def token? (cs : List Char)
    : Option (Token × List Char) := do
  let (negative, cs) := match cs with
    | '-' :: rest => (true, rest)
    | _ => (false, cs)
  let (whole, cs) ← whole? cs
  let (fraction, cs) ← fraction? cs
  let (exponent, cs) ← power? cs
  some (⟨negative, whole, fraction, exponent⟩, cs)

/-- The number at the head of a text, and what follows it. -/
def read? (cs : List Char)
    : Option (JsonNumber × List Char) := do
  let (token, rest) ← token? cs
  let number ← token.number?
  some (number, rest)

end Numeral

end Lightpath
