import Lightpath.Text.Split

/-!
Punycode: a label of any characters in the letters and digits of ASCII. The ASCII characters come
first; the others follow as differences, each a number in digits of base 36 whose thresholds adapt to
the numbers before it. `Punycode.encode` writes labels and `Punycode.decode?` reads them.
-/

namespace Lightpath

namespace Punycode

/-- The character of a digit: letters below 26, then figures. -/
def digit (n : Nat)
    : Char :=
  if n < 26 then Char.ofNat ('a'.toNat + n) else Char.ofNat ('0'.toNat + (n - 26))

/-- The threshold of a digit by its position, which counts in steps of 36. -/
def threshold (position bias : Nat)
    : Nat :=
  if position ≤ bias then 1 else if bias + 26 ≤ position then 26 else position - bias

theorem threshold_pos (position bias : Nat)
    : 1 ≤ threshold position bias := by
  unfold threshold
  split
  · omega
  · split <;> omega

/-- The digits of a number from a position on. -/
def digits (bias position n : Nat)
    : List Char :=
  let t := threshold position bias
  if n < t then [digit n]
  else digit (t + (n - t) % (36 - t)) :: digits bias (position + 36) ((n - t) / (36 - t))
termination_by n
decreasing_by
  have h := threshold_pos position bias
  have hle : (n - threshold position bias) / (36 - threshold position bias)
      ≤ n - threshold position bias := Nat.div_le_self _ _
  omega

/-- A difference divided down, with the steps of 36 that it took. -/
def scale (delta steps : Nat)
    : Nat × Nat :=
  if 455 < delta then scale (delta / 35) (steps + 36) else (delta, steps)
termination_by delta
decreasing_by omega

/-- The bias after a difference, given how many characters are written by then. -/
def adapt (delta written : Nat) (first : Bool)
    : Nat :=
  let start := if first then delta / 700 else delta / 2
  let (rest, steps) := scale (start + start / written) 0
  steps + 36 * rest / (rest + 38)

/-- The state of an encoding: the digits so far, the difference gathered, the bias, and how many
characters are written.
-/
structure Progress where
  output : List Char
  delta : Nat
  bias : Nat
  written : Nat

/-- One character of the label in the pass for a code point. -/
def visit (basic point : Nat) (p : Progress) (c : Char)
    : Progress :=
  if c.toNat < point then { p with delta := p.delta + 1 }
  else if c.toNat = point then
    { output := p.output ++ digits p.bias 36 p.delta
      delta := 0
      bias := adapt p.delta (p.written + 1) (p.written = basic)
      written := p.written + 1 }
  else p

/-- The passes for the code points beyond ASCII, in ascending order. -/
def passes (label : List Char) (basic : Nat)
    : List Nat → Nat → Progress → Progress
  | [], _, p => p
  | point :: rest, next, p =>
      let reached := { p with delta := p.delta + (point - next) * (p.written + 1) }
      let done := label.foldl (visit basic point) reached
      passes label basic rest (point + 1) { done with delta := done.delta + 1 }

/-- The code points beyond ASCII in ascending order, each once. -/
def pointsBeyondAscii (label : List Char)
    : List Nat :=
  ((label.map Char.toNat).filter fun n => 0x7F < n).eraseDups.mergeSort

/-- The Punycode form of a label. -/
def encode (label : List Char)
    : List Char :=
  let ascii := label.filter fun c => c.toNat ≤ 0x7F
  let done := passes label ascii.length (pointsBeyondAscii label) 0x80
    ⟨[], 0, 72, ascii.length⟩
  (if ascii.isEmpty then [] else ascii ++ ['-']) ++ done.output

/-- The value of a digit in either case. -/
def digitValue? (c : Char)
    : Option Nat :=
  if c.isLower then some (c.toNat - 'a'.toNat)
  else if c.isUpper then some (c.toNat - 'A'.toNat)
  else if c.isDigit then some (c.toNat - '0'.toNat + 26)
  else none

/-- The greatest number that is reckoned with, and one more. -/
def bound
    : Nat :=
  UInt32.size

/-- The number at the head of a text added to the ones before it, given the weight of its next digit,
and what follows.
-/
def readNumber? (bias position weight sum : Nat)
    : List Char → Option (Nat × List Char)
  | [] => none
  | c :: rest => do
      let value ← digitValue? c
      let sum := sum + value * weight
      let t := threshold position bias
      if bound ≤ sum then none
      else if value < t then some (sum, rest)
      else if bound ≤ weight * (36 - t) then none
      else readNumber? bias (position + 36) (weight * (36 - t)) sum rest

/-- The label with the characters that numbers state put into it one by one, given the place and the
code point that the last one left; no more than `limit` numbers are read.
-/
def insertAll? (limit place point bias : Nat) (label cs : List Char)
    : Option (List Char) :=
  match limit, cs with
  | _, [] => some label
  | 0, _ => none
  | limit + 1, cs => do
      let (sum, rest) ← readNumber? bias 36 1 place cs
      let count := label.length + 1
      let next := point + sum / count
      if 0xD800 ≤ next ∧ next ≤ 0xDFFF ∨ 0x10FFFF < next then none
      else
        let spot := sum % count
        insertAll? limit (spot + 1) next (adapt (sum - place) count (place = 0))
          (label.take spot ++ Char.ofNat next :: label.drop spot) rest

/-- The label that a Punycode form stands for. -/
def decode? (cs : List Char)
    : Option (List Char) :=
  let (ascii, rest) := match Text.splitLast (· = '-') cs with
    | (some (c :: ascii), rest) => (c :: ascii, rest)
    | _ => ([], cs)
  if ascii.all fun c => c.toNat ≤ 0x7F then
    insertAll? rest.length 0 0x80 72 (ascii.map Char.toLower) rest
  else none

end Punycode

end Lightpath
