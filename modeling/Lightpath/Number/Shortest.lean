import Lightpath.Number.Double

/-!
The shortest decimal that reads back as a given double, found in exact integer arithmetic. On the
grid of `n` digits only the two neighbours of the value can be nearest to it, so the first `n`
whose grid has a neighbour inside the rounding interval gives the digits.
-/

namespace Lightpath

/-- The decimal number `digits * 10 ^ exponent`. -/
structure Decimal where
  digits : Nat
  exponent : Int
deriving DecidableEq, Repr

namespace Double

/-- The reals that round to a double, scaled to integers: a decimal `c * 10 ^ p` lies inside
exactly when `c * unit` lies between `low` and `high`, ends included if `closed`.
-/
structure RoundingInterval where
  low : Nat
  middle : Nat
  high : Nat
  unit : Nat
  closed : Bool

namespace RoundingInterval

/-- The interval of `x` on the grid of multiples of `10 ^ p`. Below a power of two the gap to
the next number is half as wide.
-/
def onGrid (x : Double) (p : Int)
    : RoundingInterval :=
  let m := x.significand
  let scale := Nat.pow 2 x.exponent.toNat * Nat.pow 10 (-p).toNat
  let narrow := x.fraction == 0 && 1 < x.biasedExponent
  { low := (4 * m - if narrow then 1 else 2) * scale
    middle := 4 * m * scale
    high := (4 * m + 2) * scale
    unit := 4 * Nat.pow 2 (-x.exponent).toNat * Nat.pow 10 p.toNat
    closed := m % 2 == 0 }

/-- Whether the multiple `c` of the grid step reads back as the number. -/
def contains (r : RoundingInterval) (c : Nat)
    : Bool :=
  if r.closed then decide (r.low ≤ c * r.unit ∧ c * r.unit ≤ r.high)
  else decide (r.low < c * r.unit ∧ c * r.unit < r.high)

/-- The neighbour of the number on the grid that reads back, the nearer one if both do; a tie
goes to the even neighbour.
-/
def nearest? (r : RoundingInterval)
    : Option Nat :=
  let below := r.middle / r.unit
  let above := below + 1
  match r.contains below, r.contains above with
  | true, true =>
      let gapBelow := r.middle - below * r.unit
      let gapAbove := above * r.unit - r.middle
      some (if gapBelow < gapAbove then below
        else if gapAbove < gapBelow then above
        else if below % 2 = 0 then below else above)
  | true, false => some below
  | false, true => some above
  | false, false => none

end RoundingInterval

/-- The decimal exponent of the leading digit of a number that is not zero. -/
def leadingExponent (x : Double)
    : Int :=
  let scaled :=
    x.significand * Nat.pow 2 x.exponent.toNat * Nat.pow 10 400 / Nat.pow 2 (-x.exponent).toNat
  ((Nat.toDigits 10 scaled).length : Int) - 401

/-- The first of the grids with `17 - left` and more digits that has a decimal reading back; the
last grid always has one.
-/
def shortestFrom (x : Double) (lead : Int)
    : Nat → Decimal
  | 0 =>
      let r := RoundingInterval.onGrid x (lead - 16)
      ⟨r.nearest?.getD (r.middle / r.unit), lead - 16⟩
  | left + 1 =>
      let p := lead + ((left : Int) - 15)
      match (RoundingInterval.onGrid x p).nearest? with
      | some c => ⟨c, p⟩
      | none => shortestFrom x lead left

/-- The magnitude of a number with the fewest digits that read back as it. -/
def shortest (x : Double)
    : Decimal :=
  if x.isZero then ⟨0, 0⟩ else shortestFrom x x.leadingExponent 16

end Double

end Lightpath
