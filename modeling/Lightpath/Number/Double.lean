/-!
A finite number of double precision, kept as its 64 bits so that it can be compared and stored
like any other data. Arithmetic goes through `Float`; the bits say which number came out.
-/

namespace Lightpath

/-- A number of IEEE double precision, as its bits: sign, eleven of exponent, 52 of fraction. -/
structure Double where
  bits : UInt64
deriving DecidableEq, Repr, Inhabited

namespace Double

/-- The double of a floating-point value. -/
def ofFloat (x : Float)
    : Double :=
  ⟨x.toBits⟩

/-- The floating-point value of a double. -/
def toFloat (x : Double)
    : Float :=
  Float.ofBits x.bits

/-- Whether the sign bit is set, as it also is for the negative zero. -/
def isNegative (x : Double)
    : Bool :=
  x.bits >>> 63 == 1

/-- The eleven exponent bits, still with their bias. -/
def biasedExponent (x : Double)
    : Nat :=
  (x.bits >>> 52).toNat % 2048

/-- The 52 fraction bits. -/
def fraction (x : Double)
    : Nat :=
  x.bits.toNat % Nat.pow 2 52

/-- Whether the number is a zero of either sign. -/
def isZero (x : Double)
    : Bool :=
  x.biasedExponent == 0 && x.fraction == 0

/-- The magnitude is `significand * 2 ^ exponent`; the leading one of a normal number is
written out.
-/
def significand (x : Double)
    : Nat :=
  if x.biasedExponent = 0 then x.fraction else Nat.pow 2 52 + x.fraction

/-- The power of two that the significand counts, see `significand`. -/
def exponent (x : Double)
    : Int :=
  if x.biasedExponent = 0 then -1074 else (x.biasedExponent : Int) - 1075

/-- Numeric equality: the same bits, or two zeros of any sign. -/
instance : BEq Double where
  beq x y := decide (x = y) || (x.isZero && y.isZero)

theorem beq_iff {x y : Double}
    : (x == y) = true ↔ x = y ∨ (x.isZero = true ∧ y.isZero = true) := by
  simp [BEq.beq]

end Double

end Lightpath
