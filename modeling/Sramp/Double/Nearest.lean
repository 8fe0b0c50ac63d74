import Sramp.Double.Basic

/-!
# The number nearest to a decimal

Reads an exact decimal as the nearest 64-bit number; a tie goes to the number
with the even significand.  A decimal beyond the largest finite number reads as
infinity.
-/

namespace Sramp.Double

/-- The quotient rounded to the nearest whole number, a tie to the even one. -/
def roundedQuotient (numerator denominator : Nat) : Nat :=
  let quotient := numerator / denominator
  let twice := 2 * (numerator % denominator)
  if twice < denominator then quotient
  else if denominator < twice then quotient + 1
  else quotient + quotient % 2

/-- `numerator / denominator` in units of `2 ^ scale`. -/
def scaled (numerator denominator : Nat) (scale : Int) : Nat × Nat :=
  (numerator * Nat.pow 2 (-scale).toNat, denominator * Nat.pow 2 scale.toNat)

/-- The scale at which a positive quotient has a significand of 53 bits, but not
below the scale of the subnormal numbers. -/
def fittingScale (numerator denominator : Nat) : Int :=
  let bits : Int := (Nat.log2 numerator : Int) - Nat.log2 denominator
  let low := bits - 53
  let (n, d) := scaled numerator denominator low
  max (if n / d < Nat.pow 2 53 then low else low + 1) (-1074)

/-- The number `significand * 2 ^ scale`, for a significand of at most 53 bits
that has 53 bits unless the scale is the least one. -/
def ofScaled (negative : Bool) (significand : Nat) (scale : Int) : Double :=
  if significand < Nat.pow 2 52 then ⟨negative, 0, BitVec.ofNat _ significand⟩
  else if 971 < scale then infinity negative
  else ⟨negative, BitVec.ofNat _ (scale + 1075).toNat, BitVec.ofNat _ (significand - Nat.pow 2 52)⟩

/-- The number nearest to a positive quotient. -/
def ofQuotient (negative : Bool) (numerator denominator : Nat) : Double :=
  let scale := fittingScale numerator denominator
  let (n, d) := scaled numerator denominator scale
  let significand := roundedQuotient n d
  if significand = Nat.pow 2 53 then ofScaled negative (Nat.pow 2 52) (scale + 1)
  else ofScaled negative significand scale

/-- The number nearest to `digits * 10 ^ exponent`.  Magnitudes far outside the
range of the type are decided from the count of digits alone. -/
def ofDecimal (negative : Bool) (digits : Nat) (exponent : Int) : Double :=
  let leading : Int := (Nat.toDigits 10 digits).length + exponent
  if digits = 0 ∨ leading < -330 then zero negative
  else if 310 < leading then infinity negative
  else ofQuotient negative (digits * Nat.pow 10 exponent.toNat) (Nat.pow 10 (-exponent).toNat)

end Sramp.Double
