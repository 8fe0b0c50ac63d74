/-!
# Binary floating-point numbers of 64 bits

A number is given by its sign, its exponent field and its fraction field.  The
largest exponent field marks the infinities and the values that are not numbers;
the smallest marks zero and the subnormal numbers.
-/

namespace Sramp

/-- A 64-bit binary floating-point number, field by field. -/
structure Double where
  negative : Bool
  exponent : BitVec 11
  fraction : BitVec 52
  deriving DecidableEq, Repr

namespace Double

/-- Zero with a given sign. -/
def zero (negative : Bool) : Double :=
  ⟨negative, 0, 0⟩

/-- Infinity with a given sign. -/
def infinity (negative : Bool) : Double :=
  ⟨negative, .allOnes 11, 0⟩

/-- A value that is not a number. -/
def nan : Double :=
  ⟨false, .allOnes 11, .intMin 52⟩

/-- Whether the exponent field marks a number. -/
def isFinite (x : Double) : Bool :=
  x.exponent != .allOnes 11

/-- Whether a value is not a number. -/
def isNaN (x : Double) : Bool :=
  x.exponent == .allOnes 11 && x.fraction != 0

/-- Whether a number is a zero of either sign. -/
def isZero (x : Double) : Bool :=
  x.exponent == 0 && x.fraction == 0

/-- Whether two values are equal as numbers: the zeros of both signs agree, and a
value that is not a number agrees with none, itself included. -/
def agrees (x y : Double) : Bool :=
  !x.isNaN && !y.isNaN && (x == y || x.isZero && y.isZero)

/-- The significand: a finite number's magnitude is `significand * 2 ^ scale`. -/
def significand (x : Double) : Nat :=
  if x.exponent = 0 then x.fraction.toNat else Nat.pow 2 52 + x.fraction.toNat

/-- The binary scale of the significand. -/
def scale (x : Double) : Int :=
  (max x.exponent.toNat 1 : Nat) - 1075

/-- The magnitude of a finite number as an exact quotient. -/
def numerator (x : Double) : Nat :=
  x.significand * Nat.pow 2 x.scale.toNat

/-- The denominator of the magnitude of a finite number, a power of two. -/
def denominator (x : Double) : Nat :=
  Nat.pow 2 (-x.scale).toNat

/-- Whether a number is finite and has no fractional part. -/
def isWhole (x : Double) : Bool :=
  x.isFinite && x.numerator % x.denominator == 0

theorem denominator_pos (x : Double) : 0 < x.denominator :=
  Nat.two_pow_pos _

@[simp] theorem isFinite_zero (negative : Bool) : (zero negative).isFinite = true := rfl

@[simp] theorem isFinite_infinity (negative : Bool) : (infinity negative).isFinite = false := rfl

@[simp] theorem isZero_zero (negative : Bool) : (zero negative).isZero = true := rfl

@[simp] theorem isNaN_nan : nan.isNaN = true := rfl

/-- Numbers, and only they, agree with themselves. -/
@[simp] theorem agrees_self (x : Double) : x.agrees x = !x.isNaN := by
  simp [agrees]

end Double

end Sramp
