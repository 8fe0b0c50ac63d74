import Sramp.Double.Shortest

/-!
# Numbers in text

A number is written positionally, never with an exponent: either the shortest
digits that read back, or, where a whole number is asked for, all its digits.
-/

namespace Sramp.Double

/-- The decimal digits of a natural number. -/
def digitsOf (n : Nat) : List Char :=
  Nat.toDigits 10 n

/-- Digits without the zeros at their end. -/
def withoutTrailingZeros (digits : List Char) : List Char :=
  (digits.reverse.dropWhile (· == '0')).reverse

/-- Writes `0.d₁d₂… * 10 ^ point` without an exponent. -/
def positional (digits : List Char) (point : Int) : List Char :=
  if point ≤ 0 then
    ['0', '.'] ++ List.replicate (-point).toNat '0' ++ digits
  else if digits.length ≤ point.toNat then
    digits ++ List.replicate (point.toNat - digits.length) '0'
  else
    digits.take point.toNat ++ '.' :: digits.drop point.toNat

/-- A decimal without an exponent. -/
def Decimal.chars (value : Decimal) : List Char :=
  let digits := digitsOf value.digits
  positional (withoutTrailingZeros digits) (digits.length + value.exponent)

/-- The sign in front of a magnitude. -/
def signed (x : Double) (magnitude : List Char) : String :=
  String.ofList (if x.negative then '-' :: magnitude else magnitude)

/-- The shortest text that reads back as the number. -/
def text (x : Double) : String :=
  if x.isNaN then "NaN"
  else if !x.isFinite then x.signed ['i', 'n', 'f']
  else if x.significand = 0 then x.signed ['0']
  else x.signed x.shortest.chars

/-- All digits of a finite number without a fractional part. -/
def wholeText (x : Double) : String :=
  x.signed (digitsOf (x.numerator / x.denominator))

end Sramp.Double
