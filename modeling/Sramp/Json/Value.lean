import Sramp.Text.Blank

/-!
# JSON values

JSON as it is written: numbers keep their digits, and strings their escapes, so
that a value may be passed over whether or not it can be decoded.
-/

namespace Sramp.Json

/-- A number as written. -/
structure Numeral where
  negative : Bool
  whole : List Char
  fraction : Option (List Char)
  exponent : Option (Bool × List Char)
  deriving DecidableEq, Repr

namespace Numeral

/-- The value of decimal digits. -/
def digitsValue (digits : List Char) : Nat :=
  digits.foldl (fun value c => value * 10 + (c.toNat - '0'.toNat)) 0

/-- The natural number that is written without sign, fraction and exponent. -/
def toNat? (numeral : Numeral) : Option Nat :=
  if numeral.negative || numeral.fraction.isSome || numeral.exponent.isSome then none
  else some (digitsValue numeral.whole)

/-- The digits of a number taken together, and the power of ten they count. -/
def scaled (numeral : Numeral) : Nat × Int :=
  let fraction := numeral.fraction.getD []
  let power : Int :=
    match numeral.exponent with
    | none => 0
    | some (negative, digits) => if negative then -digitsValue digits else digitsValue digits
  (digitsValue (numeral.whole ++ fraction), power - fraction.length)

end Numeral

/-- A character of a string, or a code unit written as an escape. -/
inductive Unit where
  | char (c : Char)
  | escape (code : Nat)
  deriving DecidableEq, Repr

namespace Unit

/-- The text of some units.  A code unit of the surrogate range must be the first
half of a pair whose second half follows it. -/
def decode : List Unit → Option (List Char)
  | [] => some []
  | .char c :: rest => (decode rest).map (c :: ·)
  | .escape high :: rest =>
      if high < 0xD800 ∨ 0xDFFF < high then (decode rest).map (Char.ofNat high :: ·)
      else
        match rest with
        | .escape low :: rest =>
            if high < 0xDC00 ∧ 0xDC00 ≤ low ∧ low ≤ 0xDFFF then
              (decode rest).map
                (Char.ofNat (0x10000 + (high - 0xD800) * 0x400 + (low - 0xDC00)) :: ·)
            else none
        | _ => none

end Unit

/-- The text of a string, if its escapes denote one. -/
def decodeString (units : List Unit) : Option String :=
  (Unit.decode units).map String.ofList

end Sramp.Json

namespace Sramp

/-- A JSON value.  The names in an object stand in their order, repeated ones
included. -/
inductive Json where
  | null
  | boolean (value : Bool)
  | number (numeral : Json.Numeral)
  | string (units : List Json.Unit)
  | array (items : List Json)
  | object (members : List (List Json.Unit × Json))

end Sramp
