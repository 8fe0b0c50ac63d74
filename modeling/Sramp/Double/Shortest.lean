import Sramp.Double.Basic

/-!
# Shortest decimals

The decimal with the fewest digits among those that read back as a given number;
of several with equally few digits the one nearest to it.  Every comparison is
exact, over the natural numbers.
-/

namespace Sramp.Double

/-- A positive decimal `digits * 10 ^ exponent`. -/
structure Decimal where
  digits : Nat
  exponent : Int
  deriving DecidableEq, Repr

/-- The reals that round to a number, as a fraction of quarter steps: the two
ends are `low` and `high` quarters of `2 ^ scale`, and belong to the interval
when `closed` holds. -/
structure Interval where
  low : Nat
  high : Nat
  closed : Bool
  deriving DecidableEq, Repr

/-- The rounding interval of a positive number.  Below a power of two the
numbers lie twice as close, so there the lower end is half as far away. -/
def interval (x : Double) : Interval where
  low :=
    if x.fraction = 0 ∧ 1 < x.exponent.toNat then 4 * x.significand - 1
    else 4 * x.significand - 2
  high := 4 * x.significand + 2
  closed := x.significand % 2 = 0

/-- The factor that turns quarter steps into a whole count, and the factor for
units of `10 ^ place`, after which both can be compared. -/
def factors (x : Double) (place : Int) : Nat × Nat :=
  let binary := x.scale - 2
  (Nat.pow 2 binary.toNat * Nat.pow 10 (-place).toNat,
    Nat.pow 10 place.toNat * Nat.pow 2 (-binary).toNat)

/-- Whether `count * 10 ^ place` rounds to the number. -/
def readsBack (x : Double) (count : Nat) (place : Int) : Bool :=
  let (quarter, unit) := x.factors place
  let ends := x.interval
  let value := count * unit
  if ends.closed then ends.low * quarter ≤ value && value ≤ ends.high * quarter
  else ends.low * quarter < value && value < ends.high * quarter

/-- The multiple of `10 ^ place` that reads back and is nearest to the number:
one of its two neighbours on that grid, the upper one on a tie. -/
def onGrid? (x : Double) (place : Int) : Option Nat :=
  let (quarter, unit) := x.factors place
  let value := 4 * x.significand * quarter
  let below := value / unit
  let above := below + 1
  match x.readsBack below place, x.readsBack above place with
  | true, true =>
      if value - below * unit < above * unit - value then some below else some above
  | true, false => some below
  | false, true => some above
  | false, false => none

/-- Whether `10 ^ power` is at most the magnitude of the number. -/
def reaches (x : Double) (power : Int) : Bool :=
  Nat.pow 10 power.toNat * x.denominator ≤ x.numerator * Nat.pow 10 (-power).toNat

/-- The power of ten of the leading digit, found from an estimate that is at
most two too large. -/
def magnitude (x : Double) : Int :=
  let bits := (Nat.log2 x.significand : Int) + x.scale
  let estimate := bits * 30103 / 100000 + 1
  if x.reaches estimate then estimate
  else if x.reaches (estimate - 1) then estimate - 1
  else estimate - 2

/-- The first grid with a hit, trying one more digit each time. -/
def search (x : Double) (magnitude : Int) : (more used : Nat) → Option Decimal
  | 0, _ => none
  | more + 1, used =>
      let place := magnitude - used
      match x.onGrid? place with
      | some count => some ⟨count, place⟩
      | none => search x magnitude more (used + 1)

/-- The shortest decimal of a positive finite number; seventeen digits always
suffice. -/
def shortest (x : Double) : Decimal :=
  (x.search x.magnitude 17 0).getD ⟨x.numerator, 0⟩

end Sramp.Double
