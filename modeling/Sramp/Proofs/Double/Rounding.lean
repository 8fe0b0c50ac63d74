import Mathlib.Algebra.Order.Field.Power
import Mathlib.Algebra.Order.Field.Rat
import Mathlib.Tactic.FieldSimp
import Mathlib.Tactic.Linarith
import Mathlib.Tactic.NormNum
import Mathlib.Tactic.Positivity
import Mathlib.Tactic.Ring
import Sramp.Double.Shortest

/-!
# Rounding intervals

Each number has an interval of magnitudes that round to it, and no magnitude rounds to two
numbers of one sign.  The shortest decimal of a number lies in its interval: with seventeen digits
the grid of decimals is finer than the interval is wide.
-/

namespace Sramp.Double

variable {x y : Double}

theorem significand_eq (x : Double) :
    x.significand =
      if x.exponent.toNat = 0 then x.fraction.toNat else 2 ^ 52 + x.fraction.toNat := by
  have zero : x.exponent = 0 ↔ x.exponent.toNat = 0 := BitVec.toNat_inj.symm
  simp only [significand, zero]
  rfl

theorem significand_lt (x : Double) : x.significand < 2 ^ 53 := by
  have bound := x.fraction.isLt
  rw [significand_eq]
  split <;> omega

/-- Above the least scale the significand has its leading bit. -/
theorem le_significand (normal : x.exponent.toNat ≠ 0) : 2 ^ 52 ≤ x.significand := by
  rw [significand_eq, if_neg normal]
  exact Nat.le_add_right _ _

theorem scale_eq (x : Double) : x.scale = (max x.exponent.toNat 1 : Nat) - 1075 := rfl

/-- A number is known from its sign, its significand and its scale. -/
theorem eq_of_significand_eq (signs : x.negative = y.negative)
    (significands : x.significand = y.significand) (scales : x.scale = y.scale) : x = y := by
  rw [significand_eq, significand_eq] at significands
  rw [scale_eq, scale_eq] at scales
  have inX := x.fraction.isLt
  have inY := y.fraction.isLt
  have exponents : x.exponent.toNat = y.exponent.toNat := by
    split at significands <;> split at significands <;> omega
  have fractions : x.fraction.toNat = y.fraction.toNat := by
    split at significands <;> split at significands <;> omega
  cases x
  cases y
  cases signs
  cases BitVec.eq_of_toNat_eq exponents
  cases BitVec.eq_of_toNat_eq fractions
  rfl

/-- A magnitude rounds to a number, whatever its sign. -/
def Rounds (x : Double) (value : ℚ) : Prop :=
  let low : ℚ := x.interval.low * 2 ^ (x.scale - 2)
  let high : ℚ := x.interval.high * 2 ^ (x.scale - 2)
  if x.interval.closed then low ≤ value ∧ value ≤ high else low < value ∧ value < high

theorem rounds_of_lt {value : ℚ} (above : x.interval.low * 2 ^ (x.scale - 2) < value)
    (below : value < x.interval.high * 2 ^ (x.scale - 2)) : x.Rounds value := by
  unfold Rounds
  split
  · exact ⟨above.le, below.le⟩
  · exact ⟨above, below⟩

theorem Rounds.le {value : ℚ} (rounds : x.Rounds value) :
    x.interval.low * 2 ^ (x.scale - 2) ≤ value ∧
      value ≤ x.interval.high * 2 ^ (x.scale - 2) := by
  unfold Rounds at rounds
  split at rounds
  · exact rounds
  · exact ⟨rounds.1.le, rounds.2.le⟩

/-- An end of an interval belongs to it only if the significand is even. -/
theorem Rounds.even_of_eq {value : ℚ} (rounds : x.Rounds value)
    (ends : value = x.interval.low * 2 ^ (x.scale - 2) ∨
      value = x.interval.high * 2 ^ (x.scale - 2)) : x.significand % 2 = 0 := by
  unfold Rounds at rounds
  split at rounds
  next closed => simpa [interval] using closed
  next =>
    rcases ends with same | same
    · exact absurd same.symm rounds.1.ne
    · exact absurd same rounds.2.ne

theorem interval_high (x : Double) : x.interval.high = 4 * x.significand + 2 := rfl

/-- Only the interval of a power of two begins a quarter step below it. -/
theorem interval_low (x : Double) :
    x.interval.low = 4 * x.significand - 2 ∧
        (x.exponent.toNat ≤ 1 ∨ x.significand ≠ 2 ^ 52) ∨
      x.interval.low = 4 * x.significand - 1 ∧ x.significand = 2 ^ 52 := by
  have zero : x.fraction = 0 ↔ x.fraction.toNat = 0 := BitVec.toNat_inj.symm
  simp only [interval, zero, significand_eq]
  split
  next power => exact .inr (by rw [if_neg (by omega), power.1]; exact ⟨rfl, rfl⟩)
  next other =>
      refine .inl ⟨rfl, ?_⟩
      split <;> omega

/-- The intervals of two numbers, the first of which is smaller, have at most an end in common;
and then one significand is odd. -/
theorem high_le_low (smaller : x.scale < y.scale ∨
    x.scale = y.scale ∧ x.significand < y.significand) :
    x.interval.high ≤ y.interval.low * 2 ^ (y.scale - x.scale).toNat ∧
      (x.interval.high = y.interval.low * 2 ^ (y.scale - x.scale).toNat →
        x.significand % 2 = 1 ∨ y.significand % 2 = 1) := by
  have low := y.interval_low
  rw [interval_high]
  rcases smaller with scales | ⟨same, less⟩
  · have normal : 1 < y.exponent.toNat := by
      rw [scale_eq, scale_eq] at scales
      omega
    have leading := le_significand (Nat.ne_of_gt (Nat.lt_of_succ_lt normal))
    have bound := x.significand_lt
    obtain ⟨more, steps⟩ : ∃ more, (y.scale - x.scale).toNat = more + 1 :=
      ⟨(y.scale - x.scale).toNat - 1, by omega⟩
    have wide : 2 * y.interval.low ≤ y.interval.low * 2 ^ (y.scale - x.scale).toNat := by
      rw [steps, pow_succ, Nat.mul_comm 2, ← Nat.mul_assoc]
      exact Nat.mul_le_mul_right 2 (Nat.le_mul_of_pos_right _ (Nat.two_pow_pos more))
    omega
  · rw [same, Int.sub_self, Int.toNat_zero, pow_zero, Nat.mul_one]
    omega

/-- No magnitude rounds to two numbers of one sign. -/
theorem eq_of_rounds {value : ℚ} (one : x.Rounds value) (other : y.Rounds value) :
    x.significand = y.significand ∧ x.scale = y.scale := by
  have apart {x y : Double} (one : x.Rounds value) (other : y.Rounds value) :
      ¬(x.scale < y.scale ∨ x.scale = y.scale ∧ x.significand < y.significand) := by
    intro smaller
    obtain ⟨ends, odd⟩ := high_le_low smaller
    have ordered : x.scale ≤ y.scale := by omega
    have moved : (y.interval.low : ℚ) * 2 ^ (y.scale - 2) =
        (y.interval.low * 2 ^ (y.scale - x.scale).toNat : ℕ) * 2 ^ (x.scale - 2) := by
      have sum : y.scale - 2 = ((y.scale - x.scale).toNat : ℤ) + (x.scale - 2) := by omega
      rw [sum, zpow_add₀ two_ne_zero, zpow_natCast]
      push_cast
      ring
    have unit : (0 : ℚ) < 2 ^ (x.scale - 2) := by positivity
    have below := one.le.2
    have above := other.le.1
    rw [moved] at above
    have reverse : y.interval.low * 2 ^ (y.scale - x.scale).toNat ≤ x.interval.high := by
      have bounded := le_of_mul_le_mul_right (above.trans below) unit
      exact_mod_cast bounded
    have same := Nat.le_antisymm ends reverse
    have meets : value = x.interval.high * 2 ^ (x.scale - 2) := by
      apply le_antisymm below
      rw [same]
      exact above
    have evenX := one.even_of_eq (.inr meets)
    have evenY := other.even_of_eq (.inl (by rw [meets, moved, same]))
    rcases odd same with odd | odd <;> omega
  have first := apart one other
  have second := apart other one
  omega

/-- Powers of one base on both sides of a quotient. -/
theorem zpow_mul_toNat {base : ℚ} (nonzero : base ≠ 0) (power : ℤ) :
    base ^ power * base ^ (-power).toNat = base ^ power.toNat := by
  rw [← zpow_natCast, ← zpow_natCast, ← zpow_add₀ nonzero]
  congr 1
  omega

/-- A natural number for each of two magnitudes, in a common unit. -/
theorem exists_unit (x : Double) (place : ℤ) :
    ∃ unit : ℚ, 0 < unit ∧
      (∀ quarters : ℕ, ((quarters * (x.factors place).1 : ℕ) : ℚ) =
        quarters * 2 ^ (x.scale - 2) * unit) ∧
      ∀ count : ℕ, ((count * (x.factors place).2 : ℕ) : ℚ) = count * 10 ^ place * unit := by
  refine ⟨2 ^ (-(x.scale - 2)).toNat * 10 ^ (-place).toNat, by positivity, ?_, ?_⟩
  · intro quarters
    have binary := zpow_mul_toNat (two_ne_zero : (2 : ℚ) ≠ 0) (x.scale - 2)
    simp only [factors, Nat.pow_eq]
    push_cast
    rw [← binary]
    ring
  · intro count
    have decimal := zpow_mul_toNat (by norm_num : (10 : ℚ) ≠ 0) place
    simp only [factors, Nat.pow_eq]
    push_cast
    rw [← decimal]
    ring

/-- A decimal reads back as a number if its value rounds to it. -/
theorem readsBack_iff (x : Double) (count : ℕ) (place : ℤ) :
    x.readsBack count place = true ↔ x.Rounds (count * 10 ^ place) := by
  obtain ⟨unit, positive, binary, decimal⟩ := x.exists_unit place
  have le (a b : ℕ) : a ≤ b ↔ (a : ℚ) ≤ b := Nat.cast_le.symm
  have lt (a b : ℕ) : a < b ↔ (a : ℚ) < b := Nat.cast_lt.symm
  unfold readsBack Rounds
  simp only [apply_ite (· = true), Bool.and_eq_true, decide_eq_true_eq, le, lt, binary, decimal,
    mul_le_mul_iff_left₀ positive, mul_lt_mul_iff_left₀ positive]

/-- The magnitude of a finite number. -/
def modulus (x : Double) : ℚ :=
  x.significand * 2 ^ x.scale

theorem modulus_eq (x : Double) : x.modulus = (4 * x.significand : ℕ) * 2 ^ (x.scale - 2) := by
  rw [modulus, zpow_sub₀ two_ne_zero]
  push_cast
  ring

theorem low_le_modulus (x : Double) : x.interval.low * 2 ^ (x.scale - 2) ≤ x.modulus := by
  have low := x.interval_low
  rw [modulus_eq]
  apply mul_le_mul_of_nonneg_right _ (by positivity)
  exact_mod_cast (by omega : x.interval.low ≤ 4 * x.significand)

theorem modulus_lt_high (x : Double) : x.modulus < x.interval.high * 2 ^ (x.scale - 2) := by
  rw [modulus_eq, interval_high]
  apply mul_lt_mul_of_pos_right _ (by positivity)
  exact_mod_cast (by omega : 4 * x.significand < 4 * x.significand + 2)

/-- A magnitude rounds to the number that it is the magnitude of. -/
theorem rounds_modulus (x : Double) : x.Rounds x.modulus := by
  by_cases zero : x.significand = 0
  · have closed : x.interval.closed = true := by simp [interval, zero]
    rw [Rounds, if_pos closed]
    exact ⟨x.low_le_modulus, x.modulus_lt_high.le⟩
  · refine rounds_of_lt ?_ x.modulus_lt_high
    have low := x.interval_low
    rw [modulus_eq]
    apply mul_lt_mul_of_pos_right _ (by positivity)
    exact_mod_cast (by omega : x.interval.low < 4 * x.significand)

/-- What the grid of a place offers reads back. -/
theorem readsBack_of_onGrid {place : ℤ} {count : ℕ} (found : x.onGrid? place = some count) :
    x.readsBack count place = true := by
  unfold onGrid? at found
  simp only at found
  split at found
  · split at found <;> cases found <;> assumption
  · cases found
    assumption
  · cases found
    assumption
  · contradiction

/-- A grid without an offer does not read back next to the number. -/
theorem not_readsBack_of_onGrid {place : ℤ} (absent : x.onGrid? place = none) :
    x.readsBack (4 * x.significand * (x.factors place).1 / (x.factors place).2) place = false ∧
      x.readsBack (4 * x.significand * (x.factors place).1 / (x.factors place).2 + 1) place =
        false := by
  unfold onGrid? at absent
  simp only at absent
  split at absent
  · split at absent <;> contradiction
  · contradiction
  · contradiction
  next below above => exact ⟨below, above⟩

/-- A grid that is finer than an interval is wide has a decimal in it. -/
theorem isSome_onGrid {place : ℤ}
    (finer : 10 ^ place < ((x.interval.high : ℚ) - x.interval.low) * 2 ^ (x.scale - 2)) :
    (x.onGrid? place).isSome = true := by
  obtain ⟨unit, positive, binary, decimal⟩ := x.exists_unit place
  let value := 4 * x.significand * (x.factors place).1
  let below := value / (x.factors place).2
  have grid : 0 < (x.factors place).2 :=
    Nat.mul_pos (Nat.pow_pos (by decide)) (Nat.pow_pos (by decide))
  have modulus : (value : ℚ) = x.modulus * unit := by rw [modulus_eq, ← binary]
  -- the number lies between two decimals of the grid
  have under : below * 10 ^ place ≤ x.modulus := by
    apply le_of_mul_le_mul_right _ positive
    rw [← decimal, ← modulus]
    exact_mod_cast Nat.div_mul_le_self value _
  have beyond : x.modulus < (below + 1 : ℕ) * 10 ^ place := by
    apply lt_of_mul_lt_mul_right _ positive.le
    rw [← decimal, ← modulus]
    exact_mod_cast Nat.lt_mul_of_div_lt (Nat.lt_succ_self below) grid
  by_contra absent
  have none := not_readsBack_of_onGrid (Option.not_isSome_iff_eq_none.mp absent)
  have outside (count : ℕ) (refused : x.readsBack count place = false) :
      (count : ℚ) * 10 ^ place ≤ x.interval.low * 2 ^ (x.scale - 2) ∨
        x.interval.high * 2 ^ (x.scale - 2) ≤ (count : ℚ) * 10 ^ place := by
    by_contra inside
    rw [not_or, not_le, not_le] at inside
    have rounds := rounds_of_lt inside.1 inside.2
    rw [← readsBack_iff, refused] at rounds
    contradiction
  have step : ((below + 1 : ℕ) : ℚ) * 10 ^ place = below * 10 ^ place + 10 ^ place := by
    push_cast
    ring
  have low := x.low_le_modulus
  have high := x.modulus_lt_high
  rcases outside below none.1 with before | before
  · rcases outside (below + 1) none.2 with behind | behind <;> linarith
  · linarith

theorem readsBack_of_search {power : ℤ} {more used : ℕ} {found : Decimal}
    (searched : x.search power more used = some found) :
    x.readsBack found.digits found.exponent = true := by
  induction more generalizing used with
  | zero => contradiction
  | succ more ih =>
      unfold search at searched
      simp only at searched
      split at searched
      next offered =>
          cases searched
          exact readsBack_of_onGrid offered
      next => exact ih searched

/-- A search that comes to a grid with an offer finds something. -/
theorem isSome_search {power : ℤ} {more used : ℕ}
    (offered : (x.onGrid? (power - (used + more : ℕ))).isSome = true) :
    (x.search power (more + 1) used).isSome = true := by
  induction more generalizing used with
  | zero =>
      obtain ⟨count, found⟩ := Option.isSome_iff_exists.mp offered
      have found : x.onGrid? (power - used) = some count := found
      simp only [search, found, Option.isSome_some]
  | succ more ih =>
      unfold search
      simp only
      split
      · rfl
      · apply ih
        rwa [Nat.succ_add_eq_add_succ]

/-! ## Seventeen digits -/

theorem reaches_iff (x : Double) (power : ℤ) :
    x.reaches power = true ↔ (10 : ℚ) ^ power ≤ x.modulus := by
  have binary := zpow_mul_toNat (two_ne_zero : (2 : ℚ) ≠ 0) x.scale
  have decimal := zpow_mul_toNat (by norm_num : (10 : ℚ) ≠ 0) power
  have unit : (0 : ℚ) < 2 ^ (-x.scale).toNat * 10 ^ (-power).toNat := by positivity
  rw [reaches, decide_eq_true_eq, ← mul_le_mul_iff_left₀ unit, modulus]
  rw [← Nat.cast_le (α := ℚ)]
  simp only [numerator, denominator, Nat.pow_eq]
  push_cast
  rw [← binary, ← decimal]
  apply iff_of_eq
  congr 1 <;> ring

/-- The power of ten that is estimated from a number of bits is at most two too large. -/
theorem estimate_le : ∀ shift < 2100,
    let bits : ℤ := (shift : ℕ) - 1075
    let power : ℤ := bits * 30103 / 100000 - 1
    10 ^ power.toNat * 2 ^ (-bits).toNat ≤ 2 ^ bits.toNat * 10 ^ (-power).toNat := by
  decide +kernel

theorem zpow_estimate_le {bits : ℤ} (least : -1075 ≤ bits) (most : bits < 1025) :
    (10 : ℚ) ^ (bits * 30103 / 100000 - 1) ≤ 2 ^ bits := by
  have estimated := estimate_le (bits + 1075).toNat (by omega)
  have shifted : ((bits + 1075).toNat : ℤ) - 1075 = bits := by omega
  simp only [shifted] at estimated
  generalize bits * 30103 / 100000 - 1 = power at estimated ⊢
  have binary := zpow_mul_toNat (two_ne_zero : (2 : ℚ) ≠ 0) bits
  have decimal := zpow_mul_toNat (by norm_num : (10 : ℚ) ≠ 0) power
  have unit : (0 : ℚ) < 2 ^ (-bits).toNat * 10 ^ (-power).toNat := by positivity
  apply le_of_mul_le_mul_right _ unit
  calc (10 : ℚ) ^ power * (2 ^ (-bits).toNat * 10 ^ (-power).toNat)
      = (10 ^ power.toNat * 2 ^ (-bits).toNat : ℕ) := by
        push_cast
        rw [← decimal]
        ring
    _ ≤ (2 ^ bits.toNat * 10 ^ (-power).toNat : ℕ) := by exact_mod_cast estimated
    _ = 2 ^ bits * (2 ^ (-bits).toNat * 10 ^ (-power).toNat) := by
        push_cast
        rw [← binary]
        ring

/-- The leading power of ten is at most the number. -/
theorem zpow_magnitude_le (positive : x.significand ≠ 0) : 10 ^ x.magnitude ≤ x.modulus := by
  rw [← reaches_iff]
  unfold magnitude
  simp only
  split_ifs with first second
  · exact first
  · exact second
  · have size : Nat.log2 x.significand < 53 := (Nat.log2_lt positive).mpr x.significand_lt
    have scale := x.scale_eq
    have exponent := x.exponent.isLt
    have bits := @zpow_estimate_le (Nat.log2 x.significand + x.scale) (by omega) (by omega)
    have leading : (2 : ℚ) ^ ((Nat.log2 x.significand : ℤ) + x.scale) ≤ x.modulus := by
      rw [zpow_add₀ two_ne_zero, zpow_natCast, modulus]
      apply mul_le_mul_of_nonneg_right _ (by positivity)
      exact_mod_cast Nat.log2_self_le positive
    rw [reaches_iff, Int.add_sub_assoc]
    exact bits.trans leading

/-- The grid of seventeen digits is finer than the interval of a number is wide. -/
theorem zpow_lt_width (positive : x.significand ≠ 0) :
    (10 : ℚ) ^ (x.magnitude - 16) <
      ((x.interval.high : ℚ) - x.interval.low) * 2 ^ (x.scale - 2) := by
  have unit : (0 : ℚ) < 2 ^ (x.scale - 2) := by positivity
  have digits : (10 : ℚ) ^ (x.magnitude - 16) * 10 ^ 16 ≤ x.modulus := by
    have reached := zpow_magnitude_le positive
    rwa [← zpow_natCast, ← zpow_add₀ (by norm_num), Nat.cast_ofNat, Int.sub_add_cancel]
  have wide : 4 * x.significand < (x.interval.high - x.interval.low) * 10 ^ 16 := by
    have low := x.interval_low
    have bound := x.significand_lt
    rw [interval_high]
    omega
  have ordered : x.interval.low ≤ x.interval.high := by
    have low := x.interval_low
    rw [interval_high]
    omega
  have wider : (4 * x.significand : ℕ) * (2 : ℚ) ^ (x.scale - 2) <
      ((x.interval.high : ℚ) - x.interval.low) * 10 ^ 16 * 2 ^ (x.scale - 2) := by
    apply mul_lt_mul_of_pos_right _ unit
    rw [← Nat.cast_sub ordered]
    exact_mod_cast wide
  rw [modulus_eq] at digits
  linarith

/-- The shortest decimal of a number rounds to it. -/
theorem rounds_shortest (positive : x.significand ≠ 0) :
    x.Rounds (x.shortest.digits * 10 ^ x.shortest.exponent) := by
  have offered := isSome_onGrid (zpow_lt_width positive)
  obtain ⟨found, searched⟩ := Option.isSome_iff_exists.mp
    (@isSome_search x x.magnitude 16 0 offered)
  rw [shortest, searched, Option.getD_some, ← readsBack_iff]
  exact readsBack_of_search searched

end Sramp.Double
