import Mathlib.Data.List.TakeWhile
import Sramp.Proofs.Double.Rounding
import Sramp.Proofs.Text.Quoting
import Sramp.Query.Text

/-!
# Numbers in query text

A finite number is written in digits with at most one point.  Their value rounds to the number, so
different numbers are written differently.
-/

namespace Sramp

namespace Double

/-- The value of decimal digits, of which some may stand behind a point. -/
def pointValue (chars : List Char) : ℚ :=
  let front := chars.takeWhile (· != '.')
  let behind := (chars.dropWhile (· != '.')).drop 1
  (Nat.ofDigitChars 10 (front ++ behind) 0 : ℚ) * 10 ^ (-(behind.length : ℤ))

theorem pointValue_append {front : List Char} (plain : '.' ∉ front) (behind : List Char) :
    pointValue (front ++ '.' :: behind) =
      Nat.ofDigitChars 10 (front ++ behind) 0 * 10 ^ (-(behind.length : ℤ)) := by
  have before : ∀ c ∈ front, (c != '.') = true := by
    intro c member
    rw [bne_iff_ne]
    rintro rfl
    exact plain member
  simp [pointValue, List.takeWhile_append_of_pos before, List.dropWhile_append_of_pos before]

theorem pointValue_of_not_mem {chars : List Char} (plain : '.' ∉ chars) :
    pointValue chars = Nat.ofDigitChars 10 chars 0 := by
  have before : ∀ c ∈ chars, (c != '.') = true := by
    intro c member
    rw [bne_iff_ne]
    rintro rfl
    exact plain member
  have front := @List.takeWhile_append_of_pos _ _ _ [] before
  have behind := @List.dropWhile_append_of_pos _ _ _ [] before
  simp only [List.append_nil, List.takeWhile_nil, List.dropWhile_nil] at front behind
  simp [pointValue, front, behind]

theorem ofDigitChars_zeros (count : ℕ) (digits : List Char) :
    Nat.ofDigitChars 10 (List.replicate count '0' ++ digits) 0 = Nat.ofDigitChars 10 digits 0 := by
  rw [Nat.ofDigitChars_append, Nat.ofDigitChars_replicate_zero, Nat.mul_zero]

theorem ofDigitChars_append_zeros (digits : List Char) (count : ℕ) :
    Nat.ofDigitChars 10 (digits ++ List.replicate count '0') 0 =
      10 ^ count * Nat.ofDigitChars 10 digits 0 := by
  rw [Nat.ofDigitChars_append, Nat.ofDigitChars_replicate_zero]

/-- Digits that are written positionally keep their value. -/
theorem pointValue_positional {digits : List Char} (plain : '.' ∉ digits) (point : ℤ) :
    pointValue (positional digits point) =
      Nat.ofDigitChars 10 digits 0 * 10 ^ (point - digits.length) := by
  unfold positional
  split_ifs with small long
  · have shape : ['0', '.'] ++ List.replicate (-point).toNat '0' ++ digits =
        List.replicate 1 '0' ++ '.' :: (List.replicate (-point).toNat '0' ++ digits) := by simp
    rw [shape, pointValue_append (by decide), ofDigitChars_zeros, ofDigitChars_zeros,
      List.length_append, List.length_replicate]
    congr 2
    omega
  · have unpointed : '.' ∉ digits ++ List.replicate (point.toNat - digits.length) '0' := by
      simp [plain]
    rw [pointValue_of_not_mem unpointed, ofDigitChars_append_zeros, Nat.cast_mul, Nat.cast_pow,
      Nat.cast_ofNat, mul_comm, ← zpow_natCast]
    congr 2
    omega
  · have front : '.' ∉ digits.take point.toNat := fun member => plain (List.mem_of_mem_take member)
    rw [pointValue_append front, List.take_append_drop, List.length_drop]
    congr 2
    omega

/-- Only zeros are left out at the end of digits. -/
theorem exists_zeros (digits : List Char) :
    ∃ zeros, digits = withoutTrailingZeros digits ++ List.replicate zeros '0' := by
  let ending := digits.reverse.takeWhile (· == '0')
  have zeros : ending = List.replicate ending.length '0' := by
    apply List.eq_replicate_iff.mpr ⟨rfl, ?_⟩
    intro c member
    have zero : (c == '0') = true := List.mem_takeWhile_imp (p := (· == '0')) member
    exact beq_iff_eq.mp zero
  refine ⟨ending.length, ?_⟩
  calc digits = digits.reverse.reverse := (List.reverse_reverse digits).symm
    _ = (ending ++ digits.reverse.dropWhile (· == '0')).reverse := by
        rw [List.takeWhile_append_dropWhile]
    _ = withoutTrailingZeros digits ++ List.replicate ending.length '0' := by
        rw [List.reverse_append, withoutTrailingZeros]
        congr 1
        rw [zeros, List.reverse_replicate, List.length_replicate]

theorem isDigit_of_mem_digitsOf {n : ℕ} {c : Char} (member : c ∈ digitsOf n) : c.isDigit = true :=
  Nat.isDigit_of_mem_toDigits (by decide) (by decide) member

theorem point_not_mem {digits : List Char} (plain : ∀ c ∈ digits, c.isDigit = true) :
    '.' ∉ digits :=
  fun member => absurd (plain '.' member) (by decide)

/-- The text of a decimal has its value. -/
theorem pointValue_chars (value : Decimal) :
    pointValue value.chars = value.digits * 10 ^ value.exponent := by
  obtain ⟨zeros, digits⟩ := exists_zeros (digitsOf value.digits)
  have plain : '.' ∉ withoutTrailingZeros (digitsOf value.digits) :=
    point_not_mem fun c member => isDigit_of_mem_digitsOf (mem_withoutTrailingZeros member)
  have whole : value.digits =
      10 ^ zeros * Nat.ofDigitChars 10 (withoutTrailingZeros (digitsOf value.digits)) 0 := by
    rw [← ofDigitChars_append_zeros, ← digits, digitsOf, Nat.ofDigitChars_ten_toDigits]
  have length := congrArg List.length digits
  rw [List.length_append, List.length_replicate] at length
  rw [Decimal.chars, pointValue_positional plain]
  generalize withoutTrailingZeros (digitsOf value.digits) = front at whole length ⊢
  have power : ((digitsOf value.digits).length : ℤ) + value.exponent - front.length =
      (zeros : ℤ) + value.exponent := by omega
  rw [power, zpow_add₀ (by norm_num), zpow_natCast]
  conv_rhs => rw [whole]
  push_cast
  ring

/-- The digits that a finite number is written in, without its sign. -/
def magnitudeChars (x : Double) : List Char :=
  if x.isWhole then digitsOf (x.numerator / x.denominator) else x.shortest.chars

variable {x y : Double}

theorem modulus_eq_div (x : Double) : x.modulus = x.numerator / x.denominator := by
  have binary := zpow_mul_toNat (two_ne_zero : (2 : ℚ) ≠ 0) x.scale
  have positive : (x.denominator : ℚ) ≠ 0 := by exact_mod_cast x.denominator_pos.ne'
  rw [eq_div_iff positive, modulus]
  simp only [numerator, denominator, Nat.pow_eq]
  push_cast
  rw [← binary]
  ring

/-- What a finite number is written as rounds to it. -/
theorem rounds_magnitudeChars (finite : x.isFinite = true) :
    x.Rounds (pointValue x.magnitudeChars) := by
  unfold magnitudeChars
  split
  next whole =>
      simp only [isWhole, finite, Bool.true_and, beq_iff_eq] at whole
      obtain ⟨quotient, exact⟩ := Nat.dvd_of_mod_eq_zero whole
      have plain : '.' ∉ digitsOf (x.numerator / x.denominator) :=
        point_not_mem fun c => isDigit_of_mem_digitsOf
      have positive : (x.denominator : ℚ) ≠ 0 := by exact_mod_cast x.denominator_pos.ne'
      have value : ((x.numerator / x.denominator : ℕ) : ℚ) = x.modulus := by
        rw [modulus_eq_div, exact, Nat.mul_div_cancel_left _ x.denominator_pos, Nat.cast_mul,
          mul_div_cancel_left₀ _ positive]
      rw [pointValue_of_not_mem plain, digitsOf, Nat.ofDigitChars_ten_toDigits, value]
      exact x.rounds_modulus
  next broken =>
      have positive : x.significand ≠ 0 := by
        intro zero
        simp [isWhole, finite, numerator, zero] at broken
      rw [pointValue_chars]
      exact rounds_shortest positive

/-- What is written positionally begins with a digit. -/
theorem head_positional {digits : List Char} (plain : ∀ c ∈ digits, c.isDigit = true) (point : ℤ) :
    ∃ c rest, positional digits point = c :: rest ∧ c.isDigit = true := by
  unfold positional
  split_ifs with small long
  · exact ⟨'0', _, rfl, rfl⟩
  · have given : digits ++ List.replicate (point.toNat - digits.length) '0' ≠ [] := by
      intro empty
      have length := congrArg List.length empty
      rw [List.length_append, List.length_replicate, List.length_nil] at length
      omega
    obtain ⟨c, rest, shape⟩ := List.exists_cons_of_ne_nil given
    have member : c ∈ digits ++ List.replicate (point.toNat - digits.length) '0' := by simp [shape]
    refine ⟨c, rest, shape, ?_⟩
    rcases List.mem_append.mp member with digit | zero
    · exact plain c digit
    · rw [List.eq_of_mem_replicate zero]
      rfl
  · cases digits with
    | nil => exact absurd (Nat.zero_le _) long
    | cons c rest =>
        obtain ⟨steps, many⟩ : ∃ steps, point.toNat = steps + 1 := ⟨point.toNat - 1, by omega⟩
        rw [many]
        exact ⟨c, _, rfl, plain c List.mem_cons_self⟩

/-- A finite number is written beginning with a digit after its sign. -/
theorem head_magnitudeChars (x : Double) :
    ∃ c rest, x.magnitudeChars = c :: rest ∧ c.isDigit = true := by
  unfold magnitudeChars
  split
  · obtain ⟨c, rest, shape⟩ := List.exists_cons_of_ne_nil (Nat.toDigits_ne_nil (b := 10)
      (n := x.numerator / x.denominator))
    have member : c ∈ digitsOf (x.numerator / x.denominator) := by
      rw [digitsOf, shape]
      exact List.mem_cons_self
    exact ⟨c, rest, shape, isDigit_of_mem_digitsOf member⟩
  · exact head_positional (fun c member =>
      isDigit_of_mem_digitsOf (mem_withoutTrailingZeros member)) _

end Double

namespace Query

open Double

variable {x y : Double}

theorem Primary.text_number (finite : x.isFinite = true) :
    (Primary.number x).text = x.signed x.magnitudeChars := by
  rw [Primary.text, magnitudeChars]
  split
  next => rfl
  next broken =>
      have number : x.isNaN = false := by
        rw [isFinite, bne, Bool.not_eq_true'] at finite
        rw [isNaN, finite, Bool.false_and]
      have positive : x.significand ≠ 0 := by
        intro zero
        simp [isWhole, finite, numerator, zero] at broken
      rw [Double.text, number, finite, if_neg Bool.false_ne_true, if_neg positive]
      rfl

/-- Different finite numbers have different texts. -/
theorem Primary.number_text_injective (one : x.isFinite = true) (other : y.isFinite = true)
    (same : (Primary.number x).text = (Primary.number y).text) : x = y := by
  rw [text_number one, text_number other, signed, signed] at same
  have chars := String.ofList_injective same
  obtain ⟨c, rest, first, digit⟩ := x.head_magnitudeChars
  obtain ⟨d, others, second, figure⟩ := y.head_magnitudeChars
  -- a digit is no sign, so the signs and the digits are the same
  have unsigned : c ≠ '-' ∧ d ≠ '-' := by
    constructor <;> rintro rfl <;> contradiction
  have parts : x.negative = y.negative ∧ x.magnitudeChars = y.magnitudeChars := by
    rw [first, second] at chars ⊢
    generalize x.negative = sign at chars ⊢
    generalize y.negative = mark at chars ⊢
    cases sign <;> cases mark <;> grind
  have rounds := rounds_magnitudeChars one
  rw [parts.2] at rounds
  obtain ⟨significands, scales⟩ := eq_of_rounds rounds (rounds_magnitudeChars other)
  exact eq_of_significand_eq parts.1 significands scales

end Query

end Sramp
