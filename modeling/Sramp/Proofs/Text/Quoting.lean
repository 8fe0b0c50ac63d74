import Sramp.Value

/-!
# Texts without quote marks

The texts of numbers and dates hold letters, digits and a few signs only, so neither a quote mark
nor a line break.  Between quote marks they stand as they are.
-/

namespace Sramp

/-- Nothing is doubled in a text without quote marks. -/
theorem Text.doubled_eq_self {chars : List Char} (free : Text.quoteMark ∉ chars) :
    Text.doubled chars = chars := by
  induction chars with
  | nil => rfl
  | cons c rest ih =>
      simp only [List.mem_cons, not_or] at free
      simp [Text.doubled, Ne.symm free.1, ih free.2]

namespace Text

/-- Whether a character may stand in the text of a number or a date. -/
def isNumeral (c : Char) : Bool :=
  c.isAlphanum || c == '.' || c == '-' || c == '+'

theorem isNumeral_of_mem_toDigits {n : Nat} {c : Char} (member : c ∈ Nat.toDigits 10 n) :
    isNumeral c = true := by
  have digit := Nat.isDigit_of_mem_toDigits (by decide) (by decide) member
  simp [isNumeral, Char.isAlphanum, digit]

end Text

namespace Double

open Text

/-- A number without an exponent holds digits, zeros and a point. -/
theorem mem_positional {digits : List Char} {point : Int} {c : Char}
    (member : c ∈ positional digits point) : c ∈ digits ∨ c = '0' ∨ c = '.' := by
  unfold positional at member
  split at member
  · simp only [List.mem_append, List.mem_cons, List.not_mem_nil, or_false,
      List.mem_replicate] at member
    grind
  · split at member
    · simp only [List.mem_append, List.mem_replicate] at member
      grind
    · simp only [List.mem_append, List.mem_cons] at member
      rcases member with before | rfl | behind
      · exact .inl (List.mem_of_mem_take before)
      · exact .inr (.inr rfl)
      · exact .inl (List.mem_of_mem_drop behind)

theorem mem_withoutTrailingZeros {digits : List Char} {c : Char}
    (member : c ∈ withoutTrailingZeros digits) : c ∈ digits := by
  simpa using (List.dropWhile_subset _) (List.mem_reverse.mp member)

/-- A sign does not hinder a magnitude from being that of a number. -/
theorem isNumeral_of_mem_signed (x : Double) {magnitude : List Char}
    (plain : ∀ c ∈ magnitude, isNumeral c = true) :
    ∀ c ∈ (x.signed magnitude).toList, isNumeral c = true := by
  unfold signed
  rw [String.toList_ofList]
  split
  · exact List.forall_mem_cons.mpr ⟨by decide, plain⟩
  · exact plain

theorem isNumeral_of_mem_text (x : Double) : ∀ c ∈ x.text.toList, isNumeral c = true := by
  unfold text
  split
  · exact List.all_eq_true.mp (by decide)
  · split
    · exact x.isNumeral_of_mem_signed (List.all_eq_true.mp (by decide))
    · split
      · exact x.isNumeral_of_mem_signed (List.all_eq_true.mp (by decide))
      · apply x.isNumeral_of_mem_signed
        intro c member
        rcases mem_positional member with digit | rfl | rfl
        · exact isNumeral_of_mem_toDigits (mem_withoutTrailingZeros digit)
        · decide
        · decide

/-- The text of a number holds no quote mark. -/
theorem quoteMark_not_mem_text (x : Double) : quoteMark ∉ x.text.toList := by
  intro member
  exact absurd (x.isNumeral_of_mem_text quoteMark member) (by decide)

end Double

namespace Calendar.Date

open Text

theorem isNumeral_of_mem_padded (width value : Nat) :
    ∀ c ∈ padded width value, isNumeral c = true := by
  intro c member
  rcases List.mem_append.mp member with zeros | digit
  · rw [List.eq_of_mem_replicate zeros]
    decide
  · exact isNumeral_of_mem_toDigits digit

theorem isNumeral_of_mem_yearText (year : Int) : ∀ c ∈ yearText year, isNumeral c = true := by
  have padded := isNumeral_of_mem_padded 4 year.natAbs
  unfold yearText
  split
  · exact List.forall_mem_cons.mpr ⟨by decide, padded⟩
  · split
    · exact List.forall_mem_cons.mpr ⟨by decide, padded⟩
    · exact padded

theorem isNumeral_of_mem_text (date : Date) : ∀ c ∈ date.text.toList, isNumeral c = true := by
  have sign : isNumeral '-' = true := by decide
  rw [text, String.toList_ofList]
  simp only [List.forall_mem_append, List.forall_mem_cons]
  exact ⟨⟨isNumeral_of_mem_yearText _, sign, isNumeral_of_mem_padded 2 _⟩, sign,
    isNumeral_of_mem_padded 2 _⟩

/-- The text of a date holds no quote mark. -/
theorem quoteMark_not_mem_text (date : Date) : quoteMark ∉ date.text.toList := by
  intro member
  exact absurd (date.isNumeral_of_mem_text quoteMark member) (by decide)

end Calendar.Date

end Sramp
