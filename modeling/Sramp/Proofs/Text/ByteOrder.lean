import Mathlib.Order.Lattice

/-!
# The order of bytes

Texts are ordered character by character.  Written as bytes they are ordered in the same way: of
two characters the one that comes first has the smaller leading byte, or the smaller byte where
their encodings first differ, and no encoding begins with another one.
-/

namespace Sramp.Text

/-- The bytes that a text is written with. -/
def bytes (text : String) : List UInt8 :=
  text.toUTF8.data.toList

theorem bytes_eq_flatMap (text : String) :
    bytes text = text.toList.flatMap String.utf8EncodeChar := by
  have encoded : text.toUTF8 = text.toList.utf8Encode := String.utf8Encode_toList.symm
  rw [bytes, encoded, List.utf8Encode, List.data_toByteArray]

/-- Bytes are compared as the numbers that they stand for. -/
theorem ofNat_cons_lt_ofNat_cons_iff {m n : Nat} (first : m < 256) (second : n < 256)
    {rest others : List UInt8} :
    UInt8.ofNat m :: rest < UInt8.ofNat n :: others ↔ m < n ∨ m = n ∧ rest < others := by
  have same : UInt8.ofNat m = UInt8.ofNat n ↔ m = n := by
    rw [← UInt8.toNat_inj, UInt8.toNat_ofNat_of_lt' first, UInt8.toNat_ofNat_of_lt' second]
  rw [List.cons_lt_cons_iff, UInt8.lt_iff_toNat_lt, UInt8.toNat_ofNat_of_lt' first,
    UInt8.toNat_ofNat_of_lt' second, same]

theorem toNat_val_lt (c : Char) : c.val.toNat < 0x110000 := by
  have valid := c.valid
  simp only [UInt32.isValidChar, Nat.isValidChar] at valid
  omega

/-- The encodings of two characters decide the order, whatever follows them. -/
theorem utf8EncodeChar_append_lt {c d : Char} (less : c < d) (rest others : List UInt8) :
    String.utf8EncodeChar c ++ rest < String.utf8EncodeChar d ++ others := by
  have less : c.val.toNat < d.val.toNat := less
  have bound := toNat_val_lt d
  -- Every byte but the first stands for six binary digits of the character.
  have twelve (v : Nat) : v / 4096 = v / 64 / 64 := by rw [Nat.div_div_eq_div_mul]
  have eighteen (v : Nat) : v / 262144 = v / 64 / 64 / 64 := by
    simp only [Nat.div_div_eq_div_mul]
  simp only [String.utf8EncodeChar, twelve, eighteen]
  split_ifs <;> simp only [List.cons_append, List.nil_append]
  all_goals
    repeat rw [ofNat_cons_lt_ofNat_cons_iff (by omega) (by omega)]
    omega

theorem flatMap_utf8EncodeChar_lt {chars others : List Char} (less : chars < others) :
    chars.flatMap String.utf8EncodeChar < others.flatMap String.utf8EncodeChar := by
  induction less with
  | @nil d others =>
      obtain ⟨byte, rest, encoded⟩ := List.exists_cons_of_ne_nil (@String.utf8EncodeChar_ne_nil d)
      rw [List.flatMap_nil, List.flatMap_cons, encoded]
      exact List.nil_lt_cons byte _
  | cons _ ih =>
      rw [List.flatMap_cons, List.flatMap_cons]
      exact List.append_left_lt ih
  | rel less =>
      rw [List.flatMap_cons, List.flatMap_cons]
      exact utf8EncodeChar_append_lt less _ _

/-- Texts are ordered as their bytes are. -/
theorem bytes_lt_iff {text other : String} : bytes text < bytes other ↔ text < other := by
  have ordered {text other : String} (less : text < other) : bytes text < bytes other := by
    rw [bytes_eq_flatMap, bytes_eq_flatMap]
    exact flatMap_utf8EncodeChar_lt less
  constructor
  · intro less
    by_contra notLess
    by_cases more : other < text
    · exact List.lt_asymm less (ordered more)
    · cases String.le_antisymm (String.not_lt.mp notLess) (String.not_lt.mp more)
      exact List.lt_irrefl _ less
  · exact ordered

end Sramp.Text
