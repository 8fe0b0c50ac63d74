/-!
# Blank characters

The characters with the Unicode property `White_Space`, and trimming with
respect to them.  Zero-width characters such as U+200B and U+FEFF are not blank.
-/

namespace Sramp.Text

/-- The ranges, ends included, of the Unicode property `White_Space`. -/
def blankRanges : List (Nat × Nat) :=
  [(0x09, 0x0D), (0x20, 0x20), (0x85, 0x85), (0xA0, 0xA0), (0x1680, 0x1680),
    (0x2000, 0x200A), (0x2028, 0x2029), (0x202F, 0x202F), (0x205F, 0x205F),
    (0x3000, 0x3000)]

/-- Whether a character is white space. -/
def isBlank (c : Char) : Bool :=
  blankRanges.any fun (low, high) => low ≤ c.toNat && c.toNat ≤ high

/-- Characters with the leading white space removed. -/
def trimStart (chars : List Char) : List Char :=
  chars.dropWhile isBlank

/-- Characters with the trailing white space removed. -/
def trimEnd (chars : List Char) : List Char :=
  (chars.reverse.dropWhile isBlank).reverse

/-- A string with the white space at both ends removed. -/
def trim (text : String) : String :=
  String.ofList (trimEnd (trimStart text.toList))

/-- Whether a string holds nothing but white space. -/
def isBlankText (text : String) : Bool :=
  text.toList.all isBlank

@[simp] theorem trimStart_nil : trimStart [] = [] := rfl

@[simp] theorem trimEnd_nil : trimEnd [] = [] := rfl

end Sramp.Text
