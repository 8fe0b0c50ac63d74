/-!
# Comparison that ignores the case of ASCII letters

Only the letters `A` to `Z` are identified with `a` to `z`; a letter outside
ASCII is equal to itself alone.
-/

namespace Sramp.Text

/-- Whether two character lists agree up to the case of ASCII letters. -/
def sameLetters (left right : List Char) : Bool :=
  left.map Char.toLower == right.map Char.toLower

/-- Whether two texts agree up to the case of ASCII letters. -/
def sameIgnoringCase (left right : String) : Bool :=
  sameLetters left.toList right.toList

end Sramp.Text
