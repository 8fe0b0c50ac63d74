/-!
# Texts with wildcards

A pattern is a text in which each `.*` stands for an arbitrary run of
characters.  Everything else in it, a lone `.` or `*` included, stands for
itself.  The occurrences of `.*` are found from left to right and do not overlap.
-/

namespace Sramp.Text

/-- The literal pieces of a pattern: the piece before the first wildcard, and
the piece after each wildcard. -/
structure Wildcard where
  first : List Char
  rest : List (List Char)
  deriving DecidableEq, Repr

namespace Wildcard

/-- The pieces of a pattern in order; there is one more piece than wildcards. -/
def pieces (pattern : Wildcard) : List (List Char) :=
  pattern.first :: pattern.rest

/-- The pattern with a character put in front of its first piece. -/
def push (c : Char) (pattern : Wildcard) : Wildcard where
  first := c :: pattern.first
  rest := pattern.rest

/-- Splits a text at every `.*`. -/
def ofChars : List Char → Wildcard
  | [] => ⟨[], []⟩
  | '.' :: '*' :: rest => ⟨[], (ofChars rest).pieces⟩
  | c :: rest => (ofChars rest).push c

/-- The wildcard pattern that a text denotes. -/
def ofString (text : String) : Wildcard :=
  ofChars text.toList

/-- The pattern with `mark` written for each wildcard. -/
def withMark (pattern : Wildcard) (mark : List Char) : List Char :=
  pattern.first ++ pattern.rest.flatMap (mark ++ ·)

@[simp] theorem withMark_push (c : Char) (pattern : Wildcard) (mark : List Char) :
    (pattern.push c).withMark mark = c :: pattern.withMark mark := rfl

/-- Writing `.*` for each wildcard gives back the text that was split. -/
theorem withMark_ofChars (chars : List Char) :
    (ofChars chars).withMark ['.', '*'] = chars := by
  fun_induction ofChars chars with
  | case1 => rfl
  | case2 rest ih => simpa [withMark, pieces] using ih
  | case3 c rest _ ih => simp [ih]

end Wildcard

end Sramp.Text
