import Sramp.Text.Wildcard

/-!
# Matching full-text patterns

A text matches a wildcard pattern if it consists of the pieces of the pattern in
order, each up to case, with arbitrary runs of characters in place of the
wildcards.  Which characters differ in case only is for the caller to say.
-/

namespace Sramp.FullText

/-- Which characters are variants of each other, an equivalence. -/
structure CaseVariants where
  same : Char → Char → Bool
  equivalence : Equivalence fun c d => same c d = true

variable (variants : CaseVariants)

/-- The rest of a text after a piece, which must stand at its front up to case. -/
def afterFront : (piece text : List Char) → Option (List Char)
  | [], text => some text
  | _ :: _, [] => none
  | c :: piece, d :: text => if variants.same c d then afterFront piece text else none

/-- The rest of a text after the leftmost occurrence of a piece. -/
def afterLeftmost (piece : List Char) : (text : List Char) → Option (List Char)
  | [] => afterFront variants piece []
  | d :: text =>
      match afterFront variants piece (d :: text) with
      | some rest => some rest
      | none => afterLeftmost piece text

/-- Whether a text ends in a piece up to case. -/
def endsIn (piece text : List Char) : Bool :=
  piece.length ≤ text.length &&
    (afterFront variants piece (text.drop (text.length - piece.length))).isSome

/-- Whether a text consists of pieces with an arbitrary run before each of them.
The last piece ends the text; every other one is taken as early as possible, which
leaves the most for those that follow. -/
def matchesRest : (pieces : List (List Char)) → (text : List Char) → Bool
  | [], text => text.isEmpty
  | [last], text => endsIn variants last text
  | piece :: next :: pieces, text =>
      match afterLeftmost variants piece text with
      | some rest => matchesRest (next :: pieces) rest
      | none => false

/-- Whether a text matches a pattern. -/
def matches? (pattern : Text.Wildcard) (text : List Char) : Bool :=
  match afterFront variants pattern.first text with
  | some rest => matchesRest variants pattern.rest rest
  | none => false

end Sramp.FullText
