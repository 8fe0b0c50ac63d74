/-!
# Connectives in statements

Conjunctions and disjunctions are written without parentheses where the reader
needs none: a part that is connected the way its surroundings are.
-/

namespace Sramp

/-- How two conditions are connected. -/
inductive Connective where
  | and
  | or
  deriving DecidableEq, Repr

namespace Connective

/-- A connective in a statement. -/
def text : Connective → String
  | .and => "AND"
  | .or => "OR"

end Connective

/-- The text of a condition as a part of another one: in parentheses if it is
connected in a way that its surroundings are not. -/
def enclosed (outer own : Option Connective) (text : String) : String :=
  match own with
  | none => text
  | some connective => if outer = some connective then text else "(" ++ text ++ ")"

@[simp] theorem enclosed_none (outer : Option Connective) (text : String) :
    enclosed outer none text = text := rfl

end Sramp
