import Sramp.Plan.Constraint
import Sramp.Proofs.Boolean.Formula

/-!
# Constraints as formulas

A constraint is a Boolean combination of tests and subqueries.  Inside a subquery
that a store can correlate, one more condition stands beside its constraint: that its
rows belong to the row outside.
-/

namespace Sramp

open Boolean

/-- What conditions are combined from: constraints without a connective, and the
correlation of a subquery with the row outside. -/
inductive Atom where
  | test (constraint : Constraint)
  | correlation (rows : Correlation)

namespace Constraint

/-- The Boolean structure of a constraint.  A subquery is one atom. -/
def formula : Constraint → Formula Atom
  | .and left right => .and left.formula right.formula
  | .or left right => .or left.formula right.formula
  | .not inner => .not inner.formula
  | constraint => .atom (.test constraint)

end Constraint

end Sramp
