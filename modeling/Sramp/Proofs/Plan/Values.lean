import Sramp.Plan.Agreement

/-!
# Values in plans

The values that a plan compares with, in the order of the plan: from left to right,
through subqueries at any depth.  Sources hold none.  Plans that differ in their values
only become equal when these are replaced.
-/

namespace Sramp

/-- A value without its text, if it is one. -/
def Value.masked : Value → Value
  | .string _ => .string ""
  | other => other

namespace Constraint

/-- The tests of a constraint that hold values, from left to right. -/
def valueTests : Constraint → List Constraint
  | .and left right | .or left right => left.valueTests ++ right.valueTests
  | .not inner => inner.valueTests
  | .comparison operand operator value => [.comparison operand operator value]
  | .oneOf operand values => [.oneOf operand values]
  | .existsRowWith _ condition => condition.valueTests
  | .present _ | .descendant .. | .existsRow _ => []

/-- The constraint with other values in the same places. -/
def mapValues (image : Operand → Value → Value) : Constraint → Constraint
  | .and left right => .and (left.mapValues image) (right.mapValues image)
  | .or left right => .or (left.mapValues image) (right.mapValues image)
  | .not inner => .not (inner.mapValues image)
  | .comparison operand operator value => .comparison operand operator (image operand value)
  | .present operand => .present operand
  | .oneOf operand values => .oneOf operand (values.map (image operand))
  | .descendant selector path => .descendant selector path
  | .existsRow rows => .existsRow rows
  | .existsRowWith rows condition => .existsRowWith rows (condition.mapValues image)

/-- The constraint with one value in all places. -/
def erased (constraint : Constraint) : Constraint :=
  constraint.mapValues fun _ _ => .string ""

/-- The constraint without the texts that it compares with.  The keys that it asks entries
for stay. -/
def masked (constraint : Constraint) : Constraint :=
  constraint.mapValues fun operand value =>
    if operand.property = .entryKey then value else value.masked

/-- The values of a constraint are those of its tests. -/
theorem values_eq_flatMap (constraint : Constraint) :
    constraint.values = constraint.valueTests.flatMap values := by
  induction constraint with
  | and left right leftIH rightIH | or left right leftIH rightIH =>
      simp only [values, valueTests, List.flatMap_append, leftIH, rightIH]
  | not inner ih => exact ih
  | existsRowWith rows condition ih => exact ih
  | comparison | present | oneOf | descendant | existsRow => simp [values, valueTests]

end Constraint

namespace Plan

/-- The tests of a plan that hold values, in the order of the plan. -/
def valueTests (plan : Plan) : List Constraint :=
  (plan.constraint.map Constraint.valueTests).getD []

/-- The values of a plan, in the order of the plan. -/
def values (plan : Plan) : List Value :=
  (plan.constraint.map Constraint.values).getD []

/-- The values of a plan are those of its tests. -/
theorem values_eq_flatMap (plan : Plan) :
    plan.values = plan.valueTests.flatMap Constraint.values := by
  rcases plan with ⟨source, _ | constraint, column, ordering⟩
  · rfl
  · exact constraint.values_eq_flatMap

/-- The plan with one value in all places: what is left says only where values stand. -/
def erased (plan : Plan) : Plan :=
  { plan with constraint := plan.constraint.map Constraint.erased }

/-- The plan without the texts that it compares with.  The keys that it asks entries for
stay. -/
def masked (plan : Plan) : Plan :=
  { plan with constraint := plan.constraint.map Constraint.masked }

end Plan

end Sramp
