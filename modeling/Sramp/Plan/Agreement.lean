import Sramp.Plan.Constraint

/-!
# Agreement of plans

Two plans agree if they have the same shape, the same names, and values that agree
in the same places.  Numbers are compared as numbers, so a plan agrees with itself
unless it compares a property with a value that is not a number.
-/

namespace Sramp

namespace Constraint

/-- Whether two conditions have the same shape and agree in their values. -/
def agrees : Constraint → Constraint → Bool
  | .and first second, .and third fourth => first.agrees third && second.agrees fourth
  | .or first second, .or third fourth => first.agrees third && second.agrees fourth
  | .not left, .not right => left.agrees right
  | .comparison operand operator left, .comparison other symbol right =>
      operand == other && operator == symbol && left.agrees right
  | .oneOf operand lefts, .oneOf other rights =>
      operand == other && lefts.isEqv rights Value.agrees
  | .existsRowWith rows left, .existsRowWith others right => rows == others && left.agrees right
  | .present left, .present right => left == right
  | .descendant left below, .descendant right beneath => left == right && below == beneath
  | .existsRow left, .existsRow right => left == right
  | _, _ => false

/-- The values that properties are compared with, from left to right. -/
def values : Constraint → List Value
  | .and left right | .or left right => left.values ++ right.values
  | .not inner => inner.values
  | .comparison _ _ value => [value]
  | .oneOf _ values => values
  | .existsRowWith _ condition => condition.values
  | .present _ | .descendant _ _ | .existsRow _ => []

private theorem isEqv_self (values : List Value) :
    values.isEqv values Value.agrees = values.all fun value => value.agrees value := by
  induction values with
  | nil => rfl
  | cons value rest ih => simp [List.isEqv, ih]

/-- A condition agrees with itself exactly if all its values do. -/
@[simp] theorem agrees_self (constraint : Constraint) :
    constraint.agrees constraint = constraint.values.all fun value => value.agrees value := by
  induction constraint <;> simp_all [agrees, values, isEqv_self]

end Constraint

namespace Plan

/-- Whether two plans agree in all their parts. -/
def agrees (left right : Plan) : Bool :=
  left.source == right.source && left.column == right.column && left.ordering == right.ordering
    && match left.constraint, right.constraint with
      | none, none => true
      | some condition, some other => condition.agrees other
      | _, _ => false

/-- A plan agrees with itself exactly if all values of its condition do. -/
@[simp] theorem agrees_self (plan : Plan) :
    plan.agrees plan =
      plan.constraint.all fun condition =>
        condition.values.all fun value => value.agrees value := by
  obtain ⟨source, constraint, column, ordering⟩ := plan
  cases constraint <;> simp [agrees]

end Plan

end Sramp
