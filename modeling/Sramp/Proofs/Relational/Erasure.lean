import Sramp.Proofs.Plan.Values
import Sramp.Relational.Backend

/-!
# Statements without their values

The relational backend never looks at a value.  Replacing the values of a plan before
it is stated, or those of the statement afterwards, comes to the same; and the text of
a statement holds none of them.
-/

namespace Sramp.Relational

/-- The condition with one value in all places. -/
def Condition.erased : Condition → Condition
  | .comparison column operator _ => .comparison column operator (.string "")
  | .present column => .present column
  | .never => .never
  | .oneOf column values => .oneOf column (values.map fun _ => .string "")
  | .live aliasName => .live aliasName
  | .classified number normalized artifact _ => .classified number normalized artifact (.string "")
  | .existsRow rows correlated outer => .existsRow rows correlated outer
  | .existsRowWith rows correlated outer inner => .existsRowWith rows correlated outer inner.erased
  | .not inner => .not inner.erased
  | .and left right => .and left.erased right.erased
  | .or left right => .or left.erased right.erased

/-- The statement with one value in all places. -/
def Statement.erased (statement : Statement) : Statement :=
  { statement with condition := statement.condition.map Condition.erased }

namespace Condition

@[simp] theorem connective_erased (condition : Condition) :
    condition.erased.connective = condition.connective := by
  cases condition <;> rfl

/-- The text of a condition holds no values. -/
@[simp] theorem text_erased (condition : Condition) : condition.erased.text = condition.text := by
  induction condition with
  | not inner ih => simp [erased, text, ih]
  | and left right leftIH rightIH => simp [erased, text, leftIH, rightIH]
  | or left right leftIH rightIH => simp [erased, text, leftIH, rightIH]
  | existsRowWith rows correlated outer inner ih => simp [erased, text, ih]
  | oneOf column values => simp only [erased, text, List.map_map, Function.comp_def]
  | comparison | present | never | live | classified | existsRow => rfl

end Condition

@[simp] theorem Statement.text_erased (statement : Statement) :
    statement.erased.text = statement.text := by
  rcases statement with ⟨result, rows, _ | condition, order⟩
  · rfl
  · unfold Statement.text erased
    simp only [Option.map_some, Condition.text_erased]

variable (root : String)

theorem comparison_erased (operand : Operand) (operator : Operator) (value : Value) :
    comparison operand operator (.string "") =
      Condition.erased <$> comparison operand operator value := by
  unfold comparison
  split
  · split
    · simp [Condition.erased]
    · rfl
  · simp [Condition.erased]

theorem oneOf_erased (operand : Operand) (values : List Value) :
    oneOf operand (values.map fun _ => .string "") =
      Condition.erased <$> oneOf operand values := by
  unfold oneOf
  cases values with
  | nil => rfl
  | cons first rest => simp [Condition.erased]

/-- A constraint without its values is stated as the condition without them. -/
theorem constraint_erased (constraint : Constraint) :
    (backend root).constraint constraint.erased =
      Condition.erased <$> (backend root).constraint constraint := by
  unfold Constraint.erased
  induction constraint with
  | and left right leftIH rightIH =>
      simp only [Constraint.mapValues, Backend.constraint, leftIH, rightIH]
      simp [backend, Condition.erased]
  | or left right leftIH rightIH =>
      simp only [Constraint.mapValues, Backend.constraint, leftIH, rightIH]
      simp [backend, Condition.erased]
  | not inner ih =>
      simp only [Constraint.mapValues, Backend.constraint, ih]
      simp [backend, Condition.erased]
  | comparison operand operator value => exact comparison_erased operand operator value
  | present operand => simp [Constraint.mapValues, Backend.constraint, backend, Condition.erased]
  | oneOf operand values =>
      simp only [Constraint.mapValues, Backend.constraint, backend, oneOf_erased]
      cases oneOf operand values <;> rfl
  | descendant selector path =>
      simp only [Constraint.mapValues, Backend.constraint, backend, descendant]
      split <;> rfl
  | existsRow rows =>
      simp [Constraint.mapValues, Backend.constraint, backend, existence, Condition.erased]
  | existsRowWith rows condition ih =>
      simp only [Constraint.mapValues, Backend.constraint, ih]
      simp [backend, existence, Condition.erased]

/-- A plan without its values is stated as the statement without them. -/
theorem realize_erased (plan : Plan) :
    (backend root).realize plan.erased = Statement.erased <$> (backend root).realize plan := by
  rcases plan with ⟨source, _ | constraint, column, ordering⟩
  · simp [Plan.erased, Backend.realize, backend, Statement.erased]
  · simp only [Plan.erased, Backend.realize, Option.map_some, constraint_erased]
    simp [backend, Statement.erased]

end Sramp.Relational
