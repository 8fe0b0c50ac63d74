import Sramp.Error
import Sramp.Plan.Constraint

/-!
# Backends

A backend states plans in the language of a store.  It says how each kind of node
of a plan is stated, given the statements of the nodes below it, and may refuse
what the language cannot express; carrying it along a plan is the same for all
backends.
-/

namespace Sramp

/-- The parts of a statement for a store, built in some monad from the parts they
consist of.  An existence test receives the statements of its rows and of its
condition as actions, which it may leave out. -/
structure Backend (m : Type → Type) (Rows Condition Statement : Type) where
  name : String
  rowsText : Rows → String
  conditionText : Condition → String
  selector : Selector → m Rows
  join : Rows → Rows → JoinKind → JoinCondition → m Rows
  comparison : Operand → Operator → Value → m Condition
  present : Operand → m Condition
  oneOf : Operand → List Value → m Condition
  existence : Subquery → m Rows → m (Option Condition) → m Condition
  descendant : Selector → String → m Condition
  negation : Condition → m Condition
  conjunction : Condition → Condition → m Condition
  disjunction : Condition → Condition → m Condition
  statement : Rows → Option Condition → Selector → Option SortOrder → m Statement

namespace Backend

variable {m : Type → Type} [Monad m] {Rows Condition Statement : Type}

/-- States a source: each join after the source it extends. -/
def source (backend : Backend m Rows Condition Statement) : Source → m Rows
  | .single selector => backend.selector selector
  | .join left right kind condition => do
      let left ← backend.source left
      let right ← backend.selector right
      backend.join left right kind condition

/-- States a constraint: its parts from left to right, then the whole. -/
def constraint (backend : Backend m Rows Condition Statement) : Constraint → m Condition
  | .and left right => do
      let left ← backend.constraint left
      let right ← backend.constraint right
      backend.conjunction left right
  | .or left right => do
      let left ← backend.constraint left
      let right ← backend.constraint right
      backend.disjunction left right
  | .not inner => do backend.negation (← backend.constraint inner)
  | .comparison operand operator value => backend.comparison operand operator value
  | .present operand => backend.present operand
  | .oneOf operand values => backend.oneOf operand values
  | .descendant selector path => backend.descendant selector path
  | .existsRow rows =>
      backend.existence ⟨rows, none⟩ (backend.source rows.source) (pure none)
  | .existsRowWith rows condition =>
      backend.existence ⟨rows, some condition⟩ (backend.source rows.source)
        (some <$> backend.constraint condition)

/-- States a plan. -/
def realize (backend : Backend m Rows Condition Statement) (plan : Plan) : m Statement := do
  let rows ← backend.source plan.source
  let condition ←
    match plan.constraint with
    | none => pure none
    | some constraint => some <$> backend.constraint constraint
  backend.statement rows condition plan.column plan.ordering

end Backend

end Sramp
