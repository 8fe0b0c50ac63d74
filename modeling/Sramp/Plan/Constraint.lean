import Sramp.Plan.Source
import Sramp.Value

/-!
# Constraints and plans

A constraint is a condition on the rows of a source, and a plan is a source with
a condition, a result column and an ordering.  Neither refers to a particular
store.
-/

namespace Sramp

/-- The rows of a source that belong to a row outside: those whose `correlated`
operand equals the `outer` one. -/
structure Correlation where
  source : Source
  correlated : Operand
  outer : Operand
  deriving DecidableEq, Repr

/-- A condition on rows.  `existsRow` holds of a row if some correlated row of
another source exists, and `existsRowWith` if one satisfies a further condition. -/
inductive Constraint where
  | and (left right : Constraint)
  | or (left right : Constraint)
  | not (inner : Constraint)
  | comparison (operand : Operand) (operator : Operator) (value : Value)
  | present (operand : Operand)
  | oneOf (operand : Operand) (values : List Value)
  | descendant (selector : Selector) (ancestorPath : String)
  | existsRow (rows : Correlation)
  | existsRowWith (rows : Correlation) (condition : Constraint)
  deriving DecidableEq

/-- A correlated existence test as a unit. -/
structure Subquery where
  rows : Correlation
  condition : Option Constraint
  deriving DecidableEq

namespace Constraint

/-- The condition that a row of a subquery exists. -/
def ofSubquery (subquery : Subquery) : Constraint :=
  match subquery.condition with
  | none => .existsRow subquery.rows
  | some condition => .existsRowWith subquery.rows condition

/-- An operand has a value. -/
def equals (selector : Selector) (property : Property) (value : Value) : Constraint :=
  .comparison (selector.operand property) .eq value

/-- Connects constraints to the right: the first with the rest. -/
def joinAll (connect : Constraint → Constraint → Constraint) :
    List Constraint → Option Constraint
  | [] => none
  | first :: rest =>
      match joinAll connect rest with
      | none => some first
      | some others => some (connect first others)

/-- All constraints hold; nothing for an empty list. -/
def all : List Constraint → Option Constraint :=
  joinAll .and

/-- Some constraint holds; nothing for an empty list. -/
def any : List Constraint → Option Constraint :=
  joinAll .or

@[simp] theorem joinAll_nil (connect : Constraint → Constraint → Constraint) :
    joinAll connect [] = none := rfl

@[simp] theorem joinAll_singleton (connect : Constraint → Constraint → Constraint)
    (constraint : Constraint) : joinAll connect [constraint] = some constraint := rfl

/-- Nothing is connected only where there is nothing to connect. -/
@[simp] theorem joinAll_eq_none_iff {connect : Constraint → Constraint → Constraint}
    {constraints : List Constraint} :
    joinAll connect constraints = none ↔ constraints = [] := by
  cases constraints with
  | nil => simp
  | cons first rest => simp only [joinAll]; split <;> simp

/-- What relates every constraint to itself, and is kept when one more is put in
front, relates constraints to their connection. -/
theorem joinAll_induction {Related : List Constraint → Constraint → Prop}
    {connect : Constraint → Constraint → Constraint}
    (single : ∀ part, Related [part] part)
    (connects : ∀ first rest others, Related rest others →
      Related (first :: rest) (connect first others))
    {constraints : List Constraint} {whole : Constraint}
    (made : joinAll connect constraints = some whole) : Related constraints whole := by
  induction constraints generalizing whole with
  | nil => simp at made
  | cons first rest ih =>
      simp only [joinAll] at made
      split at made
      next none =>
          rw [joinAll_eq_none_iff.mp none]
          cases made
          exact single first
      next others restMade =>
          cases made
          exact connects first rest others (ih restMade)

/-- Connecting what is made of the members of a list connects each with those that
follow it. -/
theorem joinAll_map_concat {α : Type} (connect : Constraint → Constraint → Constraint)
    (image : α → Constraint) (front : List α) (last : α) :
    joinAll connect ((front ++ [last]).map image) =
      some (front.foldr (fun part others => connect (image part) others) (image last)) := by
  induction front with
  | nil => rfl
  | cons part front ih =>
      simp only [List.cons_append, List.map_cons, joinAll, ih]
      rfl

/-- What holds of all constraints, and of two connected ones if of both, holds of
their connection. -/
theorem joinAll_closed {Holds : Constraint → Prop}
    {connect : Constraint → Constraint → Constraint}
    (connects : ∀ left right, Holds left → Holds right → Holds (connect left right))
    {constraints : List Constraint} (each : ∀ part ∈ constraints, Holds part)
    {whole : Constraint} (made : joinAll connect constraints = some whole) : Holds whole := by
  revert each
  apply joinAll_induction _ _ made
  · intro part each
    exact each part (List.mem_singleton_self part)
  · intro first rest others kept each
    apply connects
    · exact each first List.mem_cons_self
    · exact kept fun part member => each part (List.mem_cons_of_mem first member)

end Constraint

/-- The property that orders the results. -/
structure SortOrder where
  operand : Operand
  ascending : Bool
  deriving DecidableEq, Repr

/-- A query in a form that any store can carry out: the nodes bound to `column`
in the rows of the source that satisfy the constraint. -/
structure Plan where
  source : Source
  constraint : Option Constraint
  column : Selector
  ordering : Option SortOrder
  deriving DecidableEq

end Sramp
