import Sramp.Proofs.Boolean.Formula
import Sramp.Proofs.Walk.Reachable
import Sramp.Query.Build

/-!
# Connecting predicates

Predicates are connected by `and`, `or` and `negate`, which put an operand into parentheses
where the grammar needs it.  Whatever the shape of the operands, a connection is visited as its
operands are visited one after the other, and adds the connection of what they add.  So a
Boolean formula over predicates is compiled to the same formula over their constraints.
-/

namespace Sramp

open Compile Query

namespace Boolean.Formula

variable {α β : Type}

/-- The formula over what an action gives for the atoms, which is carried out from left to
right. -/
def mapM {m : Type → Type} [Monad m] (action : α → m β) : Formula α → m (Formula β)
  | .atom content => do return .atom (← action content)
  | .not inner => do return .not (← inner.mapM action)
  | .and left right => do
      let left ← left.mapM action
      let right ← right.mapM action
      return .and left right
  | .or left right => do
      let left ← left.mapM action
      let right ← right.mapM action
      return .or left right

/-- The constraint that a formula over constraints stands for. -/
def constraint : Formula Constraint → Constraint
  | .atom content => content
  | .not inner => .not inner.constraint
  | .and left right => .and left.constraint right.constraint
  | .or left right => .or left.constraint right.constraint

/-- The predicate that is built from the atoms of a formula. -/
def predicate : Formula Expr → Expr
  | .atom content => content
  | .not inner => inner.predicate.negate
  | .and left right => left.predicate.and right.predicate
  | .or left right => left.predicate.or right.predicate

end Boolean.Formula

namespace Query.Expr

variable {env : Environment} {scope : Scope} {nested : Bool}

/-- Parentheses around a conjunct do not change what it is compiled to. -/
theorem constraint_toOr (expr : Expr) :
    expr.toOr.constraint env scope nested = expr.constraint env scope nested := by
  cases expr with
  | single left => rw [toOr, Expr.constraint]
  | chain left right => rw [toOr, OrExpr.constraint, EqualityExpr.constraint]; exact nofun

/-- Parentheses around an alternative do not change what it is compiled to. -/
theorem constraint_toEquality (expr : Expr) :
    expr.toEquality.constraint env scope nested = expr.constraint env scope nested := by
  match expr with
  | .single (.single part) => rw [toEquality, Expr.constraint, OrExpr.constraint]
  | .single (.chain left right) => rw [toEquality, EqualityExpr.constraint]; exact nofun
  | .chain left right => rw [toEquality, EqualityExpr.constraint]; exact nofun

theorem constraint_and (left right : Expr) :
    (left.and right).constraint env scope nested = (do
      let first ← left.constraint env scope nested
      let second ← right.constraint env scope nested
      return .and first second) := by
  rw [Expr.and, Expr.constraint, constraint_toOr]

theorem constraint_or (left right : Expr) :
    (left.or right).constraint env scope nested = (do
      let first ← left.constraint env scope nested
      let second ← right.constraint env scope nested
      return .or first second) := by
  rw [Expr.or, Expr.constraint, OrExpr.constraint, constraint_toEquality, constraint_toOr]

theorem constraint_negate (expr : Expr) :
    expr.negate.constraint env scope nested = (do
      return .not (← expr.constraint env scope nested)) := by
  have known : Function.ofName (.xpath "not") = .ok .negation := rfl
  simp only [negate, function, ofEquality, FunctionCall.xpath, Expr.constraint,
    OrExpr.constraint, EqualityExpr.constraint, FunctionCall.outcome, known, bind_assoc,
    pure_bind]

/-- A formula over predicates is compiled to the same formula over their constraints. -/
theorem constraint_predicate (formula : Boolean.Formula Expr) :
    formula.predicate.constraint env scope nested =
      Boolean.Formula.constraint <$> formula.mapM fun leaf => leaf.constraint env scope nested := by
  induction formula with
  | atom leaf =>
      simp only [Boolean.Formula.predicate, Boolean.Formula.mapM, map_bind, map_pure,
        Boolean.Formula.constraint, bind_pure]
  | not inner ih =>
      simp only [Boolean.Formula.predicate, Boolean.Formula.mapM, map_bind, map_pure,
        Boolean.Formula.constraint, constraint_negate, ih, bind_map_left]
  | and left right leftIH rightIH =>
      simp only [Boolean.Formula.predicate, Boolean.Formula.mapM, map_bind, map_pure,
        Boolean.Formula.constraint, constraint_and, leftIH, rightIH, bind_map_left]
  | or left right leftIH rightIH =>
      simp only [Boolean.Formula.predicate, Boolean.Formula.mapM, map_bind, map_pure,
        Boolean.Formula.constraint, constraint_or, leftIH, rightIH, bind_map_left]

end Query.Expr

namespace Compile

variable {env : Environment} {walk : Walk}

/-- A visit is that of `first`, then that of `second` with the aliases given since, and adds the
connection of what they add; it fails as the first of them that fails. -/
structure Walk.Connects (walk : Walk) (connect : Constraint → Constraint → Constraint)
    (whole first second : Visit Unit) : Prop where
  ok_iff : ∀ after, whole walk = .ok ((), after) ↔ ∃ left between right aliases,
    first walk = .ok ((), (walk.withAliases between).collect [left]) ∧
      second (walk.withAliases between) = .ok ((), (walk.withAliases aliases).collect [right]) ∧
      after = (walk.withAliases aliases).collect [connect left right]
  error_iff : ∀ cause, whole walk = .error cause ↔ first walk = .error cause ∨
    ∃ left between, first walk = .ok ((), (walk.withAliases between).collect [left]) ∧
      second (walk.withAliases between) = .error cause

/-- A visit is that of `inner`, and adds the negation of what that adds. -/
structure Walk.Negates (walk : Walk) (whole inner : Visit Unit) : Prop where
  ok_iff : ∀ after, whole walk = .ok ((), after) ↔ ∃ constraint aliases,
    inner walk = .ok ((), (walk.withAliases aliases).collect [constraint]) ∧
      after = (walk.withAliases aliases).collect [.not constraint]
  error_iff : ∀ cause, whole walk = .error cause ↔ inner walk = .error cause

namespace Adds

variable {visit first second : Visit Unit} {left right : Scope → Bool → Fresh Constraint}

theorem connects {connect : Constraint → Constraint → Constraint}
    (adds : Adds visit fun scope nested => do
      let one ← left scope nested
      let other ← right scope nested
      return connect one other)
    (firstAdds : Adds first left) (secondAdds : Adds second right) (ready : walk.Ready) :
    walk.Connects connect visit first second where
  ok_iff after := by
    constructor
    · intro done
      obtain ⟨constraint, aliases, run, rfl⟩ := (adds.eq_ok_iff ready).mp done
      obtain ⟨one, between, other, oneRun, otherRun, rfl⟩ := yields_connected.mp run
      exact ⟨one, between, other, aliases, (firstAdds.yields_iff ready).mpr oneRun,
        (secondAdds.yields_iff (ready.withAliases between)).mpr otherRun, rfl⟩
    · intro parts
      obtain ⟨one, between, other, aliases, oneDone, otherDone, rfl⟩ := parts
      have oneRun := (firstAdds.yields_iff ready).mp oneDone
      have otherRun := (secondAdds.yields_iff (ready.withAliases between)).mp otherDone
      exact (adds.yields_iff ready).mpr
        (yields_connected.mpr ⟨one, between, other, oneRun, otherRun, rfl⟩)
  error_iff cause := by
    rw [adds.eq_error_iff ready, connected_eq_error_iff, firstAdds.eq_error_iff ready]
    apply or_congr Iff.rfl
    apply exists_congr
    intro one
    apply exists_congr
    intro between
    exact and_congr (firstAdds.yields_iff ready).symm
      (secondAdds.eq_error_iff (ready.withAliases between)).symm

theorem negates (adds : Adds visit fun scope nested => do return .not (← left scope nested))
    (innerAdds : Adds first left) (ready : walk.Ready) : walk.Negates visit first where
  ok_iff after := by
    constructor
    · intro done
      obtain ⟨constraint, aliases, run, rfl⟩ := (adds.eq_ok_iff ready).mp done
      simp only [yields_bind, yields_pure] at run
      obtain ⟨inner, _, innerRun, rfl, rfl⟩ := run
      exact ⟨inner, _, (innerAdds.yields_iff ready).mpr innerRun, rfl⟩
    · intro parts
      obtain ⟨inner, aliases, innerDone, rfl⟩ := parts
      have innerRun := (innerAdds.yields_iff ready).mp innerDone
      refine (adds.yields_iff ready).mpr ?_
      simp only [yields_bind, yields_pure]
      exact ⟨inner, aliases, innerRun, rfl, rfl⟩
  error_iff cause := by
    rw [adds.eq_error_iff ready, innerAdds.eq_error_iff ready]
    exact return_eq_error_iff

end Adds

end Compile

namespace Query

variable {env : Environment} {walk : Walk}

/-- Whatever the shape of two predicates, and whatever a walk has reached, their conjunction and
their disjunction are visited as the one and then the other, and the negation of a predicate as
the predicate.  A formula over predicates is compiled to the same formula over their
constraints, with the connectives in their places and every negation kept. -/
theorem visit_connectives (valid : env.settings.Valid) (reachable : walk.Reachable env) :
    (∀ left right : Expr, walk.Connects .and ((left.and right).visit env) (left.visit env)
      (right.visit env)) ∧
    (∀ left right : Expr, walk.Connects .or ((left.or right).visit env) (left.visit env)
      (right.visit env)) ∧
    (∀ expr : Expr, walk.Negates (expr.negate.visit env) (expr.visit env)) ∧
    ∀ formula : Boolean.Formula Expr,
      (∀ scope nested, formula.predicate.constraint env scope nested =
        Boolean.Formula.constraint <$>
          formula.mapM fun leaf => leaf.constraint env scope nested) ∧
      formula.predicate.visit env walk = walk.follow Walk.gain (Boolean.Formula.constraint <$>
        formula.mapM fun leaf => leaf.constraint env walk.scope walk.nested) := by
  have ready := reachable.ready valid
  refine ⟨?_, ?_, ?_, ?_⟩
  · intro left right
    have adds := (left.and right).adds valid
    simp only [Expr.constraint_and] at adds
    exact adds.connects (left.adds valid) (right.adds valid) ready
  · intro left right
    have adds := (left.or right).adds valid
    simp only [Expr.constraint_or] at adds
    exact adds.connects (left.adds valid) (right.adds valid) ready
  · intro expr
    have adds := expr.negate.adds valid
    simp only [Expr.constraint_negate] at adds
    exact adds.negates (expr.adds valid) ready
  · intro formula
    refine ⟨fun _ _ => Expr.constraint_predicate formula, ?_⟩
    rw [← Expr.constraint_predicate]
    exact formula.predicate.adds valid walk ready

/-- `(@name or @status) and not(@name)`, visited with which a walk starts, adds a
conjunction. -/
theorem visit_connectives_of_mixed :
    ∃ start left right aliases, start.Reachable .bare ∧
      (((Expr.exists "name").or (.exists "status")).and (.negate (.exists "name"))).visit .bare
        start = .ok ((), (start.withAliases aliases).collect [.and left right]) := by
  have valid : Environment.bare.settings.Valid := Settings.fault?_eq_none_iff.mp (by decide)
  have reachable : Walk.Reachable .bare _ := .start LocationPath.all
  obtain ⟨conjoins, -⟩ := visit_connectives valid reachable
  have succeeds : ((((Expr.exists "name").or (.exists "status")).and
      (.negate (.exists "name"))).visit .bare (Walk.start.collect
        (pathTests .bare Walk.start.root .all))).toOption.isSome = true := by
    decide +kernel
  obtain ⟨⟨⟨⟩, after⟩, done⟩ := exists_ok_of_isSome succeeds
  obtain ⟨left, between, right, aliases, -, -, same⟩ := ((conjoins _ _).ok_iff after).mp done
  rw [same] at done
  exact ⟨_, left, right, aliases, reachable, done⟩

end Query

end Sramp
