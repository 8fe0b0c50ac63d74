import Sramp.Proofs.Compile.Run
import Sramp.Proofs.Plan.Renaming

/-!
# Compiling under other names

What an expression is compiled to depends on the selectors of its scope and on the aliases
given so far only by their names.  This is a statement about two compilations: one starts where
the other does, except for a renaming that takes each selector of the scope to another and every
number that may still be given to the number as far ahead of the other counters.  Both then fail
with one error, or the second gives what the first does, renamed.
-/

namespace Sramp.Compile

open Query

variable {rename : String → String} {α β γ δ : Type} {env : Environment} {scope : Scope}

/-- A renaming takes whatever number may still be given after `start` to the number as far ahead
of `other`. -/
def Shifts (rename : String → String) (start other : Aliases) : Prop :=
  ∀ (stem : Stem) (ahead : Nat),
    rename (stem.text ++ toString (start.count stem + ahead + 1)) =
      stem.text ++ toString (other.count stem + ahead + 1)

/-- Two results are one error, or a value and its image, with aliases from which the renaming
still leads on. -/
inductive Matched (rename : String → String) (image : α → β) :
    Except Error (α × Aliases) → Except Error (β × Aliases) → Prop where
  | error (cause : Error) : Matched rename image (.error cause) (.error cause)
  | ok (value : α) {finish other : Aliases} :
      Shifts rename finish other →
      Matched rename image (.ok (value, finish)) (.ok (image value, other))

/-- Two compilations match whenever the renaming leads from the aliases of the one to the aliases
of the other. -/
def Coupled (rename : String → String) (image : α → β) (first : Fresh α) (second : Fresh β) :
    Prop :=
  ∀ start other, Shifts rename start other → Matched rename image (first start) (second other)

/-- Giving the next alias on both sides keeps the numbers ahead in step. -/
theorem Shifts.bump {start other : Aliases} (shifts : Shifts rename start other)
    (given : Stem) : Shifts rename (start.bump given) (other.bump given) := by
  intro stem ahead
  have regroup (count step : Nat) : count + step + ahead + 1 = count + (ahead + step) + 1 := by
    omega
  rw [Aliases.count_bump, Aliases.count_bump, regroup, regroup]
  exact shifts stem _

theorem coupled_pure {image : α → β} (value : α) :
    Coupled rename image (pure value) (pure (image value)) := by
  intro start other shifts
  exact .ok value shifts

theorem coupled_refuse {image : α → β} (cause : Error) :
    Coupled rename image (refuse cause) (refuse cause) := by
  intro start other _
  exact .error cause

theorem coupled_unsupported {image : α → β} (cause : Unsupported) (fragment : String) :
    Coupled rename image (unsupported cause fragment) (unsupported cause fragment) :=
  coupled_refuse _

theorem coupled_answer (result : Except Error α) :
    Coupled rename id (answer result) (answer result) := by
  intro start other shifts
  cases result with
  | error cause => exact .error cause
  | ok value => exact .ok value shifts

theorem coupled_fresh (kind : NodeKind) :
    Coupled rename (Selector.rename rename) (fresh kind) (fresh kind) := by
  intro start other shifts
  have image : (start.next kind).rename rename = other.next kind :=
    congrArg (Selector.mk kind) (shifts (.ofKind kind) 0)
  rw [fresh, fresh, ← image]
  exact .ok (start.next kind) (shifts.bump (.ofKind kind))

/-- Sequences are coupled if what follows is, for each value and its image. -/
theorem Coupled.bind {image : α → β} {result : γ → δ} {first : Fresh α} {second : Fresh β}
    {next : α → Fresh γ} {after : β → Fresh δ} (coupled : Coupled rename image first second)
    (follows : ∀ value, Coupled rename result (next value) (after (image value))) :
    Coupled rename result (first >>= next) (second >>= after) := by
  intro start other shifts
  have begun := coupled start other shifts
  generalize given : first start = one at begun
  generalize taken : second other = two at begun
  cases begun with
  | error cause =>
      rw [bind_of_error given, bind_of_error taken]
      exact .error cause
  | ok value reached =>
      rw [bind_of_ok given, bind_of_ok taken]
      exact follows value _ _ reached

/-- What is made of coupled values. -/
theorem Coupled.map {image : α → β} {result : γ → δ} {first : Fresh α} {second : Fresh β}
    (coupled : Coupled rename image first second) {make : α → γ} {remake : β → δ}
    (commutes : ∀ value, remake (image value) = result (make value)) :
    Coupled rename result (do return make (← first)) (do return remake (← second)) := by
  apply coupled.bind
  intro value
  rw [commutes]
  exact coupled_pure _

theorem coupled_probe (outer : Selector) (kind : NodeKind) (key : String) :
    Coupled rename (Probe.rename rename) (probe outer kind key)
      (probe (outer.rename rename) kind key) := by
  apply (coupled_fresh _).bind
  intro owner
  apply (coupled_fresh kind).map
  intro entry
  rfl

theorem coupled_testedProperty (name : QName) :
    Coupled rename (Tested.rename rename) (testedProperty scope name)
      (testedProperty (scope.rename rename) name) := by
  unfold testedProperty
  split
  next => exact coupled_unsupported _ _
  next =>
      split
      next => exact coupled_pure _
      next =>
          apply (coupled_probe scope.artifact .propertyEntry name.localName).map
          intro found
          rfl

theorem coupled_testConstraint (tested : Tested) (comparison : Option (Operator × Primary)) :
    Coupled rename (Constraint.rename rename) (testConstraint env tested comparison)
      (testConstraint env (tested.rename rename) comparison) := by
  cases comparison with
  | none =>
      rw [testConstraint, testConstraint, Tested.exists?_rename]
      exact coupled_pure _
  | some compared =>
      rw [testConstraint, testConstraint, Tested.property_rename]
      apply (coupled_answer _).map
      intro value
      exact Tested.compare_rename rename tested compared.1 value

theorem coupled_literalArgument (argument : Argument) :
    Coupled rename id (literalArgument argument) (literalArgument argument) := by
  unfold literalArgument
  split
  next => exact coupled_pure _
  next => exact coupled_unsupported _ _

theorem coupled_propertyArgument (argument : Argument) :
    Coupled rename id (propertyArgument argument) (propertyArgument argument) := by
  unfold propertyArgument
  split
  next =>
      split
      next => exact coupled_pure _
      next => exact coupled_unsupported _ _
  next => exact coupled_unsupported _ _

/-- What goes on only under a condition, and is refused otherwise. -/
theorem Coupled.orElse {refused : Bool} {image : α → β} {cause : Unsupported} {fragment : String}
    {next : Unit → Fresh α} {after : Unit → Fresh β}
    (follows : Coupled rename image (next ()) (after ())) :
    Coupled rename image
      (if refused then (unsupported cause fragment >>= next) else next ())
      (if refused then (unsupported cause fragment >>= after) else after ()) := by
  split
  next =>
      have refusal : Coupled rename id (unsupported cause fragment : Fresh Unit)
          (unsupported cause fragment) := coupled_unsupported cause fragment
      exact refusal.bind fun _ => follows
  next => exact follows

/-- A connection of renamed tests, or an error where there is nothing to connect. -/
theorem coupled_join {join : List Constraint → Option Constraint}
    (joins : ∀ tests : List Constraint,
      join (tests.map (·.rename rename)) = (join tests).map (·.rename rename))
    (tests : List Constraint) (cause : Error) :
    Coupled rename (Constraint.rename rename)
      (match join tests with
        | some constraint => pure constraint
        | none => refuse cause)
      (match join (tests.map (·.rename rename)) with
        | some constraint => pure constraint
        | none => refuse cause) := by
  rw [joins]
  cases join tests with
  | none => exact coupled_refuse cause
  | some constraint => exact coupled_pure constraint

theorem coupled_classificationTest (any normalized : Bool) (call : FunctionCall) :
    Coupled rename (Constraint.rename rename) (classificationTest env scope any normalized call)
      (classificationTest env (scope.rename rename) any normalized call) := by
  apply (coupled_answer _).bind
  intro terms
  apply Coupled.orElse
  apply (coupled_answer _).bind
  intro uris
  have renamed : (uris.toList.map fun uri =>
        Constraint.equals (scope.rename rename).artifact (.classifier normalized) (.string uri)) =
      (uris.toList.map fun uri =>
        Constraint.equals scope.artifact (.classifier normalized) (.string uri)).map
          (·.rename rename) := by
    rw [List.map_map]
    rfl
  simp only [id, renamed]
  cases any with
  | true => exact coupled_join (Constraint.any_rename rename) _ _
  | false => exact coupled_join (Constraint.all_rename rename) _ _

theorem coupled_attributeProbe (part : EdgePart) (call : FunctionCall) :
    Coupled rename (Probe.rename rename) (attributeProbe scope part call)
      (attributeProbe (scope.rename rename) part call) := by
  unfold attributeProbe
  split
  next =>
      apply (coupled_literalArgument _).bind
      intro key
      cases edge : scope.edge with
      | none =>
          simp only [Scope.rename, edge, Option.map_none]
          exact coupled_unsupported _ _
      | some edge =>
          simp only [Scope.rename, edge, Option.map_some]
          cases part <;> exact coupled_probe _ _ _
  next => exact coupled_unsupported _ _

theorem coupled_fullTextTest (pattern : String) :
    Coupled rename (Constraint.rename rename) (fullTextTest env scope pattern)
      (fullTextTest env (scope.rename rename) pattern) := by
  apply (coupled_answer _).bind
  intro ids
  rw [hitTests_rename]
  exact coupled_join (Constraint.any_rename rename) _ _

theorem coupled_matchTest (call : FunctionCall) :
    Coupled rename (Constraint.rename rename) (matchTest env scope call)
      (matchTest env (scope.rename rename) call) := by
  unfold matchTest
  split
  next =>
      apply (coupled_literalArgument _).bind
      intro pattern
      dsimp only [id]
      split
      next => exact coupled_fullTextTest pattern
      next =>
          apply (coupled_propertyArgument _).bind
          intro name
          apply (coupled_testedProperty name).map
          intro tested
          exact Tested.compare_rename rename tested .like _
  next => exact coupled_unsupported _ _

end Sramp.Compile

namespace Sramp.Query

open Compile

variable {rename : String → String} {env : Environment}

/-! ## Predicates -/

mutual

/-- A predicate is compiled in a renamed scope to the renamed constraint. -/
theorem Expr.coupled (expr : Expr) (scope : Scope) (nested : Bool) :
    Coupled rename (Constraint.rename rename) (expr.constraint env scope nested)
      (expr.constraint env (scope.rename rename) nested) := by
  cases expr with
  | single left =>
      rw [Expr.constraint, Expr.constraint]
      exact left.coupled scope nested
  | chain left right =>
      rw [Expr.constraint, Expr.constraint]
      apply (left.coupled scope nested).bind
      intro first
      apply (right.coupled scope nested).map
      intro second
      rfl

theorem OrExpr.coupled (expr : OrExpr) (scope : Scope) (nested : Bool) :
    Coupled rename (Constraint.rename rename) (expr.constraint env scope nested)
      (expr.constraint env (scope.rename rename) nested) := by
  cases expr with
  | single left =>
      rw [OrExpr.constraint, OrExpr.constraint]
      exact left.coupled scope nested
  | chain left right =>
      rw [OrExpr.constraint, OrExpr.constraint]
      apply (left.coupled scope nested).bind
      intro first
      apply (right.coupled scope nested).map
      intro second
      rfl

theorem EqualityExpr.coupled (expr : EqualityExpr) (scope : Scope) (nested : Bool) :
    Coupled rename (Constraint.rename rename) (expr.constraint env scope nested)
      (expr.constraint env (scope.rename rename) nested) := by
  cases expr with
  | subartifacts set =>
      rw [EqualityExpr.constraint, EqualityExpr.constraint]
      exact set.coupled scope nested
  | grouped inner =>
      rw [EqualityExpr.constraint, EqualityExpr.constraint]
      exact inner.coupled scope nested
  | test subject comparison =>
      cases subject with
      | property name =>
          rw [EqualityExpr.constraint, EqualityExpr.constraint]
          apply (coupled_testedProperty name).bind
          intro tested
          exact coupled_testConstraint tested comparison
      | call call =>
          rw [EqualityExpr.constraint, EqualityExpr.constraint]
          apply (call.coupled scope nested).bind
          intro outcome
          cases outcome with
          | entries found => exact coupled_testConstraint (.entries found) comparison
          | settled constraint =>
              cases comparison with
              | none => exact coupled_pure constraint
              | some compared => exact coupled_unsupported _ _
      | primary primary =>
          rw [EqualityExpr.constraint, EqualityExpr.constraint]
          exact coupled_unsupported _ _

theorem FunctionCall.coupled (call : FunctionCall) (scope : Scope) (nested : Bool) :
    Coupled rename (Outcome.rename rename) (call.outcome env scope nested)
      (call.outcome env (scope.rename rename) nested) := by
  cases call with
  | mk name arguments =>
      unfold FunctionCall.outcome
      cases Function.ofName name with
      | error cause => exact coupled_unsupported _ _
      | ok function =>
          cases function with
          | classifiedBy any normalized =>
              exact (coupled_classificationTest any normalized _).map fun _ => rfl
          | attributeOf part => exact (coupled_attributeProbe part _).map fun _ => rfl
          | matching => exact (coupled_matchTest _).map fun _ => rfl
          | negation =>
              match arguments with
              | [.expr expr] => exact (expr.coupled scope nested).map fun _ => rfl
              | [.primary _] => exact coupled_unsupported _ _
              | [] | .expr _ :: _ :: _ | .primary _ :: _ :: _ => exact coupled_unsupported _ _

theorem SubartifactSet.coupled (set : SubartifactSet) (scope : Scope) (nested : Bool) :
    Coupled rename (Constraint.rename rename) (set.constraint env scope nested)
      (set.constraint env (scope.rename rename) nested) := by
  cases set with
  | call call =>
      rw [SubartifactSet.constraint, SubartifactSet.constraint]
      exact (call.coupled scope nested).map (Outcome.constraint_rename rename)
  | relationship relationshipType predicate next =>
      unfold SubartifactSet.constraint
      split
      next => exact coupled_unsupported _ _
      next =>
          split
          next =>
              cases predicate with
              | none =>
                  apply (coupled_fresh _).bind
                  intro document
                  exact (coupled_fresh _).map fun _ => rfl
              | some predicate =>
                  apply (coupled_fresh _).bind
                  intro document
                  apply (predicate.coupled ⟨document, none⟩ true).bind
                  intro condition
                  exact (coupled_fresh _).map fun _ => rfl
          next =>
              cases predicate with
              | none =>
                  apply (coupled_fresh _).bind
                  intro relationship
                  exact (coupled_fresh _).map fun _ => rfl
              | some predicate =>
                  apply (coupled_fresh _).bind
                  intro relationship
                  apply (coupled_fresh _).bind
                  intro target
                  apply (coupled_fresh _).bind
                  intro far
                  apply (predicate.coupled ⟨far, some ⟨relationship, target⟩⟩ true).bind
                  intro condition
                  exact (coupled_fresh _).map fun _ => rfl

end

end Sramp.Query
