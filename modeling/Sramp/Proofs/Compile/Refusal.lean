import Sramp.Proofs.Compile.Test

/-!
# Why compilation fails

Compilation fails because of the query, the services or the settings.  Three further causes of
failure are for whoever compiles by collecting constraints and finds none, or too many, where
there should be one: no compilation here fails with them.
-/

namespace Sramp

/-- The causes that tell of a slip in collecting constraints, not of a query. -/
def Unsupported.isSlip : Unsupported → Bool
  | .noConstraint | .nothingTested | .notOneConstraint => true
  | _ => false

/-- Whether an error tells of a slip in collecting constraints. -/
def Error.isSlip : Error → Bool
  | .unsupported cause _ => cause.isSlip
  | _ => false

namespace Compile

open Query

variable {α β : Type} {env : Environment} {scope : Scope}

/-- Whatever an action fails with is the fault of a query, a service or the settings. -/
def Steady (action : Fresh α) : Prop :=
  ∀ start cause, action start = .error cause → cause.isSlip = false

theorem steady_pure (value : α) : Steady (pure value : Fresh α) := by
  intro start cause failed
  cases failed

theorem steady_fresh (kind : NodeKind) : Steady (fresh kind) := by
  intro start cause failed
  cases failed

theorem steady_refuse {error : Error} (fault : error.isSlip = false) :
    Steady (refuse error : Fresh α) := by
  intro start cause failed
  cases failed
  exact fault

theorem steady_unsupported {cause : Unsupported} (fault : cause.isSlip = false)
    (fragment : String) : Steady (unsupported cause fragment : Fresh α) :=
  steady_refuse fault

theorem steady_answer {result : Except Error α}
    (fault : ∀ cause, result = .error cause → cause.isSlip = false) :
    Steady (answer result) := by
  intro start cause failed
  cases result with
  | error given =>
      cases failed
      exact fault cause rfl
  | ok value => cases failed

/-- A sequence fails with what its parts fail with. -/
theorem Steady.bind {first : Fresh α} {next : α → Fresh β} (begins : Steady first)
    (follows : ∀ value, Steady (next value)) : Steady (first >>= next) := by
  intro start cause failed
  obtain fault | ⟨value, after, -, fault⟩ := bind_eq_error_iff.mp failed
  · exact begins start cause fault
  · exact follows value after cause fault

/-- What is made of the value does not fail. -/
theorem Steady.map {action : Fresh α} (steady : Steady action) (image : α → β) :
    Steady (do return image (← action)) :=
  steady.bind fun value => steady_pure (image value)

theorem steady_probe (outer : Selector) (kind : NodeKind) (key : String) :
    Steady (probe outer kind key) := by
  apply (steady_fresh _).bind
  intro owner
  exact (steady_fresh _).map _

theorem steady_testedProperty (name : QName) : Steady (testedProperty scope name) := by
  unfold testedProperty
  split
  next => exact steady_unsupported rfl _
  next =>
      split
      next => exact steady_pure _
      next => exact (steady_probe _ _ _).map _

theorem not_isSlip_of_coerce {property : Option Property} {primary : Primary}
    {format : DateFormat} {cause : Error}
    (failed : Value.coerce property primary format = .error cause) : cause.isSlip = false := by
  unfold Value.coerce at failed
  split at failed
  next text =>
      split at failed
      next =>
          unfold Value.ofDateLiteral at failed
          split at failed
          next => cases failed
          next => cases failed; rfl
      next => split at failed <;> cases failed
  next => cases failed
  next => cases failed; rfl
  next => cases failed; rfl

theorem steady_testConstraint (tested : Tested) (comparison : Option (Operator × Primary)) :
    Steady (testConstraint env tested comparison) := by
  cases comparison with
  | none => exact steady_pure _
  | some compared => exact (steady_answer fun _ failed => not_isSlip_of_coerce failed).map _

theorem steady_literalArgument (argument : Argument) : Steady (literalArgument argument) := by
  unfold literalArgument
  split
  next => exact steady_pure _
  next => exact steady_unsupported rfl _

theorem steady_propertyArgument (argument : Argument) : Steady (propertyArgument argument) := by
  unfold propertyArgument
  split
  next =>
      split
      next => exact steady_pure _
      next => exact steady_unsupported rfl _
  next => exact steady_unsupported rfl _

theorem not_isSlip_of_termArguments {arguments : List Argument} {cause : Error}
    (failed : termArguments arguments = .error cause) : cause.isSlip = false := by
  fun_induction termArguments arguments generalizing cause with
  | case1 => cases failed
  | case2 term rest ih =>
      cases given : termArguments rest with
      | error fault =>
          rw [given] at failed
          cases failed
          exact ih given
      | ok terms =>
          rw [given] at failed
          cases failed
  | case3 argument rest other =>
      cases failed
      rfl

/-- What a service fails with is no slip of the compiler. -/
theorem steady_service {ε : Type} {result : Except ε α} {image : ε → Error}
    (fault : ∀ cause, (image cause).isSlip = false) :
    Steady (answer (result.mapError image)) := by
  apply steady_answer
  intro cause failed
  cases result with
  | error given =>
      cases failed
      exact fault given
  | ok value => cases failed

/-- What goes on only under a condition, and is refused otherwise. -/
theorem Steady.orElse {refused : Bool} {cause : Unsupported} (fault : cause.isSlip = false)
    {fragment : String} {next : Unit → Fresh α} (follows : Steady (next ())) :
    Steady (if refused then (unsupported cause fragment >>= next) else next ()) := by
  split
  next => exact (steady_unsupported fault fragment).bind fun _ => follows
  next => exact follows

theorem steady_classificationTest (any normalized : Bool) (call : FunctionCall) :
    Steady (classificationTest env scope any normalized call) := by
  apply (steady_answer fun _ failed => not_isSlip_of_termArguments failed).bind
  intro terms
  apply Steady.orElse rfl
  apply (steady_service fun _ => rfl).bind
  intro uris
  dsimp only
  split
  next => exact steady_pure _
  next => exact steady_refuse rfl

theorem steady_attributeProbe (part : EdgePart) (call : FunctionCall) :
    Steady (attributeProbe scope part call) := by
  unfold attributeProbe
  split
  next =>
      apply (steady_literalArgument _).bind
      intro key
      split
      next => exact steady_probe _ _ _
      next => exact steady_unsupported rfl _
  next => exact steady_unsupported rfl _

theorem steady_fullTextTest (pattern : String) : Steady (fullTextTest env scope pattern) := by
  apply (steady_service fun _ => rfl).bind
  intro ids
  split
  next => exact steady_pure _
  next => exact steady_refuse rfl

theorem steady_matchTest (call : FunctionCall) : Steady (matchTest env scope call) := by
  unfold matchTest
  split
  next =>
      apply (steady_literalArgument _).bind
      intro pattern
      split
      next => exact steady_fullTextTest pattern
      next =>
          apply (steady_propertyArgument _).bind
          intro name
          exact (steady_testedProperty name).map _
  next => exact steady_unsupported rfl _

/-- What is said of a name that denotes no function is no slip of the compiler. -/
theorem not_isSlip_of_ofName {name : QName} {cause : Unsupported}
    (failed : Function.ofName name = .error cause) : cause.isSlip = false := by
  unfold Function.ofName Function.ofSramp Function.ofXPath at failed
  split at failed
  next => split at failed <;> cases failed <;> rfl
  next =>
      split at failed
      next =>
          split at failed <;> cases failed
          rfl
      next =>
          cases failed
          rfl

end Compile

namespace Query

open Compile

variable {env : Environment}

mutual

/-- Compiling a predicate fails with no slip. -/
theorem Expr.steady (expr : Expr) (scope : Scope) (nested : Bool) :
    Steady (expr.constraint env scope nested) := by
  cases expr with
  | single left =>
      rw [Expr.constraint]
      exact left.steady scope nested
  | chain left right =>
      rw [Expr.constraint]
      apply (left.steady scope nested).bind
      intro first
      exact (right.steady scope nested).map _

theorem OrExpr.steady (expr : OrExpr) (scope : Scope) (nested : Bool) :
    Steady (expr.constraint env scope nested) := by
  cases expr with
  | single left =>
      rw [OrExpr.constraint]
      exact left.steady scope nested
  | chain left right =>
      rw [OrExpr.constraint]
      apply (left.steady scope nested).bind
      intro first
      exact (right.steady scope nested).map _

theorem EqualityExpr.steady (expr : EqualityExpr) (scope : Scope) (nested : Bool) :
    Steady (expr.constraint env scope nested) := by
  cases expr with
  | subartifacts set =>
      rw [EqualityExpr.constraint]
      exact set.steady scope nested
  | grouped inner =>
      rw [EqualityExpr.constraint]
      exact inner.steady scope nested
  | test subject comparison =>
      cases subject with
      | property name =>
          rw [EqualityExpr.constraint]
          apply (steady_testedProperty name).bind
          intro tested
          exact steady_testConstraint tested comparison
      | call call =>
          rw [EqualityExpr.constraint]
          apply (call.steady scope nested).bind
          intro outcome
          split
          next => exact steady_testConstraint _ _
          next => exact steady_pure _
          next => exact steady_unsupported rfl _
      | primary primary =>
          rw [EqualityExpr.constraint]
          exact steady_unsupported rfl _

theorem FunctionCall.steady (call : FunctionCall) (scope : Scope) (nested : Bool) :
    Steady (call.outcome env scope nested) := by
  cases call with
  | mk name arguments =>
      unfold FunctionCall.outcome
      cases named : Function.ofName name with
      | error cause => exact steady_unsupported (not_isSlip_of_ofName named) _
      | ok function =>
          cases function with
          | classifiedBy any normalized => exact (steady_classificationTest any normalized _).map _
          | attributeOf part => exact (steady_attributeProbe part _).map _
          | matching => exact (steady_matchTest _).map _
          | negation =>
              match arguments with
              | [.expr expr] => exact (expr.steady scope nested).map _
              | [.primary _] => exact steady_unsupported rfl _
              | [] | .expr _ :: _ :: _ | .primary _ :: _ :: _ => exact steady_unsupported rfl _

theorem SubartifactSet.steady (set : SubartifactSet) (scope : Scope) (nested : Bool) :
    Steady (set.constraint env scope nested) := by
  cases set with
  | call call =>
      rw [SubartifactSet.constraint]
      exact (call.steady scope nested).map _
  | relationship relationshipType predicate next =>
      unfold SubartifactSet.constraint
      split
      next => exact steady_unsupported rfl _
      next =>
          split
          next =>
              cases predicate with
              | none =>
                  apply (steady_fresh _).bind
                  intro document
                  exact (steady_fresh _).map _
              | some predicate =>
                  apply (steady_fresh _).bind
                  intro document
                  apply (predicate.steady _ _).bind
                  intro condition
                  exact (steady_fresh _).map _
          next =>
              cases predicate with
              | none =>
                  apply (steady_fresh _).bind
                  intro relationship
                  exact (steady_fresh _).map _
              | some predicate =>
                  apply (steady_fresh _).bind
                  intro relationship
                  apply (steady_fresh _).bind
                  intro target
                  apply (steady_fresh _).bind
                  intro far
                  apply (predicate.steady _ _).bind
                  intro condition
                  exact (steady_fresh _).map _

end

end Query

namespace Compile

open Query

variable {env : Environment}

theorem steady_restrict (level : Level) (predicate : Option Expr) :
    Steady (restrict env level predicate) := by
  cases predicate with
  | none => exact steady_pure _
  | some predicate => exact (predicate.steady level.scope false).map _

theorem steady_traverse (level : Level) (relationshipType : String) :
    Steady (traverse env level relationshipType) := by
  unfold traverse
  dsimp only
  split
  next => exact (steady_fresh _).map _
  next =>
      apply (steady_fresh _).bind
      intro relationship
      apply (steady_fresh _).bind
      intro target
      exact (steady_fresh _).map _

theorem steady_step (level : Level) (set : Option SubartifactSet) :
    Steady (step env level set) := by
  match set with
  | none => exact steady_pure _
  | some (.relationship relationshipType predicate none) =>
      rw [step]
      apply (steady_traverse level relationshipType).bind
      intro moved
      exact steady_restrict moved predicate
  | some (.relationship _ _ (some _)) => exact steady_unsupported rfl _
  | some (.call _) => exact steady_unsupported rfl _

theorem steady_level (root : Selector) (query : Query) : Steady (level env root query) := by
  apply (steady_restrict _ query.predicate).bind
  intro middle
  exact steady_step middle query.subartifacts

theorem not_isSlip_of_resolve {order : OrderBy} {cause : Error}
    (failed : order.resolve = .error cause) : cause.isSlip = false := by
  simp only [OrderBy.resolve] at failed
  split at failed
  next => split at failed <;> cases failed; rfl
  next =>
      split at failed
      next => split at failed <;> cases failed; rfl
      next =>
          cases failed
          rfl

theorem not_isSlip_of_sortOrder {column : Selector} {order : Option OrderBy} {cause : Error}
    (failed : sortOrder column order = .error cause) : cause.isSlip = false := by
  cases order with
  | none => cases failed
  | some order =>
      rw [sortOrder, exceptBind_eq_error] at failed
      obtain unknown | ⟨_, -, made⟩ := failed
      · exact not_isSlip_of_resolve unknown
      · cases made

end Compile

namespace Query

open Compile

/-- No query fails for a slip in collecting constraints. -/
theorem not_isSlip_of_plan {env : Environment} {query : Query} {order : Option OrderBy}
    {cause : Error} (failed : query.plan env order = .error cause) : cause.isSlip = false := by
  rw [plan] at failed
  split at failed
  next =>
      cases failed
      rfl
  next =>
      simp only [exceptBind_eq_error] at failed
      obtain refused | ⟨_, -, unsorted | ⟨_, -, made⟩⟩ := failed
      · exact steady_level _ query _ _ refused
      · exact not_isSlip_of_sortOrder unsorted
      · cases made

end Query

end Sramp
