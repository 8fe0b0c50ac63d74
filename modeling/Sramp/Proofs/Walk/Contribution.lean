import Sramp.Proofs.Compile.Refusal
import Sramp.Proofs.Walk.Reachable

/-!
# Every expression adds one constraint

A visit of an expression adds one constraint to the innermost frame, and leaves the frames as
they were otherwise.  So a frame opened for both sides of a connective holds one constraint for
each side when it is closed, in the order of the sides, and a frame opened for `not` holds one.
The checks of these numbers therefore never fail.
-/

namespace Sramp.Compile

open Query

variable {env : Environment} {walk : Walk}

/-- From one state of a walk to another, a constraint was added to the innermost frame, whose
selectors are the same and in which no test is at hand.  The frames below it, the outermost
level and the depth are the same, and no alias was taken back. -/
structure Walk.Gains (before : Walk) (constraint : Constraint) (after : Walk) : Prop where
  frames : after.stack.frames = before.top.collect [constraint] :: before.stack.frames.tail
  tested : after.top.tested = none
  value : after.top.value = none
  source : after.source = before.source
  root : after.root = before.root
  depth : after.depth = before.depth
  aliases : before.aliases ≤ after.aliases

/-- Where it succeeds, a visit adds one constraint. -/
def Walk.GainsOne (walk : Walk) (visit : Visit Unit) : Prop :=
  ∀ after, visit walk = .ok ((), after) → ∃ constraint, walk.Gains constraint after

/-- Where it succeeds, a visit of a connective visits the left side in a frame of its own and
then the right side in the same frame, and connects the constraint that the left side added
with the one that the right side added. -/
def Walk.GainsConnected (walk : Walk) (connect : Constraint → Constraint → Constraint)
    (whole left right : Visit Unit) : Prop :=
  ∀ after, whole walk = .ok ((), after) → ∃ first second middle last,
    left walk.isolated = .ok ((), middle) ∧ walk.isolated.Gains first middle ∧
      right middle = .ok ((), last) ∧ middle.Gains second last ∧
      walk.Gains (connect first second) after

/-- An action does not take aliases back. -/
def Raises {α : Type} (result : Fresh α) : Prop :=
  ∀ start value finish, Yields result start value finish → start ≤ finish

theorem Walk.Ready.gains (ready : walk.Ready) (constraint : Constraint) {aliases : Aliases}
    (raised : walk.aliases ≤ aliases) :
    walk.Gains constraint ((walk.withAliases aliases).collect [constraint]) where
  frames := Stack.frames_update walk.stack _
  tested := ((ready.withAliases aliases).collect [constraint]).tested
  value := ((ready.withAliases aliases).collect [constraint]).value
  source := rfl
  root := rfl
  depth := rfl
  aliases := raised

section Visits

variable {visit left right : Visit Unit} {result first second : Scope → Bool → Fresh Constraint}

theorem Adds.gainsOne (adds : Adds visit result)
    (raises : ∀ scope nested, Raises (result scope nested)) (ready : walk.Ready) :
    walk.GainsOne visit := by
  intro after done
  obtain ⟨constraint, aliases, run, rfl⟩ := (adds.eq_ok_iff ready).mp done
  exact ⟨constraint, ready.gains constraint (raises _ _ _ _ _ run)⟩

theorem Adds.gainsConnected {connect : Constraint → Constraint → Constraint}
    (adds : Adds visit fun scope nested => do
      let left ← first scope nested
      let right ← second scope nested
      return connect left right)
    (leftAdds : Adds left first) (rightAdds : Adds right second)
    (leftRaises : ∀ scope nested, Raises (first scope nested))
    (rightRaises : ∀ scope nested, Raises (second scope nested)) (ready : walk.Ready) :
    walk.GainsConnected connect visit left right := by
  intro after done
  obtain ⟨constraint, aliases, run, rfl⟩ := (adds.eq_ok_iff ready).mp done
  obtain ⟨one, between, other, leftRun, rightRun, rfl⟩ := yields_connected.mp run
  have begun := ready.isolated
  have middleReady := (begun.withAliases between).collect [one]
  have leftRaised := leftRaises _ _ _ _ _ leftRun
  have rightRaised := rightRaises _ _ _ _ _ rightRun
  exact ⟨one, other, _, _,
    (leftAdds.eq_ok_iff begun).mpr ⟨one, between, leftRun, rfl⟩,
    begun.gains one leftRaised,
    (rightAdds.eq_ok_iff middleReady).mpr ⟨other, aliases, rightRun, rfl⟩,
    middleReady.gains other rightRaised,
    ready.gains _ (le_trans leftRaised rightRaised)⟩

end Visits

/-- A visit of a call that adds a constraint does so as any expression does. -/
theorem Settles.gains {visit : Visit Finish} {result : Scope → Bool → Fresh Outcome}
    (settles : Settles visit result) (raises : ∀ scope nested, Raises (result scope nested))
    (ready : walk.Ready) {after : Walk} (done : visit walk = .ok (.constraint, after)) :
    ∃ constraint, walk.Gains constraint after := by
  rw [settles walk ready, Walk.follow_eq_ok_iff] at done
  obtain ⟨outcome, aliases, run, same⟩ := done
  cases outcome with
  | entries found => cases congrArg Prod.fst same
  | settled constraint =>
      cases congrArg Prod.snd same
      exact ⟨constraint, ready.gains constraint (raises _ _ _ _ _ run)⟩

theorem Testable.le {scope : Scope} {start finish : Aliases} {tested : Tested}
    (testable : Testable scope start tested finish) : start ≤ finish := by
  cases testable with
  | direct property => exact le_refl _
  | entries owner probed => exact (allocates_of_probe probed).le

/-- What has the shape of a compiled predicate takes no alias back. -/
theorem raises_of_built {scope : Scope} {nested : Bool} {result : Fresh Constraint}
    (built : ∀ {start finish : Aliases} {constraint : Constraint},
      Yields result start constraint finish → Built env scope nested start constraint finish) :
    Raises result := by
  intro start constraint finish run
  exact (built run).allocates.le

theorem raises_call (call : FunctionCall) (scope : Scope) (nested : Bool) :
    Raises (call.outcome env scope nested) := by
  intro start outcome finish run
  have shape := call.built run
  cases outcome with
  | settled constraint => exact (Built.allocates shape).le
  | entries found => exact shape.le

end Sramp.Compile

namespace Sramp.Query

open Compile

variable {env : Environment} {walk : Walk}

/-- Whatever expression a walk comes to, its visit adds one constraint if it succeeds; a chain
adds the connection of what its two sides add, in their order.  So no query fails because
there is no constraint, no subject or not the one constraint that there should be. -/
theorem visit_gains (valid : env.settings.Valid) (reachable : walk.Reachable env) :
    (∀ expr : Expr, walk.GainsOne (expr.visit env)) ∧
    (∀ expr : OrExpr, walk.GainsOne (expr.visit env)) ∧
    (∀ expr : EqualityExpr, walk.GainsOne (expr.visit env)) ∧
    (∀ (call : FunctionCall) (after : Walk), call.visit env walk = .ok (.constraint, after) →
      ∃ constraint, walk.Gains constraint after) ∧
    (∀ (left : OrExpr) (right : Expr), walk.GainsConnected .and
      ((Expr.chain left right).visit env) (left.visit env) (right.visit env)) ∧
    (∀ (left : EqualityExpr) (right : OrExpr), walk.GainsConnected .or
      ((OrExpr.chain left right).visit env) (left.visit env) (right.visit env)) ∧
    ∀ (query : Query) (order : Option OrderBy), query.plan env order = query.walkedPlan env order ∧
      ∀ cause ∈ [Unsupported.noConstraint, .nothingTested, .notOneConstraint], ∀ fragment,
        query.walkedPlan env order ≠ .error (.unsupported cause fragment) := by
  have ready := reachable.ready valid
  refine ⟨?_, ?_, ?_, ?_, ?_, ?_, ?_⟩
  · intro expr
    exact (expr.adds valid).gainsOne (fun _ _ => raises_of_built expr.built) ready
  · intro expr
    exact (expr.adds valid).gainsOne (fun _ _ => raises_of_built expr.built) ready
  · intro expr
    exact (expr.adds valid).gainsOne (fun _ _ => raises_of_built expr.built) ready
  · intro call after done
    exact (call.settles valid).gains (raises_call call) ready done
  · intro left right
    exact (Expr.adds_chain valid left right).gainsConnected (left.adds valid) (right.adds valid)
      (fun _ _ => raises_of_built left.built) (fun _ _ => raises_of_built right.built) ready
  · intro left right
    exact (OrExpr.adds_chain valid left right).gainsConnected (left.adds valid) (right.adds valid)
      (fun _ _ => raises_of_built left.built) (fun _ _ => raises_of_built right.built) ready
  · intro query order
    refine ⟨(walkedPlan_eq env query order).symm, ?_⟩
    intro cause slip fragment failed
    rw [walkedPlan_eq] at failed
    have sound := not_isSlip_of_plan failed
    simp only [List.mem_cons, List.not_mem_nil, or_false] at slip
    obtain rfl | rfl | rfl := slip <;> cases sound

/-- A visit of the chain `includes[@status] and (@name or @status)`, with which a walk starts,
adds one conjunction. -/
theorem visit_gains_of_sample :
    ∃ left right start after first second,
      sampleQuery.predicate = some (.chain left right) ∧ start.Reachable .bare ∧
      (Expr.chain left right).visit .bare start = .ok ((), after) ∧
      start.Gains (.and first second) after ∧
      sampleQuery.walkedPlan .bare none ≠ .error (.unsupported .noConstraint "") := by
  have valid : Environment.bare.settings.Valid := Settings.fault?_eq_none_iff.mp (by decide)
  have reachable : Walk.Reachable .bare _ := .start sampleQuery.path
  obtain ⟨-, -, -, -, connected, -, never⟩ := visit_gains valid reachable
  have succeeds : (Visit.restrict .bare sampleQuery.predicate (Walk.start.collect
      (pathTests .bare Walk.start.root sampleQuery.path))).toOption.isSome = true := by
    decide +kernel
  obtain ⟨⟨⟨⟩, after⟩, done⟩ := exists_ok_of_isSome succeeds
  obtain ⟨first, second, -, -, -, -, -, -, gains⟩ := connected _ _ after done
  exact ⟨_, _, _, _, first, second, rfl, reachable, done, gains,
    (never sampleQuery none).2 _ (by decide) _⟩

end Sramp.Query
