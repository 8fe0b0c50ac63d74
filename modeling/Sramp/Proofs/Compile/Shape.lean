import Sramp.Proofs.Compile.Test

/-!
# The shape of compiled predicates

Whatever a predicate says, its constraint is put together in few ways.  This module
states them as a relation between a scope, the aliases before and after, and the
constraint, in which the syntax of queries does not occur.  What every compiled
predicate satisfies is proved by induction on that relation.
-/

namespace Sramp.Compile

open Query

/-- The nodes of a scope that have entries, and the kind of those. -/
inductive HasEntries (scope : Scope) : Selector → NodeKind → Prop where
  | artifact : HasEntries scope scope.artifact .propertyEntry
  | edge {edge : Edge} (part : EdgePart) :
      scope.edge = some edge → HasEntries scope (part.selector edge) part.attributeKind

/-- What a test in a scope may be about, with the aliases before and after. -/
inductive Testable (scope : Scope) : Aliases → Tested → Aliases → Prop where
  | direct {aliases : Aliases} (property : CoreProperty) :
      Testable scope aliases (.direct (scope.artifact.operand (.core property))) aliases
  | entries {start finish : Aliases} {outer : Selector} {kind : NodeKind} {key : String}
      {found : Probe} :
      HasEntries scope outer kind → Yields (probe outer kind key) start found finish →
      Testable scope start (.entries found) finish

/-- The constraints that test something: it exists, it compares with the value of a
literal, or it is like a pattern. -/
inductive Tests (env : Environment) (tested : Tested) : Constraint → Prop where
  | present : Tests env tested tested.exists?
  | compared (operator : Operator) {literal : Primary} {value : Value} :
      Value.coerce (some tested.property) literal env.dateFormat = .ok value →
      Tests env tested (tested.compare operator value)
  | matched (pattern : String) :
      Tests env tested (tested.compare .like (.string (likePattern pattern)))

/-- The constraints of predicates in a scope, with the aliases before and after.
Inside the predicate of a step, marked by the flag, there are no further steps. -/
inductive Built (env : Environment) :
    Scope → Bool → Aliases → Constraint → Aliases → Prop where
  | test {scope : Scope} {nested : Bool} {start finish : Aliases} {tested : Tested}
      {constraint : Constraint} :
      Testable scope start tested finish → Tests env tested constraint →
      Built env scope nested start constraint finish
  | classifier {scope : Scope} {nested : Bool} {aliases : Aliases} {normalized : Bool}
      {terms : List String} {uris : UriSet} {uri : String} :
      env.services.resolveAll terms = .ok uris → uri ∈ uris.toList →
      Built env scope nested aliases
        (.equals scope.artifact (.classifier normalized) (.string uri)) aliases
  | hits {scope : Scope} {nested : Bool} {aliases : Aliases} {pattern : String}
      {ids group : List String} :
      env.services.search pattern env.settings.fullTextFields = .ok ids →
      group = [] ∧ ids = [] ∨ group ∈ chunks env.settings.chunkSize ids →
      Built env scope nested aliases
        (.oneOf (scope.artifact.operand (.core .uuid)) (group.map .string)) aliases
  | and {scope : Scope} {nested : Bool} {start between finish : Aliases}
      {left right : Constraint} :
      Built env scope nested start left between → Built env scope nested between right finish →
      Built env scope nested start (.and left right) finish
  | or {scope : Scope} {nested : Bool} {start between finish : Aliases}
      {left right : Constraint} :
      Built env scope nested start left between → Built env scope nested between right finish →
      Built env scope nested start (.or left right) finish
  | not {scope : Scope} {nested : Bool} {start finish : Aliases} {inner : Constraint} :
      Built env scope nested start inner finish →
      Built env scope nested start (.not inner) finish
  | documents {scope : Scope} {start between finish : Aliases} {document owner : Selector} :
      Yields (fresh .artifact) start document between →
      Yields (fresh .artifact) between owner finish →
      Built env scope false start (.existsRow (documentsOf document owner scope.artifact)) finish
  | documentsWith {scope : Scope} {start begun ended finish : Aliases}
      {document owner : Selector} {condition : Constraint} :
      Yields (fresh .artifact) start document begun →
      Built env ⟨document, none⟩ true begun condition ended →
      Yields (fresh .artifact) ended owner finish →
      Built env scope false start
        (.existsRowWith (documentsOf document owner scope.artifact) condition) finish
  | relationships {scope : Scope} {start between finish : Aliases}
      {relationship owner : Selector} {relationshipType : String} :
      Yields (fresh .relationship) start relationship between →
      Yields (fresh .artifact) between owner finish →
      Built env scope false start
        (.existsRowWith (ownedBy (.single relationship) relationship owner scope.artifact)
          (typeTest relationship relationshipType)) finish
  | relationshipsWith {scope : Scope} {start first second begun ended finish : Aliases}
      {relationship target far owner : Selector} {relationshipType : String}
      {condition : Constraint} :
      Yields (fresh .relationship) start relationship first →
      Yields (fresh .target) first target second →
      Yields (fresh .artifact) second far begun →
      Built env ⟨far, some ⟨relationship, target⟩⟩ true begun condition ended →
      Yields (fresh .artifact) ended owner finish →
      Built env scope false start
        (.existsRowWith (ownedBy (joinFar (.single relationship) ⟨relationship, target⟩ far)
            relationship owner scope.artifact)
          (.and (typeTest relationship relationshipType) condition)) finish

/-- What a function call is compiled to: a constraint, or a probe in its scope. -/
def Outcome.Built (env : Environment) (scope : Scope) (nested : Bool) (start finish : Aliases) :
    Outcome → Prop
  | .settled constraint => Compile.Built env scope nested start constraint finish
  | .entries found => Testable scope start (.entries found) finish

variable {env : Environment} {scope : Scope} {nested : Bool} {start finish : Aliases}

/-- A property test is about something in its scope. -/
theorem testable_of_yields {name : QName} {tested : Tested}
    (run : Yields (testedProperty scope name) start tested finish) :
    Testable scope start tested finish := by
  rcases yields_testedProperty.mp run with ⟨-, ⟨property, -, rfl, rfl⟩ | ⟨-, found, rfl, probed⟩⟩
  · exact .direct property
  · exact .entries .artifact probed

/-- A test, with or without a comparison, takes no aliases. -/
theorem tests_of_yields {tested : Tested} {comparison : Option (Operator × Primary)}
    {constraint : Constraint}
    (run : Yields (testConstraint env tested comparison) start constraint finish) :
    Tests env tested constraint ∧ finish = start := by
  match comparison with
  | none =>
      simp only [testConstraint, yields_pure] at run
      rcases run with ⟨rfl, rfl⟩
      exact ⟨.present, rfl⟩
  | some (operator, literal) =>
      simp only [testConstraint, yields_bind, yields_answer, yields_pure] at run
      rcases run with ⟨value, _, ⟨coerced, rfl⟩, rfl, rfl⟩
      exact ⟨.compared operator coerced, rfl⟩

/-- A classification test connects tests for single classes. -/
theorem built_of_classificationTest {any normalized : Bool} {call : FunctionCall}
    {constraint : Constraint}
    (run : Yields (classificationTest env scope any normalized call) start constraint finish) :
    Built env scope nested start constraint finish := by
  rcases yields_classificationTest.mp run with ⟨terms, uris, -, -, resolved, made, rfl⟩
  have each : ∀ test ∈ uris.toList.map (fun uri =>
        Constraint.equals scope.artifact (.classifier normalized) (.string uri)),
      Built env scope nested finish test finish := by
    intro test member
    rcases List.mem_map.mp member with ⟨uri, uriMem, rfl⟩
    exact .classifier resolved uriMem
  cases any with
  | true =>
      apply Constraint.joinAll_closed _ each made
      intro _ _ left right
      exact .or left right
  | false =>
      apply Constraint.joinAll_closed _ each made
      intro _ _ left right
      exact .and left right

/-- A full-text test connects tests for the groups of hits. -/
theorem built_of_fullTextTest {pattern : String} {constraint : Constraint}
    (run : Yields (fullTextTest env scope pattern) start constraint finish) :
    Built env scope nested start constraint finish := by
  rcases yields_fullTextTest.mp run with ⟨ids, found, made, rfl⟩
  have each : ∀ test ∈ hitTests scope env.settings.chunkSize ids,
      Built env scope nested finish test finish := by
    intro test member
    simp only [hitTests, List.isEmpty_iff] at member
    split at member
    next none =>
        have empty : Built env scope nested finish
            (.oneOf (scope.artifact.operand (.core .uuid)) (([] : List String).map .string))
            finish := .hits found (.inl ⟨rfl, none⟩)
        cases List.mem_singleton.mp member
        exact empty
    next =>
        rcases List.mem_map.mp member with ⟨group, groupMem, rfl⟩
        exact .hits found (.inr groupMem)
  apply Constraint.joinAll_closed _ each made
  intro _ _ left right
  exact .or left right

theorem built_of_matchTest {call : FunctionCall} {constraint : Constraint}
    (run : Yields (matchTest env scope call) start constraint finish) :
    Built env scope nested start constraint finish := by
  rcases yields_matchTest.mp run with ⟨subject, pattern, -, run⟩
  split at run
  · exact built_of_fullTextTest run
  · rcases run with ⟨name, tested, -, found, rfl⟩
    exact .test (testable_of_yields found) (.matched pattern)

end Sramp.Compile

namespace Sramp.Query

open Compile

variable {env : Environment}

mutual

theorem Expr.built (expr : Expr) {scope : Scope} {nested : Bool} {start finish : Aliases}
    {constraint : Constraint}
    (run : Yields (expr.constraint env scope nested) start constraint finish) :
    Built env scope nested start constraint finish := by
  cases expr with
  | single left =>
      rw [Expr.constraint] at run
      exact left.built run
  | chain left right =>
      simp only [Expr.constraint, yields_bind, yields_pure] at run
      rcases run with ⟨first, between, leftRun, second, _, rightRun, rfl, rfl⟩
      exact .and (left.built leftRun) (right.built rightRun)

theorem OrExpr.built (expr : OrExpr) {scope : Scope} {nested : Bool} {start finish : Aliases}
    {constraint : Constraint}
    (run : Yields (expr.constraint env scope nested) start constraint finish) :
    Built env scope nested start constraint finish := by
  cases expr with
  | single left =>
      rw [OrExpr.constraint] at run
      exact left.built run
  | chain left right =>
      simp only [OrExpr.constraint, yields_bind, yields_pure] at run
      rcases run with ⟨first, between, leftRun, second, _, rightRun, rfl, rfl⟩
      exact .or (left.built leftRun) (right.built rightRun)

theorem EqualityExpr.built (expr : EqualityExpr) {scope : Scope} {nested : Bool}
    {start finish : Aliases} {constraint : Constraint}
    (run : Yields (expr.constraint env scope nested) start constraint finish) :
    Built env scope nested start constraint finish := by
  cases expr with
  | subartifacts set =>
      rw [EqualityExpr.constraint] at run
      exact set.built run
  | grouped inner =>
      rw [EqualityExpr.constraint] at run
      exact inner.built run
  | test subject comparison =>
      cases subject with
      | property name =>
          simp only [EqualityExpr.constraint, yields_bind] at run
          rcases run with ⟨tested, between, found, rest⟩
          rcases tests_of_yields rest with ⟨tests, rfl⟩
          exact .test (testable_of_yields found) tests
      | call call =>
          simp only [EqualityExpr.constraint, yields_bind] at run
          rcases run with ⟨outcome, between, called, rest⟩
          have shape := call.built called
          cases outcome with
          | entries found =>
              rcases tests_of_yields rest with ⟨tests, rfl⟩
              exact .test shape tests
          | settled inner =>
              cases comparison with
              | none =>
                  rcases yields_pure.mp rest with ⟨rfl, rfl⟩
                  exact shape
              | some _ => exact absurd rest not_yields_unsupported
      | primary primary =>
          rw [EqualityExpr.constraint] at run
          exact absurd run not_yields_unsupported

theorem FunctionCall.built (call : FunctionCall) {scope : Scope} {nested : Bool}
    {start finish : Aliases} {outcome : Outcome}
    (run : Yields (call.outcome env scope nested) start outcome finish) :
    outcome.Built env scope nested start finish := by
  cases call with
  | mk name arguments =>
      replace run := yields_outcome.mp run
      split at run
      next => contradiction
      next any normalized named =>
          rcases run with ⟨constraint, rfl, run⟩
          exact built_of_classificationTest run
      next part named =>
          rcases run with ⟨found, rfl, run⟩
          rcases yields_attributeProbe.mp run with ⟨_, key, edge, -, leads, probed⟩
          exact .entries (.edge part leads) probed
      next =>
          rcases run with ⟨constraint, rfl, run⟩
          exact built_of_matchTest run
      next =>
          rcases run with ⟨expr, constraint, given, rfl, run⟩
          -- Only what is matched here is seen to be a part of the call.
          match arguments with
          | [.expr inner] =>
              have same : inner = expr := by simpa [FunctionCall.arguments] using given
              rw [← same] at run
              exact .not (inner.built run)
          | [] | .primary _ :: _ | _ :: _ :: _ => simp [FunctionCall.arguments] at given

theorem SubartifactSet.built (set : SubartifactSet) {scope : Scope} {nested : Bool}
    {start finish : Aliases} {constraint : Constraint}
    (run : Yields (set.constraint env scope nested) start constraint finish) :
    Built env scope nested start constraint finish := by
  cases set with
  | call call =>
      simp only [SubartifactSet.constraint, yields_bind, yields_pure] at run
      rcases run with ⟨outcome, _, called, rfl, rfl⟩
      have shape := call.built called
      cases outcome with
      | entries found => exact .test shape .present
      | settled inner => exact shape
  | relationship relationshipType predicate next =>
      rcases yields_relationship.mp run with ⟨rfl, -, step⟩
      cases derived : env.settings.isDerived relationshipType with
      | true =>
          rw [derived] at step
          cases predicate with
          | none =>
              rcases step with ⟨document, _, owner, documentRun, ownerRun, rfl⟩
              exact .documents documentRun ownerRun
          | some predicate =>
              rcases step with
                ⟨document, _, condition, _, owner, documentRun, inside, ownerRun, rfl⟩
              exact .documentsWith documentRun (predicate.built inside) ownerRun
      | false =>
          rw [derived] at step
          cases predicate with
          | none =>
              rcases step with ⟨relationship, _, owner, relationshipRun, ownerRun, rfl⟩
              exact .relationships relationshipRun ownerRun
          | some predicate =>
              rcases step with ⟨relationship, _, target, _, far, _, condition, _, owner,
                relationshipRun, targetRun, farRun, inside, ownerRun, rfl⟩
              exact .relationshipsWith relationshipRun targetRun farRun (predicate.built inside)
                ownerRun

end

end Sramp.Query
