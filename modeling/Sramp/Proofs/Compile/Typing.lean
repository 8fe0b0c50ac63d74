import Mathlib.Data.List.Forall2
import Sramp.Proofs.Compile.Level
import Sramp.Proofs.Plan.Values
import Sramp.Query.Build

/-!
# Types of compared values

Entries hold strings, and timestamps points in time.  Each comparison of a plan with one of
these comes from one comparison or match of the query, in their order.  A literal that it is
compared with becomes a string or a date, as the property asks.  A number stays a number
whatever the property, so the values have the types of their properties if and only if no
number is compared with an entry or a timestamp.
-/

namespace Sramp

/-- Whether a property decides the type of the values that it is compared with. -/
def Property.isTyped : Property → Bool
  | .entryValue => true
  | property => property.isTimestamp

/-- A value has the type that a property decides. -/
inductive Property.Admits : Property → Value → Prop where
  | entry (text : String) : Admits .entryValue (.string text)
  | timestamp {property : Property} (day : Calendar.Date) :
      property.isTimestamp = true → Admits property (.date day)

/-- A comparison with a property that decides the type of the value. -/
structure TypedComparison where
  property : Property
  operator : Operator
  value : Value
  deriving DecidableEq

namespace Constraint

/-- The comparison that a constraint consists of, if its property decides the type. -/
def typedComparison? : Constraint → Option TypedComparison
  | .comparison operand operator value =>
      if operand.property.isTyped then some ⟨operand.property, operator, value⟩ else none
  | _ => none

/-- The comparisons of a constraint, at any depth, whose properties decide the type. -/
def typedComparisons (constraint : Constraint) : List TypedComparison :=
  constraint.valueTests.filterMap typedComparison?

@[simp] theorem typedComparisons_and (left right : Constraint) :
    (and left right).typedComparisons = left.typedComparisons ++ right.typedComparisons :=
  List.filterMap_append

@[simp] theorem typedComparisons_or (left right : Constraint) :
    (or left right).typedComparisons = left.typedComparisons ++ right.typedComparisons :=
  List.filterMap_append

@[simp] theorem typedComparisons_not (inner : Constraint) :
    (not inner).typedComparisons = inner.typedComparisons := rfl

@[simp] theorem typedComparisons_comparison (operand : Operand) (operator : Operator)
    (value : Value) :
    (comparison operand operator value).typedComparisons =
      if operand.property.isTyped then [⟨operand.property, operator, value⟩] else [] := by
  by_cases typed : operand.property.isTyped = true <;>
    simp [typedComparisons, valueTests, typedComparison?, typed]

@[simp] theorem typedComparisons_present (operand : Operand) :
    (present operand).typedComparisons = [] := rfl

@[simp] theorem typedComparisons_oneOf (operand : Operand) (values : List Value) :
    (oneOf operand values).typedComparisons = [] := rfl

@[simp] theorem typedComparisons_descendant (selector : Selector) (path : String) :
    (descendant selector path).typedComparisons = [] := rfl

@[simp] theorem typedComparisons_existsRow (rows : Correlation) :
    (existsRow rows).typedComparisons = [] := rfl

@[simp] theorem typedComparisons_existsRowWith (rows : Correlation) (condition : Constraint) :
    (existsRowWith rows condition).typedComparisons = condition.typedComparisons := rfl

/-- Connected constraints have the comparisons of their parts. -/
theorem typedComparisons_all {parts : List Constraint} {whole : Constraint}
    (made : all parts = some whole) :
    whole.typedComparisons = parts.flatMap typedComparisons := by
  apply joinAll_induction _ _ made
  · intro part
    rw [List.flatMap_singleton]
  · intro first rest others same
    rw [typedComparisons_and, same, List.flatMap_cons]

end Constraint

/-- The comparisons of a plan, at any depth, whose properties decide the type. -/
def Plan.typedComparisons (plan : Plan) : List TypedComparison :=
  plan.valueTests.filterMap Constraint.typedComparison?

theorem Plan.typedComparisons_of_constraint {plan : Plan} {constraint : Constraint}
    (constrained : plan.constraint = some constraint) :
    plan.typedComparisons = constraint.typedComparisons := by
  rw [typedComparisons, valueTests, constrained]
  rfl

namespace Query

open Compile

/-- The property that a name refers to: a core property, or the value of an entry. -/
def testedAs (name : QName) : Property :=
  match CoreProperty.ofLocalName? name.localName with
  | some property => .core property
  | none => .entryValue

/-- A test of a property that decides the type: with an operator, or with a pattern. -/
inductive TypedTest where
  | compared (property : Property) (operator : Operator) (literal : Primary)
  | matched (property : Property) (pattern : String)
  deriving DecidableEq

/-- The test that a comparison is. -/
def comparedTests (property : Property) : Option (Operator × Primary) → List TypedTest
  | none => []
  | some (operator, literal) =>
      if property.isTyped then [.compared property operator literal] else []

/-- The test that a call of `matches` is. -/
def matchedTests : List Argument → List TypedTest
  | [.expr (.single (.single (.test (.property name) none))), .primary (.literal pattern)] =>
      if (testedAs name).isTyped then [.matched (testedAs name) pattern] else []
  | _ => []

mutual

/-- The tests in a predicate whose properties decide the type, from left to right. -/
def Expr.typedTests : Expr → List TypedTest
  | .single left => left.typedTests
  | .chain left right => left.typedTests ++ right.typedTests

/-- The tests in a chain of alternatives. -/
def OrExpr.typedTests : OrExpr → List TypedTest
  | .single left => left.typedTests
  | .chain left right => left.typedTests ++ right.typedTests

/-- The tests in a step, group or test.  Calls that may be compared look up entries. -/
def EqualityExpr.typedTests : EqualityExpr → List TypedTest
  | .subartifacts set => set.typedTests
  | .grouped expr => expr.typedTests
  | .test (.property name) comparison => comparedTests (testedAs name) comparison
  | .test (.call call) comparison => call.typedTests ++ comparedTests .entryValue comparison
  | .test (.primary _) _ => []

/-- The tests in a call. -/
def FunctionCall.typedTests : FunctionCall → List TypedTest
  | .mk name arguments =>
      match Function.ofName name with
      | .ok .negation =>
          match arguments with
          | [.expr expr] => expr.typedTests
          | _ => []
      | .ok .matching => matchedTests arguments
      | _ => []

/-- The tests in a step to related artifacts. -/
def SubartifactSet.typedTests : SubartifactSet → List TypedTest
  | .call call => call.typedTests
  | .relationship _ none _ => []
  | .relationship _ (some predicate) _ => predicate.typedTests

end

end Query

/-- The tests in the predicate of a query and in the step after it. -/
def Query.typedTests (query : Query) : List Query.TypedTest :=
  (query.predicate.map Query.Expr.typedTests).getD [] ++
    (query.subartifacts.map Query.SubartifactSet.typedTests).getD []

namespace Query

open Compile

/-! ## What tests are compiled to -/

/-- The comparison that a test is compiled to, where dates are written in a format. -/
inductive Made (format : DateFormat) : TypedTest → TypedComparison → Prop where
  | entry (operator : Operator) (text : String) :
      Made format (.compared .entryValue operator (.literal text))
        ⟨.entryValue, operator, .string text⟩
  | timestamp {property : Property} (operator : Operator) {text : String} {day : Calendar.Date} :
      property.isTimestamp = true → format.read text = .ok day →
      Made format (.compared property operator (.literal text)) ⟨property, operator, .date day⟩
  | number (property : Property) (operator : Operator) (value : Double) :
      Made format (.compared property operator (.number value))
        ⟨property, operator, .double value⟩
  | matched (property : Property) (pattern : String) :
      Made format (.matched property pattern) ⟨property, .like, .string (likePattern pattern)⟩

variable {env : Environment} {scope : Scope} {nested : Bool} {start finish : Aliases}

/-- What a literal is taken as, where the property decides the type. -/
theorem made_of_coerce {property : Property} {literal : Primary} {value : Value}
    {format : DateFormat} (operator : Operator) (typed : property.isTyped = true)
    (coerced : Value.coerce (some property) literal format = .ok value) :
    Made format (.compared property operator literal) ⟨property, operator, value⟩ := by
  cases literal with
  | literal text =>
      cases timestamp : property.isTimestamp with
      | true =>
          simp only [Value.coerce, Option.any_some, timestamp, if_true, Value.ofDateLiteral]
            at coerced
          split at coerced
          next day read =>
              cases coerced
              exact .timestamp operator timestamp read
          next => contradiction
      | false =>
          have entry : property = .entryValue := by
            cases property <;> simp_all [Property.isTyped]
          subst entry
          cases coerced
          exact .entry operator text
  | number given =>
      cases coerced
      exact .number property operator given
  | property name => contradiction
  | contextItem => contradiction

theorem property_of_testedProperty {name : QName} {tested : Tested}
    (run : Yields (testedProperty scope name) start tested finish) :
    tested.property = testedAs name := by
  unfold testedAs
  rcases yields_testedProperty.mp run with ⟨-, ⟨property, found, rfl, -⟩ | ⟨absent, probe, rfl, -⟩⟩
  · rw [found]
    rfl
  · rw [absent]
    rfl

/-- A probe compares its key as no property that decides a type. -/
theorem typedComparisons_exists (tested : Tested) : tested.exists?.typedComparisons = [] := by
  cases tested <;> rfl

theorem typedComparisons_compare (tested : Tested) (operator : Operator) (value : Value) :
    (tested.compare operator value).typedComparisons =
      if tested.property.isTyped then [⟨tested.property, operator, value⟩] else [] := by
  cases tested with
  | direct operand => exact Constraint.typedComparisons_comparison operand operator value
  | entries probe => rfl

/-- A test with an operator is compiled to its comparison. -/
theorem made_of_testConstraint {tested : Tested} {comparison : Option (Operator × Primary)}
    {constraint : Constraint}
    (run : Yields (testConstraint env tested comparison) start constraint finish) :
    List.Forall₂ (Made env.dateFormat) (comparedTests tested.property comparison)
      constraint.typedComparisons := by
  match comparison with
  | none =>
      obtain ⟨rfl, -⟩ := yields_pure.mp run
      rw [typedComparisons_exists]
      exact .nil
  | some (operator, literal) =>
      simp only [testConstraint, yields_bind, yields_answer, yields_pure] at run
      obtain ⟨value, _, ⟨coerced, -⟩, rfl, -⟩ := run
      rw [typedComparisons_compare, comparedTests]
      split
      next typed => exact .cons (made_of_coerce operator typed coerced) .nil
      next => exact .nil

/-- Tests for classes are no tests of entries or timestamps. -/
theorem typedComparisons_of_classificationTest {any normalized : Bool} {call : FunctionCall}
    {constraint : Constraint}
    (run : Yields (classificationTest env scope any normalized call) start constraint finish) :
    constraint.typedComparisons = [] := by
  obtain ⟨terms, uris, -, -, -, made, -⟩ := yields_classificationTest.mp run
  have each : ∀ test ∈ uris.toList.map (fun uri =>
        Constraint.equals scope.artifact (.classifier normalized) (.string uri)),
      test.typedComparisons = [] := by
    intro test member
    obtain ⟨uri, -, rfl⟩ := List.mem_map.mp member
    rfl
  cases any with
  | true =>
      apply Constraint.joinAll_closed _ each made
      intro left right leftNone rightNone
      rw [Constraint.typedComparisons_or, leftNone, rightNone, List.append_nil]
  | false =>
      apply Constraint.joinAll_closed _ each made
      intro left right leftNone rightNone
      rw [Constraint.typedComparisons_and, leftNone, rightNone, List.append_nil]

/-- Tests for hits compare nothing. -/
theorem typedComparisons_of_fullTextTest {pattern : String} {constraint : Constraint}
    (run : Yields (fullTextTest env scope pattern) start constraint finish) :
    constraint.typedComparisons = [] := by
  obtain ⟨ids, -, made, -⟩ := yields_fullTextTest.mp run
  have each : ∀ test ∈ hitTests scope env.settings.chunkSize ids, test.typedComparisons = [] := by
    intro test member
    unfold hitTests at member
    split at member
    next =>
        cases List.mem_singleton.mp member
        rfl
    next =>
        obtain ⟨group, -, rfl⟩ := List.mem_map.mp member
        rfl
  apply Constraint.joinAll_closed _ each made
  intro left right leftNone rightNone
  rw [Constraint.typedComparisons_or, leftNone, rightNone, List.append_nil]

theorem made_of_matchTest {call : FunctionCall} {constraint : Constraint}
    (run : Yields (matchTest env scope call) start constraint finish) :
    List.Forall₂ (Made env.dateFormat) (matchedTests call.arguments)
      constraint.typedComparisons := by
  obtain ⟨subject, pattern, given, run⟩ := yields_matchTest.mp run
  rw [given]
  split at run
  next item =>
      rw [typedComparisons_of_fullTextTest run]
      unfold matchedTests
      split
      next name _ same =>
          cases same
          contradiction
      next => exact .nil
  next =>
      obtain ⟨name, tested, rfl, found, rfl⟩ := run
      rw [typedComparisons_compare, property_of_testedProperty found, matchedTests]
      split
      next => exact .cons (.matched _ pattern) .nil
      next => exact .nil

/-- What a call is compiled to: the comparisons of its tests, or entries that are still to be
tested. -/
def OutcomeMade (format : DateFormat) (tests : List TypedTest) : Outcome → Prop
  | .settled constraint => List.Forall₂ (Made format) tests constraint.typedComparisons
  | .entries _ => tests = []

mutual

theorem Expr.made (expr : Expr) {scope : Scope} {nested : Bool} {start finish : Aliases}
    {constraint : Constraint}
    (run : Yields (expr.constraint env scope nested) start constraint finish) :
    List.Forall₂ (Made env.dateFormat) expr.typedTests constraint.typedComparisons := by
  cases expr with
  | single left =>
      rw [Expr.constraint] at run
      exact left.made run
  | chain left right =>
      obtain ⟨first, between, second, leftRun, rightRun, rfl⟩ := yields_connected.mp run
      rw [Expr.typedTests, Constraint.typedComparisons_and]
      exact List.rel_append (left.made leftRun) (right.made rightRun)

theorem OrExpr.made (expr : OrExpr) {scope : Scope} {nested : Bool} {start finish : Aliases}
    {constraint : Constraint}
    (run : Yields (expr.constraint env scope nested) start constraint finish) :
    List.Forall₂ (Made env.dateFormat) expr.typedTests constraint.typedComparisons := by
  cases expr with
  | single left =>
      rw [OrExpr.constraint] at run
      exact left.made run
  | chain left right =>
      obtain ⟨first, between, second, leftRun, rightRun, rfl⟩ := yields_connected.mp run
      rw [OrExpr.typedTests, Constraint.typedComparisons_or]
      exact List.rel_append (left.made leftRun) (right.made rightRun)

theorem EqualityExpr.made (expr : EqualityExpr) {scope : Scope} {nested : Bool}
    {start finish : Aliases} {constraint : Constraint}
    (run : Yields (expr.constraint env scope nested) start constraint finish) :
    List.Forall₂ (Made env.dateFormat) expr.typedTests constraint.typedComparisons := by
  cases expr with
  | subartifacts set =>
      rw [EqualityExpr.constraint] at run
      exact set.made run
  | grouped inner =>
      rw [EqualityExpr.constraint] at run
      exact inner.made run
  | test subject comparison =>
      cases subject with
      | property name =>
          simp only [EqualityExpr.constraint, yields_bind] at run
          obtain ⟨tested, between, found, rest⟩ := run
          rw [EqualityExpr.typedTests, ← property_of_testedProperty found]
          exact made_of_testConstraint rest
      | call call =>
          simp only [EqualityExpr.constraint, yields_bind] at run
          obtain ⟨outcome, between, called, rest⟩ := run
          have inside := call.made called
          cases outcome with
          | entries found =>
              rw [EqualityExpr.typedTests, inside, List.nil_append]
              exact made_of_testConstraint rest
          | settled inner =>
              cases comparison with
              | none =>
                  obtain ⟨rfl, -⟩ := yields_pure.mp rest
                  rw [EqualityExpr.typedTests, comparedTests, List.append_nil]
                  exact inside
              | some _ => exact absurd rest not_yields_unsupported
      | primary primary =>
          rw [EqualityExpr.constraint] at run
          exact absurd run not_yields_unsupported

theorem FunctionCall.made (call : FunctionCall) {scope : Scope} {nested : Bool}
    {start finish : Aliases} {outcome : Outcome}
    (run : Yields (call.outcome env scope nested) start outcome finish) :
    OutcomeMade env.dateFormat call.typedTests outcome := by
  cases call with
  | mk name arguments =>
      replace run := yields_outcome.mp run
      unfold FunctionCall.typedTests
      rw [FunctionCall.name] at run
      cases named : Function.ofName name with
      | error cause =>
          rw [named] at run
          contradiction
      | ok function =>
          rw [named] at run
          cases function with
          | classifiedBy any normalized =>
              obtain ⟨constraint, rfl, run⟩ := run
              rw [OutcomeMade, typedComparisons_of_classificationTest run]
              exact .nil
          | attributeOf part =>
              obtain ⟨found, rfl, -⟩ := run
              rfl
          | matching =>
              obtain ⟨constraint, rfl, run⟩ := run
              exact made_of_matchTest run
          | negation =>
              obtain ⟨expr, constraint, given, rfl, run⟩ := run
              -- Only what is matched here is seen to be a part of the call.
              match arguments with
              | [.expr inner] =>
                  have same : inner = expr := by simpa [FunctionCall.arguments] using given
                  rw [← same] at run
                  rw [OutcomeMade, Constraint.typedComparisons_not]
                  exact inner.made run
              | [] | .primary _ :: _ | _ :: _ :: _ => simp [FunctionCall.arguments] at given

theorem SubartifactSet.made (set : SubartifactSet) {scope : Scope} {nested : Bool}
    {start finish : Aliases} {constraint : Constraint}
    (run : Yields (set.constraint env scope nested) start constraint finish) :
    List.Forall₂ (Made env.dateFormat) set.typedTests constraint.typedComparisons := by
  cases set with
  | call call =>
      simp only [SubartifactSet.constraint, yields_bind, yields_pure] at run
      obtain ⟨outcome, _, called, rfl, -⟩ := run
      have inside := call.made called
      cases outcome with
      | entries found =>
          rw [SubartifactSet.typedTests, inside]
          exact .nil
      | settled inner => exact inside
  | relationship relationshipType predicate next =>
      obtain ⟨rfl, -, step⟩ := yields_relationship.mp run
      cases derived : env.settings.isDerived relationshipType with
      | true =>
          rw [derived] at step
          cases predicate with
          | none =>
              obtain ⟨document, _, owner, -, -, rfl⟩ := step
              exact .nil
          | some predicate =>
              obtain ⟨document, _, condition, _, owner, -, inside, -, rfl⟩ := step
              rw [SubartifactSet.typedTests, Constraint.typedComparisons_existsRowWith]
              exact predicate.made inside
      | false =>
          rw [derived] at step
          cases predicate with
          | none =>
              obtain ⟨relationship, _, owner, -, -, rfl⟩ := step
              exact .nil
          | some predicate =>
              obtain ⟨relationship, _, target, _, far, _, condition, _, owner, -, -, -, inside, -,
                rfl⟩ := step
              have type : (typeTest relationship relationshipType).typedComparisons = [] := rfl
              rw [SubartifactSet.typedTests, Constraint.typedComparisons_existsRowWith,
                Constraint.typedComparisons_and, type, List.nil_append]
              exact predicate.made inside

end

section Levels

variable {before after : Level} {tests : List TypedTest}

/-- The tests of a location path are no tests of entries or timestamps. -/
theorem typedComparisons_of_pathTests (root : Selector) (path : LocationPath) :
    (pathTests env root path).flatMap Constraint.typedComparisons = [] := by
  unfold pathTests
  split
  next =>
      split <;> rfl
  next => rfl
  next => rfl

/-- A traversal adds no test of an entry or timestamp. -/
theorem typedComparisons_of_traverse {relationshipType : String}
    (run : Yields (traverse env before relationshipType) start after finish) :
    after.tests.flatMap Constraint.typedComparisons =
      before.tests.flatMap Constraint.typedComparisons := by
  rw [yields_traverse] at run
  split at run
  next =>
      obtain ⟨document, rfl, -⟩ := run
      rfl
  next =>
      obtain ⟨edge, far, _, _, rfl, -⟩ := run
      rw [Level.toFar, List.flatMap_append]
      exact List.append_nil _

/-- A restriction adds the tests of its predicate. -/
theorem made_of_restrict {predicate : Option Expr}
    (run : Yields (restrict env before predicate) start after finish)
    (made : List.Forall₂ (Made env.dateFormat) tests
      (before.tests.flatMap Constraint.typedComparisons)) :
    List.Forall₂ (Made env.dateFormat)
      (tests ++ (predicate.map Expr.typedTests).getD [])
      (after.tests.flatMap Constraint.typedComparisons) := by
  rw [yields_restrict] at run
  match predicate with
  | none =>
      obtain ⟨rfl, -⟩ := run
      rw [Option.map_none, Option.getD_none, List.append_nil]
      exact made
  | some predicate =>
      obtain ⟨constraint, rfl, run⟩ := run
      rw [Option.map_some, Option.getD_some, Level.add, List.flatMap_append,
        List.flatMap_singleton]
      exact List.rel_append made (predicate.made run)

/-- The step after the artifact set adds the tests of its predicate. -/
theorem made_of_step {set : Option SubartifactSet}
    (run : Yields (step env before set) start after finish)
    (made : List.Forall₂ (Made env.dateFormat) tests
      (before.tests.flatMap Constraint.typedComparisons)) :
    List.Forall₂ (Made env.dateFormat)
      (tests ++ (set.map SubartifactSet.typedTests).getD [])
      (after.tests.flatMap Constraint.typedComparisons) := by
  rw [yields_step] at run
  split at run
  next =>
      obtain ⟨rfl, -⟩ := run
      rw [Option.map_none, Option.getD_none, List.append_nil]
      exact made
  next _ relationshipType predicate =>
      obtain ⟨moved, _, moves, restricted⟩ := run
      rw [← typedComparisons_of_traverse moves] at made
      have same : (SubartifactSet.relationship relationshipType predicate none).typedTests =
          (predicate.map Expr.typedTests).getD [] := by
        cases predicate <;> rfl
      rw [Option.map_some, Option.getD_some, same]
      exact made_of_restrict restricted made
  next => exact run.elim

/-- A finished level has the tests of its query. -/
theorem made_of_level {root : Selector} {query : Query}
    (run : Yields (level env root query) start after finish) :
    List.Forall₂ (Made env.dateFormat) query.typedTests
      (after.tests.flatMap Constraint.typedComparisons) := by
  obtain ⟨middle, _, first, last⟩ := yields_level.mp run
  have none : List.Forall₂ (Made env.dateFormat) []
      (((Level.ofRoot root).add (pathTests env root query.path)).tests.flatMap
        Constraint.typedComparisons) := by
    rw [Level.add, List.flatMap_append, typedComparisons_of_pathTests]
    exact .nil
  exact made_of_step last (made_of_restrict first none)

/-- The comparisons of a plan are those of its finished level. -/
theorem typedComparisons_plan (settings : Settings) (root : Selector) (level : Level)
    (ordering : Option SortOrder) :
    (level.plan settings root ordering).typedComparisons =
      level.tests.flatMap Constraint.typedComparisons := by
  have live (column : Selector) : (liveTest settings root column).typedComparisons = [] := by
    unfold liveTest
    split <;> rfl
  cases body : Constraint.all level.tests with
  | none =>
      have constrained : (level.plan settings root ordering).constraint =
          some (liveTest settings root level.scope.artifact) := by
        rw [Level.plan, body]
      rw [Plan.typedComparisons_of_constraint constrained, live,
        Constraint.joinAll_eq_none_iff.mp body, List.flatMap_nil]
  | some whole =>
      have constrained : (level.plan settings root ordering).constraint =
          some (.and whole (liveTest settings root level.scope.artifact)) := by
        rw [Level.plan, body]
      rw [Plan.typedComparisons_of_constraint constrained, Constraint.typedComparisons_and, live,
        List.append_nil, Constraint.typedComparisons_all body]

end Levels

/-! ## Types of values -/

/-- The value that a comparison with an operator is compiled to has the type that its property
decides.  Nothing is asked of a match. -/
def WellTyped : TypedTest → TypedComparison → Prop
  | .compared .., made => made.property.Admits made.value
  | .matched .., _ => True

/-- A comparison with anything but a number is well typed, and one with a number is not. -/
theorem Made.wellTyped_iff {format : DateFormat} {test : TypedTest} {comparison : TypedComparison}
    (made : Made format test comparison) :
    WellTyped test comparison ↔
      ∀ property operator value, test ≠ .compared property operator (.number value) := by
  cases made with
  | entry operator text => exact iff_of_true (.entry text) (by rintro _ _ _ ⟨⟩)
  | timestamp operator timestamp read =>
      exact iff_of_true (.timestamp _ timestamp) (by rintro _ _ _ ⟨⟩)
  | number property operator value =>
      apply iff_of_false
      · rintro ⟨⟩
      · intro other
        exact other _ _ _ rfl
  | matched property pattern => exact iff_of_true trivial (by rintro _ _ _ ⟨⟩)

theorem forall_wellTyped_iff {format : DateFormat} {tests : List TypedTest}
    {comparisons : List TypedComparison} (made : List.Forall₂ (Made format) tests comparisons) :
    List.Forall₂ WellTyped tests comparisons ↔
      ∀ property operator value, .compared property operator (.number value) ∉ tests := by
  induction made with
  | nil => exact iff_of_true .nil (by simp)
  | @cons test comparison tests comparisons first rest ih =>
      rw [List.forall₂_cons, first.wellTyped_iff, ih]
      simp only [List.mem_cons, not_or, forall_and, ne_eq, eq_comm]

/-- The comparisons of a plan with entries and timestamps come from the tests of the query, one
from each, in their order: of an entry with a string, of a timestamp with a date, and of either
with a number if that is what the query holds.  So each has the type that its property decides
if and only if the query compares no entry and no timestamp with a number. -/
theorem plan_typed {query : Query} {order : Option OrderBy} {plan : Plan}
    (compiled : query.plan env order = .ok plan) :
    List.Forall₂ (Made env.dateFormat) query.typedTests plan.typedComparisons ∧
      (List.Forall₂ WellTyped query.typedTests plan.typedComparisons ↔
        ∀ property operator value,
          .compared property operator (.number value) ∉ query.typedTests) := by
  obtain ⟨-, outermost, _, sorting, run, -, rfl⟩ := plan_eq_ok_iff.mp compiled
  have made := made_of_level run
  rw [← typedComparisons_plan env.settings (Aliases.next {} .artifact) outermost sorting] at made
  exact ⟨made, forall_wellTyped_iff made⟩

/-- `/s-ramp[@createdTimestamp >= '2014-01-02' and @color = 'true' and
includes[s-ramp:getTargetAttribute(., 'k') = '5']]` -/
def textQuery : Query where
  path := .all
  predicate := some (.and (.compare "createdTimestamp" .ge (.literal "2014-01-02"))
    (.and (.equals "color" "true") (.subartifacts (.relationship "includes"
      (some (.functionCompare (.sramp "getTargetAttribute" [.context, .literal "k"]) .eq
        (.literal "5"))) none))))

/-- Compared with texts, a timestamp is compared with a date, and entries with strings, also
inside a step. -/
theorem plan_typed_of_texts :
    ∃ plan, textQuery.plan .bare none = .ok plan ∧
      textQuery.typedTests.length = 3 ∧
      List.Forall₂ WellTyped textQuery.typedTests plan.typedComparisons := by
  have succeeds : (textQuery.plan .bare none).toOption.isSome = true := by decide +kernel
  have tests : textQuery.typedTests =
      [.compared (.core .createdTimestamp) .ge (.literal "2014-01-02"),
        .compared .entryValue .eq (.literal "true"),
        .compared .entryValue .eq (.literal "5")] := by
    decide +kernel
  obtain ⟨plan, compiled⟩ := exists_ok_of_isSome succeeds
  refine ⟨plan, compiled, by rw [tests]; rfl, (plan_typed compiled).2.mpr ?_⟩
  rw [tests]
  simp

/-- `/s-ramp[@color = 5 and @createdTimestamp = 5]` -/
def numberQuery : Query where
  path := .all
  predicate :=
    let five : Primary := .number ⟨false, 1025, 0x4000000000000⟩
    some (.and (.compare "color" .eq five) (.compare "createdTimestamp" .eq five))

/-- Compared with the number 5, an entry and a timestamp are compared with that number, which
is neither a string nor a date. -/
theorem exists_plan_of_numbers :
    ∃ plan, numberQuery.plan .bare none = .ok plan ∧
      plan.typedComparisons =
        [⟨.entryValue, .eq, .double ⟨false, 1025, 0x4000000000000⟩⟩,
          ⟨.core .createdTimestamp, .eq, .double ⟨false, 1025, 0x4000000000000⟩⟩] ∧
      ∀ made ∈ plan.typedComparisons, ¬made.property.Admits made.value := by
  have compared : (numberQuery.plan .bare none).toOption.map Plan.typedComparisons =
      some [⟨.entryValue, .eq, .double ⟨false, 1025, 0x4000000000000⟩⟩,
        ⟨.core .createdTimestamp, .eq, .double ⟨false, 1025, 0x4000000000000⟩⟩] := by
    decide +kernel
  cases compiled : numberQuery.plan .bare none with
  | error cause => simp [compiled, Except.toOption] at compared
  | ok plan =>
      simp only [compiled, Except.toOption, Option.map_some, Option.some.injEq] at compared
      refine ⟨plan, rfl, compared, ?_⟩
      rw [compared, List.forall_mem_cons, List.forall_mem_singleton]
      exact ⟨by rintro ⟨⟩, by rintro ⟨⟩⟩

end Query

end Sramp
