import Sramp.Proofs.Compile.Run

/-!
# Successful tests

When the single tests and function calls of a predicate are compiled, and to what.
Each lemma reads off both the form of the arguments and the constraint.
-/

namespace Sramp.Compile

open Query

variable {env : Environment} {scope : Scope} {start finish : Aliases}

@[simp] theorem mapError_eq_ok {ε α : Type} {image : ε → Error} {result : Except ε α}
    {value : α} : result.mapError image = .ok value ↔ result = .ok value := by
  cases result with
  | error cause => exact ⟨nofun, nofun⟩
  | ok found =>
      have kept : (Except.ok found : Except ε α).mapError image = .ok found := rfl
      simp only [kept, Except.ok.injEq]

@[simp] theorem yields_literalArgument {argument : Argument} {text : String} :
    Yields (literalArgument argument) start text finish ↔
      argument = .primary (.literal text) ∧ finish = start := by
  unfold literalArgument
  split
  · simp [eq_comm]
  next other =>
      simp only [not_yields_unsupported, false_iff]
      intro given
      rcases given with ⟨rfl, -⟩
      exact other text rfl

/-- Terms are compiled only if every argument is a string literal. -/
theorem termArguments_eq_ok {arguments : List Argument} {terms : List String} :
    termArguments arguments = .ok terms ↔
      arguments = terms.map fun term => .primary (.literal term) := by
  fun_induction termArguments arguments generalizing terms with
  | case1 => cases terms <;> simp
  | case2 term rest ih =>
      simp only [exceptBind_eq_ok, ih]
      cases terms with
      | nil => simp [pure, Except.pure]
      | cons first others =>
          simp only [pure, Except.pure, Except.ok.injEq, List.cons.injEq, List.map_cons,
            Argument.primary.injEq, Primary.literal.injEq]
          constructor
          · intro tail
            rcases tail with ⟨_, literals, same, rfl⟩
            exact ⟨same, literals⟩
          · intro heads
            rcases heads with ⟨same, literals⟩
            exact ⟨others, literals, same, rfl⟩
  | case3 argument rest other =>
      simp only [reduceCtorEq, false_iff]
      intro literal
      cases terms with
      | nil => simp at literal
      | cons first others => simp_all

/-- A predicate with a bare subject is nothing but the test of it. -/
theorem bareSubject?_eq_some {expr : Expr} {subject : Subject} :
    bareSubject? expr = some subject ↔ expr = .single (.single (.test subject none)) := by
  unfold bareSubject?
  split
  · simp
  next other =>
      simp only [reduceCtorEq, false_iff]
      exact other subject

/-- Property arguments are predicates that consist of a property alone. -/
@[simp] theorem yields_propertyArgument {argument : Argument} {name : QName} :
    Yields (propertyArgument argument) start name finish ↔
      argument = .expr (.single (.single (.test (.property name) none))) ∧
        finish = start := by
  unfold propertyArgument
  split
  next expr =>
      split
      next bare => simp [eq_comm, bareSubject?_eq_some.mp bare]
      next other =>
          simp only [not_yields_unsupported, Argument.expr.injEq, false_iff]
          intro given
          rcases given with ⟨rfl, -⟩
          exact other _ rfl
  next => simp

/-- A classification test names at least one class, and each is resolved. -/
theorem yields_classificationTest {any normalized : Bool} {call : FunctionCall}
    {constraint : Constraint} :
    Yields (classificationTest env scope any normalized call) start constraint finish ↔
      ∃ terms uris, call.arguments.drop 1 = terms.map (fun term => .primary (.literal term)) ∧
        terms ≠ [] ∧ env.services.resolveAll terms = .ok uris ∧
        (if any then Constraint.any else Constraint.all) (uris.toList.map fun uri =>
          .equals scope.artifact (.classifier normalized) (.string uri)) = some constraint ∧
        finish = start := by
  simp only [classificationTest, yields_bind, yields_answer, termArguments_eq_ok,
    yields_ite, mapError_eq_ok, not_yields_unsupported, false_and, exists_false]
  constructor
  · intro run
    rcases run with ⟨terms, _, ⟨literals, rfl⟩, run⟩
    cases terms with
    | nil => simp at run
    | cons term rest =>
        simp only [List.isEmpty_cons, Bool.false_eq_true, if_false] at run
        rcases run with ⟨uris, _, ⟨resolved, rfl⟩, run⟩
        split at run
        next made =>
            rcases yields_pure.mp run with ⟨rfl, rfl⟩
            refine ⟨_, uris, literals, List.cons_ne_nil _ _, resolved, ?_, rfl⟩
            rw [← made]
            split <;> rfl
        next => exact absurd run not_yields_refuse
  · intro classes
    rcases classes with ⟨terms, uris, literals, given, resolved, made, rfl⟩
    refine ⟨terms, finish, ⟨literals, rfl⟩, ?_⟩
    rw [if_neg (by simpa using given)]
    refine ⟨uris, finish, ⟨resolved, rfl⟩, ?_⟩
    cases any with
    | true =>
        rw [if_pos rfl] at made ⊢
        simp [made]
    | false =>
        rw [if_neg Bool.false_ne_true] at made ⊢
        simp [made]

/-- The hits of a full-text search are asked for group by group. -/
theorem yields_fullTextTest {pattern : String} {constraint : Constraint} :
    Yields (fullTextTest env scope pattern) start constraint finish ↔
      ∃ ids, env.services.search pattern env.settings.fullTextFields = .ok ids ∧
        Constraint.any (hitTests scope env.settings.chunkSize ids) = some constraint ∧
        finish = start := by
  simp only [fullTextTest, yields_bind, yields_answer, mapError_eq_ok]
  constructor
  · intro run
    rcases run with ⟨ids, _, ⟨found, rfl⟩, run⟩
    split at run
    next made =>
        rcases yields_pure.mp run with ⟨rfl, rfl⟩
        exact ⟨ids, found, made, rfl⟩
    next => exact absurd run not_yields_refuse
  · intro hits
    rcases hits with ⟨ids, found, made, rfl⟩
    refine ⟨ids, finish, ⟨found, rfl⟩, ?_⟩
    rw [made]
    exact yields_pure.mpr ⟨rfl, rfl⟩

/-- A match of a property with a pattern, or of the full text. -/
theorem yields_matchTest {call : FunctionCall} {constraint : Constraint} :
    Yields (matchTest env scope call) start constraint finish ↔
      ∃ subject pattern, call.arguments = [subject, .primary (.literal pattern)] ∧
        if isContextItem subject then
          Yields (fullTextTest env scope pattern) start constraint finish
        else
          ∃ name tested,
            subject = .expr (.single (.single (.test (.property name) none))) ∧
            Yields (testedProperty scope name) start tested finish ∧
            constraint = tested.compare .like (.string (likePattern pattern)) := by
  rw [matchTest]
  split
  next subject literal given =>
      simp only [yields_bind, yields_literalArgument, yields_ite, yields_propertyArgument,
        yields_pure, given, List.cons.injEq, and_true]
      constructor
      · intro run
        rcases run with ⟨pattern, _, ⟨rfl, rfl⟩, run⟩
        refine ⟨subject, pattern, ⟨rfl, rfl⟩, ?_⟩
        split at run
        next item => rwa [if_pos item]
        next item =>
            rw [if_neg item]
            rcases run with ⟨name, _, ⟨named, rfl⟩, tested, _, run, rfl, rfl⟩
            exact ⟨name, tested, named, run, rfl⟩
      · intro matched
        rcases matched with ⟨_, pattern, ⟨rfl, rfl⟩, run⟩
        refine ⟨pattern, start, ⟨rfl, rfl⟩, ?_⟩
        split at run
        next item => rwa [if_pos item]
        next item =>
            rw [if_neg item]
            rcases run with ⟨name, tested, named, run, rfl⟩
            exact ⟨name, start, ⟨named, rfl⟩, tested, finish, run, rfl, rfl⟩
  next other =>
      simp only [not_yields_unsupported, false_iff]
      intro matched
      rcases matched with ⟨subject, pattern, given, -⟩
      exact other _ _ given

/-- An attribute is looked up at a part of the edge that leads to the artifact. -/
theorem yields_attributeProbe {part : EdgePart} {call : FunctionCall} {found : Probe} :
    Yields (attributeProbe scope part call) start found finish ↔
      ∃ first key edge, call.arguments = [first, .primary (.literal key)] ∧
        scope.edge = some edge ∧
        Yields (probe (part.selector edge) part.attributeKind key) start found finish := by
  rw [attributeProbe]
  split
  next first literal given =>
      simp only [yields_bind, yields_literalArgument, given, List.cons.injEq, and_true]
      constructor
      · intro run
        rcases run with ⟨key, _, ⟨rfl, rfl⟩, run⟩
        split at run
        next edge leads => exact ⟨first, key, edge, ⟨rfl, rfl⟩, leads, run⟩
        next => exact absurd run not_yields_unsupported
      · intro probed
        rcases probed with ⟨_, key, edge, ⟨rfl, rfl⟩, leads, run⟩
        refine ⟨key, start, ⟨rfl, rfl⟩, ?_⟩
        rwa [leads]
  next other =>
      simp only [not_yields_unsupported, false_iff]
      intro probed
      rcases probed with ⟨first, key, edge, given, -⟩
      exact other _ _ given

/-- A call is compiled as the function that its name denotes. -/
theorem yields_outcome {nested : Bool} {call : FunctionCall} {outcome : Outcome} :
    Yields (call.outcome env scope nested) start outcome finish ↔
      match Function.ofName call.name with
      | .error _ => False
      | .ok (.classifiedBy any normalized) => ∃ constraint, outcome = .settled constraint ∧
          Yields (classificationTest env scope any normalized call) start constraint finish
      | .ok (.attributeOf part) => ∃ found, outcome = .entries found ∧
          Yields (attributeProbe scope part call) start found finish
      | .ok .matching => ∃ constraint, outcome = .settled constraint ∧
          Yields (matchTest env scope call) start constraint finish
      | .ok .negation => ∃ expr constraint, call.arguments = [.expr expr] ∧
          outcome = .settled (.not constraint) ∧
          Yields (expr.constraint env scope nested) start constraint finish := by
  cases call with
  | mk name arguments =>
      unfold FunctionCall.outcome
      simp only [FunctionCall.name, FunctionCall.arguments]
      cases Function.ofName name with
      | error cause => simp
      | ok function =>
          cases function with
          | classifiedBy any normalized => simp [and_comm]
          | attributeOf part => simp [and_comm]
          | matching => simp [and_comm]
          | negation =>
              dsimp only
              split
              next expr => simp [and_comm]
              next => simp
              next other _ =>
                  simp only [not_yields_unsupported, false_iff]
                  intro negated
                  rcases negated with ⟨expr, constraint, given, -⟩
                  exact other expr given

/-- A step in a predicate is compiled only if no step encloses it and none follows.
The owner that ties it to the scope is given last. -/
theorem yields_relationship {nested : Bool} {relationshipType : String}
    {predicate : Option Expr} {next : Option SubartifactSet} {constraint : Constraint} :
    Yields ((SubartifactSet.relationship relationshipType predicate next).constraint env scope
        nested) start constraint finish ↔
      nested = false ∧ next = none ∧
        match env.settings.isDerived relationshipType, predicate with
        | true, none => ∃ document between owner,
            Yields (fresh .artifact) start document between ∧
            Yields (fresh .artifact) between owner finish ∧
            constraint = .existsRow (documentsOf document owner scope.artifact)
        | true, some predicate => ∃ document begun condition ended owner,
            Yields (fresh .artifact) start document begun ∧
            Yields (predicate.constraint env ⟨document, none⟩ true) begun condition ended ∧
            Yields (fresh .artifact) ended owner finish ∧
            constraint = .existsRowWith (documentsOf document owner scope.artifact) condition
        | false, none => ∃ relationship between owner,
            Yields (fresh .relationship) start relationship between ∧
            Yields (fresh .artifact) between owner finish ∧
            constraint = .existsRowWith
              (ownedBy (.single relationship) relationship owner scope.artifact)
              (typeTest relationship relationshipType)
        | false, some predicate => ∃ relationship first target second far begun condition ended
              owner,
            Yields (fresh .relationship) start relationship first ∧
            Yields (fresh .target) first target second ∧
            Yields (fresh .artifact) second far begun ∧
            Yields (predicate.constraint env ⟨far, some ⟨relationship, target⟩⟩ true) begun
              condition ended ∧
            Yields (fresh .artifact) ended owner finish ∧
            constraint = .existsRowWith
              (ownedBy (joinFar (.single relationship) ⟨relationship, target⟩ far) relationship
                owner scope.artifact)
              (.and (typeTest relationship relationshipType) condition) := by
  cases nested with
  | true => cases predicate <;> simp [SubartifactSet.constraint]
  | false =>
      cases next with
      | some next => cases predicate <;> simp [SubartifactSet.constraint]
      | none =>
          cases derived : env.settings.isDerived relationshipType with
          | true => cases predicate <;> simp [SubartifactSet.constraint, derived, -yields_fresh]
          | false => cases predicate <;> simp [SubartifactSet.constraint, derived, -yields_fresh]

end Sramp.Compile
