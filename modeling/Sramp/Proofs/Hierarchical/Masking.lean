import Sramp.Proofs.Hierarchical.Contents
import Sramp.Proofs.Plan.Values

/-!
# Statements without their strings

The hierarchical backend looks at no text of a value, except at the keys that entries are
asked for.  Taking those texts out of a plan before it is stated comes to the same as
taking them out of its statement, of which only the contents of strings change.
-/

namespace Sramp.Hierarchical

open Compile

namespace EntryTest

/-- The test without the text that it compares with. -/
def masked (test : EntryTest) : EntryTest :=
  { test with comparison := test.comparison.map fun (operator, value) => (operator, value.masked) }

variable {entry : Selector}

theorem key?_masked (constraint : Constraint) :
    key? entry constraint.masked = key? entry constraint := by
  cases constraint with
  | comparison operand operator value =>
      by_cases isKey : operand.property = .entryKey
      · simp [Constraint.masked, Constraint.mapValues, isKey]
      · have other : operand ≠ entry.operand .entryKey := by
          rintro rfl
          exact isKey rfl
        cases operator <;> cases value <;>
          simp [Constraint.masked, Constraint.mapValues, Value.masked, isKey, key?, other]
  | _ => rfl

theorem comparison?_masked (constraint : Constraint) :
    comparison? entry constraint.masked =
      (comparison? entry constraint).map fun (operator, value) => (operator, value.masked) := by
  cases constraint with
  | comparison operand operator value =>
      simp only [Constraint.masked, Constraint.mapValues, comparison?]
      split
      next isValue => simp [isValue, Selector.operand]
      next => rfl
  | _ => rfl

theorem ofCondition?_masked (label : String) (condition : Constraint) :
    ofCondition? entry label condition.masked =
      (ofCondition? entry label condition).map masked := by
  cases condition with
  | and key value =>
      have both : (Constraint.and key value).masked = .and key.masked value.masked := rfl
      simp only [both, ofCondition?, key?_masked, comparison?_masked]
      cases key? entry key with
      | none => rfl
      | some key => cases comparison? entry value <;> rfl
  | comparison operand operator value =>
      have alone : (Constraint.comparison operand operator value).masked =
          .comparison operand operator
            (if operand.property = .entryKey then value else value.masked) := rfl
      simp only [ofCondition?, alone]
      rw [← alone, key?_masked]
      cases key? entry (.comparison operand operator value) <;> rfl
  | _ => rfl

/-- A subquery is flattened to a test whatever the texts that it compares with. -/
theorem ofSubquery?_masked (rows : Correlation) (condition : Option Constraint) :
    ofSubquery? ⟨rows, condition.map Constraint.masked⟩ =
      (ofSubquery? ⟨rows, condition⟩).map masked := by
  simp only [ofSubquery?]
  cases rows? rows with
  | none => rfl
  | some found =>
      simp only [Option.bind_eq_bind, Option.bind_some]
      cases entryLabel? found.2.kind with
      | none => rfl
      | some label =>
          cases condition with
          | none => rfl
          | some condition => exact ofCondition?_masked label condition

end EntryTest

/-- The condition without the texts that it compares with. -/
def Condition.masked : Condition → Condition
  | .comparison property operator value => .comparison property operator value.masked
  | .present property => .present property
  | .never aliasName => .never aliasName
  | .oneOf property values => .oneOf property (values.map Value.masked)
  | .descendant aliasName path => .descendant aliasName path
  | .within outer selected rows => .within outer selected rows
  | .withinWhere outer selected rows inner => .withinWhere outer selected rows inner.masked
  | .not inner => .not inner.masked
  | .and left right => .and left.masked right.masked
  | .or left right => .or left.masked right.masked

/-- The statement without the texts that it compares with. -/
def Statement.masked (statement : Statement) : Statement :=
  { statement with condition := statement.condition.map Condition.masked }

theorem state_masked (test : EntryTest) (aliasName : String) :
    test.masked.state aliasName = Condition.masked <$> test.state aliasName := by
  rcases test with ⟨label, key, comparison⟩
  by_cases bracket : ']' ∈ key.toList
  · simp [EntryTest.masked, EntryTest.state, bracket, Functor.map, Except.map]
  · cases comparison <;>
      simp [EntryTest.masked, EntryTest.state, bracket, Functor.map, Except.map,
        Condition.masked]

/-- The key of an entry is not stated outside of a test of that entry. -/
theorem comparison_masked (operand : Operand) (operator : Operator) (value : Value) :
    backend.comparison operand operator
        (if operand.property = .entryKey then value else value.masked) =
      Condition.masked <$> backend.comparison operand operator value := by
  by_cases isKey : operand.property = .entryKey
  · simp [backend, nodeProperty, propertyName, isKey, bind, Except.bind, Functor.map, Except.map]
  · simp [isKey, backend, Condition.masked]

theorem oneOf_masked (operand : Operand) (values : List Value) :
    oneOf operand (values.map fun value =>
        if operand.property = .entryKey then value else value.masked) =
      Condition.masked <$> oneOf operand values := by
  cases values with
  | nil => rfl
  | cons first rest =>
      by_cases isKey : operand.property = .entryKey
      · simp [oneOf, nodeProperty, propertyName, isKey, bind, Except.bind, Functor.map, Except.map]
      · simp [isKey, oneOf, Condition.masked]

theorem existence_masked (rows : Correlation) (condition : Option Constraint)
    (source : Except Error Rows) (stated : Except Error (Option Condition)) :
    existence ⟨rows, condition.map Constraint.masked⟩ source
        (Option.map Condition.masked <$> stated) =
      Condition.masked <$> existence ⟨rows, condition⟩ source stated := by
  simp only [existence, EntryTest.ofSubquery?_masked]
  cases EntryTest.ofSubquery? ⟨rows, condition⟩ with
  | some test => exact state_masked test _
  | none =>
      have kept : ∀ (outer selected : NodeProperty) (joined : Rows) (inner : Option Condition),
          within outer selected joined (inner.map Condition.masked) =
            (within outer selected joined inner).masked := by
        intro outer selected joined inner
        cases inner <;> rfl
      simp [kept]

/-- A constraint without its texts is stated as the condition without them. -/
theorem constraint_masked (constraint : Constraint) :
    backend.constraint constraint.masked = Condition.masked <$> backend.constraint constraint := by
  induction constraint with
  | and left right leftIH rightIH =>
      have both : (Constraint.and left right).masked = .and left.masked right.masked := rfl
      simp only [both, Backend.constraint, leftIH, rightIH]
      cases backend.constraint left with
      | error cause => rfl
      | ok first => cases backend.constraint right <;> rfl
  | or left right leftIH rightIH =>
      have both : (Constraint.or left right).masked = .or left.masked right.masked := rfl
      simp only [both, Backend.constraint, leftIH, rightIH]
      cases backend.constraint left with
      | error cause => rfl
      | ok first => cases backend.constraint right <;> rfl
  | not inner ih =>
      have below : (Constraint.not inner).masked = .not inner.masked := rfl
      simp only [below, Backend.constraint, ih]
      cases backend.constraint inner <;> rfl
  | comparison operand operator value => exact comparison_masked operand operator value
  | present operand =>
      simp [Constraint.masked, Constraint.mapValues, Backend.constraint, backend,
        Condition.masked]
  | oneOf operand values => exact oneOf_masked operand values
  | descendant selector path => rfl
  | existsRow rows => exact existence_masked rows none (backend.source rows.source) (pure none)
  | existsRowWith rows condition ih =>
      have below : (Constraint.existsRowWith rows condition).masked =
          .existsRowWith rows condition.masked := rfl
      have inside : some <$> Condition.masked <$> backend.constraint condition =
          Option.map Condition.masked <$> some <$> backend.constraint condition := by simp
      simp only [below, Backend.constraint, ih]
      rw [inside]
      exact existence_masked rows (some condition) (backend.source rows.source)
        (some <$> backend.constraint condition)

/-- A plan without its texts is stated as the statement without them. -/
theorem realize_masked (plan : Plan) :
    realize plan.masked = Statement.masked <$> realize plan := by
  rcases plan with ⟨source, _ | constraint, column, ordering⟩
  · simp [realize, Plan.masked, Backend.realize, backend, Statement.masked]
  · simp only [realize, Plan.masked, Backend.realize, Option.map_some, constraint_masked]
    simp [backend, Statement.masked]

@[simp] theorem connective_masked (condition : Condition) :
    condition.masked.connective = condition.connective := by
  cases condition <;> rfl

theorem literalLexemes_masked (value : Value) :
    (literalLexemes value.masked).map Lexeme.masked =
      (literalLexemes value).map Lexeme.masked := by
  cases value <;> rfl

theorem enclosedLexemes_masked {outer own : Option Connective} {first second : List Lexeme}
    (same : first.map Lexeme.masked = second.map Lexeme.masked) :
    (enclosedLexemes outer own first).map Lexeme.masked =
      (enclosedLexemes outer own second).map Lexeme.masked := by
  cases own with
  | none => exact same
  | some connective =>
      simp only [enclosedLexemes]
      split
      · exact same
      · simp [same]

theorem literalsLexemes_masked (values : List Value) :
    ((plain ", ").intercalate ((values.map Value.masked).map literalLexemes)).map Lexeme.masked =
      ((plain ", ").intercalate (values.map literalLexemes)).map Lexeme.masked := by
  induction values with
  | nil => rfl
  | cons first rest ih =>
      cases rest with
      | nil => simpa using literalLexemes_masked first
      | cons second others =>
          simp only [List.map_cons, List.intercalate_cons_cons, List.map_append] at ih ⊢
          rw [literalLexemes_masked, ih]

/-- Only the contents of strings depend on the texts of a condition. -/
theorem lexemes_masked (condition : Condition) :
    condition.masked.lexemes.map Lexeme.masked = condition.lexemes.map Lexeme.masked := by
  induction condition with
  | and left right leftIH rightIH | or left right leftIH rightIH =>
      simp only [Condition.masked, Condition.lexemes, connective_masked, List.map_append,
        enclosedLexemes_masked leftIH, enclosedLexemes_masked rightIH]
  | not inner ih => simp only [Condition.masked, Condition.lexemes, List.map_append, ih]
  | withinWhere outer selected rows inner ih =>
      simp only [Condition.masked, Condition.lexemes, List.map_append, ih]
  | comparison property operator value =>
      simp only [Condition.masked, Condition.lexemes, List.map_append, literalLexemes_masked]
  | oneOf property values =>
      simp only [Condition.masked, Condition.lexemes, List.map_append, literalsLexemes_masked]
  | present | never | descendant | within => rfl

theorem Statement.lexemes_masked (statement : Statement) :
    statement.masked.lexemes.map Lexeme.masked = statement.lexemes.map Lexeme.masked := by
  rcases statement with ⟨result, rows, _ | condition, order⟩
  · rfl
  · simp only [masked, lexemes, Option.map_some, List.map_append,
      Hierarchical.lexemes_masked]

theorem mentioned_masked (plan : Plan) : plan.masked.mentioned = plan.mentioned := by
  have kept : ∀ constraint : Constraint, constraint.masked.mentioned = constraint.mentioned := by
    intro constraint
    unfold Constraint.masked
    induction constraint with
    | and left right leftIH rightIH | or left right leftIH rightIH =>
        simp only [Constraint.mapValues, Constraint.mentioned, leftIH, rightIH]
    | not inner ih => exact ih
    | existsRowWith rows condition ih =>
        simp only [Constraint.mapValues, Constraint.mentioned, ih]
    | comparison | present | oneOf | descendant | existsRow => rfl
  simp [Plan.masked, Plan.mentioned, Function.comp_def, kept]

/-- What a reader finds in the statement of a plan, without the contents of strings; or the
error with which the plan is refused. -/
def skeleton (plan : Plan) : Except Error (Option (List Lexeme)) :=
  (realize plan).map fun statement => (lex statement.text).map (·.map Lexeme.masked)

/-- The texts that a plan compares with show in the contents of strings only. -/
theorem skeleton_masked {plan : Plan} (free : PlainAliases plan.mentioned) :
    skeleton plan.masked = skeleton plan := by
  have maskedFree : PlainAliases plan.masked.mentioned := by rwa [mentioned_masked]
  unfold skeleton
  cases stated : realize plan with
  | error cause =>
      rw [realize_masked, stated]
      rfl
  | ok statement =>
      have maskedStated : realize plan.masked = .ok statement.masked := by
        rw [realize_masked, stated]
        rfl
      rw [maskedStated]
      simp only [Except.map, (shows_realize stated free).lex_eq,
        (shows_realize maskedStated maskedFree).lex_eq, Option.map_some,
        Statement.lexemes_masked]

end Sramp.Hierarchical

namespace Sramp.Query

open Compile Hierarchical

variable {env : Environment} {query : Query} {order : Option OrderBy} {plan : Plan}

/-- The aliases of a compiled plan open neither a string nor an identifier. -/
theorem plainAliases_of_plan (compiled : query.plan env order = .ok plan) :
    PlainAliases plan.mentioned := by
  intro selector mentioned
  exact plain_of_isAlphanum (isAlphanum_of_plan compiled mentioned)

/-- Nothing in a query breaks out of a string or an identifier.  A reader of the statement
for a compiled plan gets to its end outside of both; the strings it finds are the contents
of the values and the paths of the plan, and the identifiers are the names of its node
types and properties, among them one for each test of an entry.  Compiled plans that
differ in the texts that they compare with only, but ask for the same keys, are stated
alike up to the contents of strings, or refused alike. -/
theorem plan_lexed (compiled : query.plan env order = .ok plan) :
    (∀ statement, Hierarchical.realize plan = .ok statement →
      ∃ lexemes, lex statement.text = some lexemes ∧
        lexemes.flatMap Lexeme.chars = statement.text.toList ∧
        strings lexemes = planContents plan ∧ identifiers lexemes = planNames plan) ∧
    ∀ otherEnv otherQuery otherOrder other,
      Query.plan otherEnv otherQuery otherOrder = .ok other → plan.masked = other.masked →
        skeleton plan = skeleton other := by
  refine ⟨?_, ?_⟩
  · intro statement stated
    have shows := shows_realize stated (plainAliases_of_plan compiled)
    exact ⟨statement.lexemes, shows.lex_eq, shows.written, shows.strings, shows.identifiers⟩
  · intro otherEnv otherQuery otherOrder other otherCompiled same
    rw [← skeleton_masked (plainAliases_of_plan compiled), same,
      skeleton_masked (plainAliases_of_plan otherCompiled)]

/-- `/s-ramp[@name = $name and @[key] = $value]`, where the key holds what opens a string and
an identifier. -/
def quotingQuery (name value : String) : Query where
  path := ⟨none, none⟩
  predicate := some (.chain
    (.single (.test (.property (.plain "name")) (some (.eq, .literal name))))
    (.single (.single (.test (.property (.plain "it's [")) (some (.eq, .literal value))))))
  subartifacts := none

theorem plan_lexed_of_quotes :
    ∃ plan other statement lexemes,
      (quotingQuery "' OR [a] = '" "]''").plan .bare none = .ok plan ∧
      (quotingQuery "" "b").plan .bare none = .ok other ∧
      Hierarchical.realize plan = .ok statement ∧ lex statement.text = some lexemes ∧
      strings lexemes = ["' OR [a] = '", "]''", "/s-ramp"] ∧
      identifiers lexemes =
        ["sramp:baseArtifactType", "sramp:name", "sramp-properties:it's ["] ∧
      skeleton plan = skeleton other := by
  let results (query : Query) := (query.plan .bare none).toOption
  have same : (results (quotingQuery "' OR [a] = '" "]''")).map Plan.masked =
      (results (quotingQuery "" "b")).map Plan.masked := by decide +kernel
  have inside : (results (quotingQuery "' OR [a] = '" "]''")).map planContents =
      some ["' OR [a] = '", "]''", "/s-ramp"] := by decide +kernel
  have named : (results (quotingQuery "' OR [a] = '" "]''")).map planNames =
      some ["sramp:baseArtifactType", "sramp:name", "sramp-properties:it's ["] := by
    decide +kernel
  have succeeds : ((quotingQuery "' OR [a] = '" "]''").plan .bare none >>=
      Hierarchical.realize).toOption.isSome = true := by decide +kernel
  have otherSucceeds : ((quotingQuery "" "b").plan .bare none).toOption.isSome = true := by
    decide +kernel
  rcases exists_ok_bind_of_isSome succeeds with ⟨plan, statement, compiled, stated⟩
  rcases exists_ok_of_isSome otherSucceeds with ⟨other, otherCompiled⟩
  simp only [results, compiled, otherCompiled, Except.toOption, Option.map_some,
    Option.some.injEq] at same inside named
  rcases plan_lexed compiled with ⟨reads, alike⟩
  rcases reads statement stated with ⟨lexemes, read, -, asStrings, asNames⟩
  exact ⟨plan, other, statement, lexemes, compiled, otherCompiled, stated, read,
    asStrings.trans inside, asNames.trans named, alike _ _ _ other otherCompiled same⟩

end Sramp.Query
