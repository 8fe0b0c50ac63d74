import Sramp.Proofs.Compile.Numbered
import Sramp.Proofs.Relational.Erasure
import Sramp.Proofs.Relational.Marks

/-!
# Binding of values

A relational statement binds the values of its plan in the order of the question marks
in its text, and each question mark stands in the text of the test that its value
belongs to.  The text does not depend on the values: plans that differ in nothing else
are stated with the same text, or refused with the same error.
-/

namespace Sramp.Relational

/-- A column is written without a question mark if its alias is. -/
theorem unmarked_of_column {operand : Operand} {found : Column}
    (stated : column operand = .ok found) (free : Unmarked operand.selector.aliasName) :
    Unmarked found.text := by
  rw [column] at stated
  split at stated
  next name named =>
      cases stated
      have plain := unmarked_columnName _ _ name named
      simp only [Column.text, unmarked_append]
      exact ⟨⟨free, by decide⟩, plain⟩
  next => contradiction

theorem unmarked_of_joinColumns {condition : JoinCondition} {first second : Column}
    (stated : joinColumns condition = .ok (first, second))
    (free : ∀ selector ∈ condition.selectors, Unmarked selector.aliasName) :
    Unmarked first.text ∧ Unmarked second.text := by
  cases condition with
  | equal left right =>
      simp only [joinColumns, Compile.exceptBind_eq_ok] at stated
      rcases stated with ⟨begun, leftStated, ended, rightStated, made⟩
      cases made
      constructor
      · exact unmarked_of_column leftStated (free _ (by simp [JoinCondition.selectors]))
      · exact unmarked_of_column rightStated (free _ (by simp [JoinCondition.selectors]))
  | child child parent =>
      simp only [joinColumns] at stated
      split at stated
      next key found =>
          cases stated
          have plain := unmarked_parentKey _ _ key found
          simp only [Column.text, unmarked_append]
          constructor
          · exact ⟨⟨free child (by simp [JoinCondition.selectors]), by decide⟩, plain⟩
          · exact ⟨⟨free parent (by simp [JoinCondition.selectors]), by decide⟩, by decide⟩
      next => contradiction

variable {root : String} {count next : Nat}

/-- Rows are written without a question mark if the aliases of their source are. -/
theorem unmarked_of_source {source : Source} {rows : Rows}
    (stated : Answers ((backend root).source source) count rows next)
    (free : ∀ selector ∈ source.mentioned, Unmarked selector.aliasName) :
    Unmarked rows.text := by
  induction source generalizing rows with
  | single selector =>
      rcases answers_pure.mp stated with ⟨rfl, -⟩
      simp only [Rows.text, unmarked_append]
      exact ⟨⟨unmarked_tableName _, by decide⟩, free selector (List.mem_singleton_self _)⟩
  | join left right kind condition ih =>
      rcases answers_join.mp stated with ⟨before, leftRun, first, second, columns, rfl⟩
      simp only [Source.mentioned, List.mem_append, List.mem_cons] at free
      have beforeFree := ih leftRun fun selector member => free selector (.inl member)
      have rightFree := free right (.inr (.inl rfl))
      have columnsFree := unmarked_of_joinColumns columns fun selector member =>
        free selector (.inr (.inr member))
      simp only [Rows.text, unmarked_append]
      simp [beforeFree, rightFree, columnsFree, unmarked_joinText, unmarked_tableName,
        show Unmarked " " by decide, show Unmarked " ON " by decide,
        show Unmarked " = " by decide]

/-- How a test is written that binds values: in its own column, with one question mark
for each value. -/
inductive Written : Constraint → String → Prop where
  | comparison {operand : Operand} {operator : Operator} {value : Value} {found : Column} :
      column operand = .ok found →
      Written (.comparison operand operator value)
        (found.text ++ " " ++ operator.symbol ++ " ?")
  | classified {operand : Operand} {normalized : Bool} {value : Value} (number : Nat) :
      operand.property = .classifier normalized →
      Written (.comparison operand .eq value)
        (Condition.classifiedText number normalized operand.selector.aliasName)
  | oneOf {operand : Operand} {values : List Value} {found : Column} :
      values ≠ [] → column operand = .ok found →
      Written (.oneOf operand values)
        (found.text ++ " IN (" ++ ", ".intercalate (values.map fun _ => "?") ++ ")")
  | never {operand : Operand} : Written (.oneOf operand []) "1 = 0"

/-- A list of question marks holds one for each value. -/
theorem count_marks (values : List Value) :
    (", ".intercalate (values.map fun _ => "?")).toList.count '?' = values.length := by
  induction values with
  | nil => rfl
  | cons first rest ih =>
      cases rest with
      | nil => simp
      | cons second others =>
          simp only [List.map_cons, String.intercalate_cons_cons, String.toList_append,
            List.count_append] at ih ⊢
          rw [ih]
          simp
          omega

/-- The text of a test holds as many question marks as the test has values. -/
theorem Written.count_eq {test : Constraint} {text : String} (written : Written test text)
    (free : ∀ selector ∈ test.mentioned, Unmarked selector.aliasName) :
    text.toList.count '?' = test.values.length := by
  have plain {part : String} (unmarked : Unmarked part) : part.toList.count '?' = 0 :=
    List.count_eq_zero.mpr unmarked
  cases written with
  | @comparison operand operator value found stated =>
      have columnFree := plain (unmarked_of_column stated
        (free operand.selector (List.mem_singleton_self _)))
      simp [columnFree, plain (unmarked_symbol operator), Constraint.values]
  | @classified operand normalized value number tested =>
      have aliasFree := plain (free operand.selector (List.mem_singleton_self _))
      unfold Condition.classifiedText Condition.classifierAlias
      simp only [String.toList_append, List.count_append, aliasFree,
        plain (unmarked_toString number), plain (unmarked_classifierTable normalized),
        Constraint.values, List.length_singleton]
      decide
  | @oneOf operand values found nonempty stated =>
      have columnFree := plain (unmarked_of_column stated
        (free operand.selector (List.mem_singleton_self _)))
      simp only [String.toList_append, List.count_append, count_marks, columnFree,
        Constraint.values]
      simp
  | never => simp [Constraint.values]

/-- The text of a test has a question mark for each of its values. -/
structure Carries (test : Constraint) (text : String) : Prop where
  written : Written test text
  marks : text.toList.count '?' = test.values.length

/-- Texts of tests have as many question marks as the tests have values. -/
theorem sum_marks {tests : List Constraint} {texts : List String}
    (carried : List.Forall₂ Carries tests texts) :
    (texts.map fun part => part.toList.count '?').sum =
      (tests.flatMap Constraint.values).length := by
  induction carried with
  | nil => rfl
  | cons first _ ih => simp [first.marks, ih]

/-- A condition binds the values of a constraint: in their order, and each in the text of
the test that it belongs to. -/
structure Condition.Binds (condition : Condition) (constraint : Constraint) : Prop where
  parameters : condition.parameters = constraint.values
  placed : ∃ texts, List.Forall₂ Carries constraint.valueTests texts ∧
    Holds condition.text texts

theorem Condition.Binds.enclosed {condition : Condition} {constraint : Constraint}
    (binds : condition.Binds constraint) (outer own : Option Connective) :
    ∃ texts, List.Forall₂ Carries constraint.valueTests texts ∧
      Holds (Sramp.enclosed outer own condition.text) texts := by
  rcases binds.placed with ⟨texts, written, holds⟩
  exact ⟨texts, written, holds.enclosed⟩

/-- A test without values binds none. -/
theorem binds_nothing {condition : Condition} {constraint : Constraint}
    (noParameters : condition.parameters = []) (noValues : constraint.values = [])
    (noTests : constraint.valueTests = []) (free : Unmarked condition.text) :
    condition.Binds constraint where
  parameters := noParameters.trans noValues.symm
  placed := by
    rw [noTests]
    exact ⟨[], .nil, .nothing free⟩

/-- A test that is written as a whole binds its values. -/
theorem binds_written {condition : Condition} {test : Constraint}
    (parameters : condition.parameters = test.values) (alone : test.valueTests = [test])
    (written : Written test condition.text)
    (free : ∀ selector ∈ test.mentioned, Unmarked selector.aliasName) :
    condition.Binds test where
  parameters := parameters
  placed := by
    rw [alone]
    exact ⟨[condition.text], .cons ⟨written, written.count_eq free⟩ .nil, .single _⟩

/-- Two conditions joined by a connective bind the values of both. -/
theorem placed_joined {left right : Condition} {first second : Constraint}
    (one : left.Binds first) (other : right.Binds second) {outer : Option Connective}
    {middle : String} (free : Unmarked middle) :
    ∃ texts, List.Forall₂ Carries (first.valueTests ++ second.valueTests) texts ∧
      Holds (Sramp.enclosed outer left.connective left.text ++ middle
        ++ Sramp.enclosed outer right.connective right.text) texts := by
  rcases one.enclosed outer left.connective with ⟨texts, written, holds⟩
  rcases other.enclosed outer right.connective with ⟨others, written', holds'⟩
  exact ⟨texts ++ others, List.rel_append written written',
    (holds.before free).append holds'⟩

/-- The text that opens an existence test holds no question mark. -/
theorem unmarked_existsText {rows : Correlation} {joined : Rows} {correlated outer : Column}
    (rowsRun : Answers ((backend root).source rows.source) count joined next)
    (left : column rows.correlated = .ok correlated) (right : column rows.outer = .ok outer)
    (free : ∀ selector ∈ rows.mentioned, Unmarked selector.aliasName) :
    Unmarked (Condition.existsText joined correlated outer) := by
  have source := unmarked_of_source rowsRun fun selector member =>
    free selector (List.mem_append_left _ member)
  have own := unmarked_of_column left
    (free rows.correlated.selector (by simp [Correlation.mentioned]))
  have around := unmarked_of_column right
    (free rows.outer.selector (by simp [Correlation.mentioned]))
  unfold Condition.existsText
  simp only [unmarked_append]
  exact ⟨⟨⟨⟨⟨by decide, source⟩, by decide⟩, own⟩, by decide⟩, around⟩

variable {condition : Condition}

/-- A comparison binds its value, also where it looks up a classifier. -/
theorem binds_of_comparison {operand : Operand} {operator : Operator} {value : Value}
    (stated : Answers (comparison operand operator value) count condition next)
    (free : Unmarked operand.selector.aliasName) :
    condition.Binds (.comparison operand operator value) := by
  have around : ∀ selector ∈ [operand.selector], Unmarked selector.aliasName := by
    simpa using free
  rw [comparison] at stated
  split at stated
  next normalized tested =>
      split at stated
      next equals =>
          simp only [answers_bind, answers_pure] at stated
          rcases stated with ⟨number, _, -, rfl, -⟩
          subst equals
          exact binds_written rfl rfl (.classified number tested) around
      next => exact absurd stated not_answers_throw
  next =>
      simp only [bind_pure_comp, answers_map, answers_lift] at stated
      rcases stated with ⟨found, ⟨stated, -⟩, rfl⟩
      exact binds_written rfl rfl (.comparison stated) around

theorem binds_of_oneOf {operand : Operand} {values : List Value}
    (stated : oneOf operand values = .ok condition)
    (free : Unmarked operand.selector.aliasName) :
    condition.Binds (.oneOf operand values) := by
  have around : ∀ selector ∈ [operand.selector], Unmarked selector.aliasName := by
    simpa using free
  rw [oneOf] at stated
  split at stated
  next empty =>
      cases stated
      rw [List.isEmpty_iff.mp empty]
      exact binds_written rfl rfl .never around
  next nonempty =>
      rcases Compile.exceptBind_eq_ok.mp stated with ⟨found, place, made⟩
      cases made
      exact binds_written rfl rfl (.oneOf (by simpa using nonempty) place) around

/-- What a constraint is stated as binds its values. -/
theorem binds_of_answers (constraint : Constraint)
    (stated : Answers ((backend root).constraint constraint) count condition next)
    (free : ∀ selector ∈ constraint.mentioned, Unmarked selector.aliasName) :
    condition.Binds constraint := by
  induction constraint generalizing count condition next with
  | and left right leftIH rightIH =>
      rcases answers_and.mp stated with ⟨first, _, second, leftRun, rightRun, rfl⟩
      have one := leftIH leftRun fun selector member =>
        free selector (List.mem_append_left _ member)
      have other := rightIH rightRun fun selector member =>
        free selector (List.mem_append_right _ member)
      constructor
      · simp only [Condition.parameters, Constraint.values, one.parameters, other.parameters]
      · exact placed_joined one other (by decide)
  | or left right leftIH rightIH =>
      rcases answers_or.mp stated with ⟨first, _, second, leftRun, rightRun, rfl⟩
      have one := leftIH leftRun fun selector member =>
        free selector (List.mem_append_left _ member)
      have other := rightIH rightRun fun selector member =>
        free selector (List.mem_append_right _ member)
      constructor
      · simp only [Condition.parameters, Constraint.values, one.parameters, other.parameters]
      · exact placed_joined one other (by decide)
  | not inner ih =>
      rcases answers_not.mp stated with ⟨inner', run, rfl⟩
      have binds := ih run free
      rcases binds.enclosed none inner'.connective with ⟨texts, written, holds⟩
      exact ⟨binds.parameters, texts, written, holds.after (by decide)⟩
  | comparison operand operator value =>
      exact binds_of_comparison stated (free _ (List.mem_singleton_self _))
  | present operand =>
      simp only [Backend.constraint, backend, bind_pure_comp, answers_map, answers_lift]
        at stated
      rcases stated with ⟨found, ⟨place, -⟩, rfl⟩
      have plain := unmarked_of_column place (free _ (List.mem_singleton_self _))
      apply binds_nothing rfl rfl rfl
      simp only [Condition.text, unmarked_append]
      exact ⟨plain, by decide⟩
  | oneOf operand values =>
      exact binds_of_oneOf (answers_lift.mp stated).1 (free _ (List.mem_singleton_self _))
  | descendant selector path =>
      obtain rfl := formula_of_descendant (answers_lift.mp stated).1
      apply binds_nothing rfl rfl rfl
      simp only [Condition.text, unmarked_append]
      exact ⟨free _ (List.mem_singleton_self _), by decide⟩
  | existsRow rows =>
      rcases answers_existence.mp stated with
        ⟨joined, _, rowsRun, correlated, left, outer, right, _, run, rfl⟩
      rcases answers_pure.mp run with ⟨rfl, -⟩
      have opening := unmarked_existsText rowsRun left right free
      apply binds_nothing rfl rfl rfl
      simp only [existence, Condition.text, unmarked_append]
      exact ⟨opening, by decide⟩
  | existsRowWith rows inner ih =>
      rcases answers_existence.mp stated with
        ⟨joined, _, rowsRun, correlated, left, outer, right, _, run, rfl⟩
      rcases answers_map.mp run with ⟨inner', innerRun, rfl⟩
      have opening := unmarked_existsText rowsRun left right fun selector member =>
        free selector (List.mem_append_left _ member)
      have binds := ih innerRun fun selector member =>
        free selector (List.mem_append_right _ member)
      rcases binds.enclosed (some .and) inner'.connective with ⟨texts, written, holds⟩
      refine ⟨binds.parameters, texts, written, ?_⟩
      exact (holds.after (unmarked_append.mpr ⟨opening, by decide⟩)).before (by decide)

/-! ## Statements -/

/-- An order is written without a question mark if its alias is. -/
theorem unmarked_of_order {sorting : Option SortOrder} {ordered : Option Order}
    (stated : order sorting = .ok ordered)
    (free : ∀ request ∈ sorting, Unmarked request.operand.selector.aliasName) :
    ∀ order ∈ ordered, Unmarked order.text := by
  cases sorting with
  | none =>
      cases stated
      simp
  | some request =>
      rcases Compile.exceptBind_eq_ok.mp stated with ⟨place, columnStated, made⟩
      cases made
      intro order same
      cases same
      have plain := unmarked_of_column columnStated (free request rfl)
      simp only [Order.text, unmarked_append]
      refine ⟨⟨by decide, plain⟩, ?_⟩
      split <;> decide

/-- A text around a condition, as that of a statement, holds the same texts. -/
theorem holds_statement {statement : Statement} {texts : List String}
    (opening : Unmarked ("SELECT DISTINCT " ++ statement.result ++ ".* FROM "
      ++ statement.rows.text))
    (inside : (statement.condition = none ∧ texts = []) ∨
      ∃ condition, statement.condition = some condition ∧ Holds condition.text texts)
    (closing : ∀ order ∈ statement.order, Unmarked order.text) :
    Holds statement.text texts := by
  unfold Statement.text
  apply Holds.before
  · rcases inside with ⟨absent, rfl⟩ | ⟨condition, present, holds⟩
    · rw [absent]
      exact (Holds.nothing opening).before (by decide)
    · rw [present]
      have guarded : Holds (" WHERE " ++ condition.text) texts := holds.after (by decide)
      exact guarded.after opening
  · split
    next => decide
    next order ordered => exact closing order ordered

/-- The rest of a statement holds no question mark, so it binds what its condition
does. -/
theorem placed_of_realize {plan : Plan} {statement : Statement}
    (stated : Answers ((backend root).realize plan) count statement next)
    (free : ∀ selector ∈ plan.mentioned, Unmarked selector.aliasName) :
    statement.parameters = plan.values ∧
      ∃ texts, List.Forall₂ Carries plan.valueTests texts ∧ Holds statement.text texts := by
  rcases answers_realize.mp stated with
    ⟨rows, first, condition, ordered, rowsRun, conditionRun, sorted, rfl⟩
  have rowsFree := unmarked_of_source rowsRun fun selector member =>
    free selector (by simp [Plan.mentioned, member])
  have columnFree := free plan.column (by simp [Plan.mentioned])
  have opening : Unmarked ("SELECT DISTINCT " ++ plan.column.aliasName ++ ".* FROM "
      ++ rows.text) := by
    simp only [unmarked_append]
    exact ⟨⟨⟨by decide, columnFree⟩, by decide⟩, rowsFree⟩
  have closing : ∀ order ∈ ordered, Unmarked order.text := by
    apply unmarked_of_order sorted
    intro request requested
    exact free _ (by simp [Plan.mentioned, Option.mem_def.mp requested])
  cases constrained : plan.constraint with
  | none =>
      rw [constrained] at conditionRun
      rcases answers_pure.mp conditionRun with ⟨rfl, rfl⟩
      refine ⟨by simp [Statement.parameters, Plan.values, constrained], [], ?_, ?_⟩
      · simp [Plan.valueTests, constrained]
      · exact holds_statement opening (.inl ⟨rfl, rfl⟩) closing
  | some constraint =>
      rw [constrained] at conditionRun
      rcases answers_map.mp conditionRun with ⟨found, run, rfl⟩
      have binds := binds_of_answers constraint run fun selector member =>
        free selector (by simp [Plan.mentioned, constrained, member])
      rcases binds.placed with ⟨texts, carried, holds⟩
      refine ⟨?_, texts, ?_, ?_⟩
      · simpa [Statement.parameters, Plan.values, constrained] using binds.parameters
      · simpa [Plan.valueTests, constrained] using carried
      · exact holds_statement opening (.inr ⟨found, rfl, holds⟩) closing

/-- The text that a plan is stated with, or the error, and the number of look-ups
stated then. -/
def statedText (root : String) (plan : Plan) (count : Nat) : Except Error String × Nat :=
  ((realize root plan count).1.map Statement.text, (realize root plan count).2)

/-- Values play no part in what a plan is stated with. -/
theorem statedText_erased (root : String) (plan : Plan) (count : Nat) :
    statedText root plan.erased count = statedText root plan count := by
  have stated : realize root plan.erased count =
      ((realize root plan count).1.map Statement.erased, (realize root plan count).2) := by
    rw [realize, realize_erased, ExceptT.run_map, StateT.run_map]
    rfl
  rw [statedText, stated, statedText]
  cases (realize root plan count).1 with
  | error cause => rfl
  | ok statement => simp [Except.map]

/-- Values are bound exactly.  If no alias holds a question mark, as in every compiled
plan, a statement has as many of them as it binds values; the values are those of the
plan in its order, and the question marks stand in the texts of the tests that the values
belong to.  Plans that differ in their values only are stated with one text, or refused
with one error, and leave the same number of look-ups. -/
theorem realize_binds (plan : Plan) :
    ((∀ selector ∈ plan.mentioned, Unmarked selector.aliasName) →
      ∀ root count statement next, realize root plan count = (.ok statement, next) →
        statement.text.toList.count '?' = statement.parameters.length ∧
        statement.parameters = plan.values ∧
        ∃ texts, List.Forall₂ Carries plan.valueTests texts ∧ Holds statement.text texts) ∧
    (∀ env query order, Query.plan env query order = .ok plan →
      ∀ selector ∈ plan.mentioned, Unmarked selector.aliasName) ∧
    ∀ other, plan.erased = other.erased →
      ∀ root count, statedText root plan count = statedText root other count := by
  refine ⟨?_, ?_, ?_⟩
  · intro free root count statement next realized
    rcases placed_of_realize realized free with ⟨parameters, texts, carried, holds⟩
    refine ⟨?_, parameters, texts, carried, holds⟩
    rw [holds.count_eq, sum_marks carried, parameters, Plan.values_eq_flatMap]
  · intro env query order compiled selector mentioned
    exact unmarked_of_isAlphanum (Query.isAlphanum_of_plan compiled mentioned)
  · intro other same root count
    rw [← statedText_erased root plan, same, statedText_erased]

/-- A name, two identifiers of which one looks like a question mark, and a class. -/
theorem realize_binds_of_hits :
    let artifact : Selector := ⟨.artifact, "artifact1"⟩
    let plan (name first second uri : String) : Plan :=
      ⟨.single artifact,
        some (.and (.comparison (artifact.operand (.core .name)) .like (.string name))
          (.or (.oneOf (artifact.operand (.core .uuid)) [.string first, .string second])
            (.comparison (artifact.operand (.classifier true)) .eq (.string uri)))),
        artifact, none⟩
    (∃ statement next,
      realize "/s-ramp" (plan "a%" "?" "u" "urn:x") 0 = (.ok statement, next) ∧
      statement.text.toList.count '?' = 4 ∧
      statement.parameters = [.string "a%", .string "?", .string "u", .string "urn:x"]) ∧
    statedText "/s-ramp" (plan "a%" "?" "u" "urn:x") 0 =
      statedText "/s-ramp" (plan "' OR 1 = 1" "" "v" "?") 0 ∧
    ∃ compiled, Compile.sampleQuery.plan .bare none = .ok compiled ∧
      ∀ selector ∈ compiled.mentioned, Unmarked selector.aliasName := by
  intro artifact plan
  refine ⟨?_, ?_, ?_⟩
  · have bound := (realize_binds (plan "a%" "?" "u" "urn:x")).1 (by decide) "/s-ramp" 0 _ _ rfl
    refine ⟨_, _, rfl, ?_, bound.2.1⟩
    rw [bound.1, bound.2.1]
    rfl
  · exact (realize_binds (plan "a%" "?" "u" "urn:x")).2.2 _ rfl "/s-ramp" 0
  · have succeeds : (Compile.sampleQuery.plan .bare none).toOption.isSome = true := by
      decide +kernel
    rcases Compile.exists_ok_of_isSome succeeds with ⟨compiled, made⟩
    exact ⟨compiled, made, (realize_binds compiled).2.1 _ _ _ made⟩

end Sramp.Relational
