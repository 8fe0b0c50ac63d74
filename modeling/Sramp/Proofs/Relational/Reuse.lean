import Mathlib.Data.List.Nodup
import Sramp.Proofs.Compile.Classification
import Sramp.Proofs.Compile.Numbered
import Sramp.Proofs.Relational.Renumbering

/-!
# Backends that are used again

A relational backend goes on counting classifier look-ups from one plan to the next.  So the
aliases of look-ups are distinct in all the statements that it gives; and apart from these
aliases each statement is the one that a fresh backend gives for the plan.
-/

namespace Sramp.Relational

open Text

variable {root : String} {count next : Nat}

theorem plain_columnName (kind : NodeKind) (property : Property) :
    ∀ name ∈ columnName? kind property, Plain name := by
  cases property with
  | core core => cases kind <;> cases core <;> decide
  | classifier => cases kind <;> simp [columnName?]
  | _ => cases kind <;> decide

theorem plain_parentKey (child parent : NodeKind) :
    ∀ key ∈ parentKey? child parent, Plain key := by
  cases child <;> cases parent <;> decide

/-- The names in a column are plain if the alias of its operand is. -/
theorem plain_of_column {operand : Operand} {found : Column}
    (stated : column operand = .ok found) (plain : Plain operand.selector.aliasName) :
    ∀ name ∈ found.names, Plain name := by
  rw [column] at stated
  split at stated
  next name named =>
      cases stated
      simp only [Column.names, List.forall_mem_cons]
      exact ⟨plain, plain_columnName _ _ name named, by simp⟩
  next => contradiction

theorem plain_of_joinColumns {condition : JoinCondition} {first second : Column}
    (stated : joinColumns condition = .ok (first, second))
    (plain : ∀ selector ∈ condition.selectors, Plain selector.aliasName) :
    (∀ name ∈ first.names, Plain name) ∧ ∀ name ∈ second.names, Plain name := by
  cases condition with
  | equal left right =>
      simp only [joinColumns, Compile.exceptBind_eq_ok] at stated
      obtain ⟨begun, leftStated, ended, rightStated, made⟩ := stated
      cases made
      constructor
      · exact plain_of_column leftStated (plain _ (by simp [JoinCondition.selectors]))
      · exact plain_of_column rightStated (plain _ (by simp [JoinCondition.selectors]))
  | child child parent =>
      simp only [joinColumns] at stated
      split at stated
      next key found =>
          cases stated
          simp only [Column.names, List.forall_mem_cons]
          constructor
          · exact ⟨plain child (by simp [JoinCondition.selectors]),
              plain_parentKey _ _ key found, by simp⟩
          · exact ⟨plain parent (by simp [JoinCondition.selectors]), by decide, by simp⟩
      next => contradiction

theorem plain_of_source {source : Source} {rows : Rows}
    (stated : Answers ((backend root).source source) count rows next)
    (plain : ∀ selector ∈ source.mentioned, Plain selector.aliasName) :
    ∀ name ∈ rows.names, Plain name := by
  induction source generalizing rows with
  | single selector =>
      obtain ⟨rfl, -⟩ := answers_pure.mp stated
      simpa [Rows.names, Source.mentioned] using plain
  | join left right kind condition ih =>
      obtain ⟨before, leftRun, first, second, columns, rfl⟩ := answers_join.mp stated
      simp only [Source.mentioned, List.forall_mem_append, List.forall_mem_cons] at plain
      obtain ⟨inLeft, inRight, inCondition⟩ := plain
      obtain ⟨one, other⟩ := plain_of_joinColumns columns inCondition
      simp only [Rows.names, List.forall_mem_append, List.forall_mem_singleton]
      exact ⟨⟨⟨ih leftRun inLeft, inRight⟩, one⟩, other⟩

variable {condition : Condition}

theorem plain_of_comparison {operand : Operand} {operator : Operator} {value : Value}
    (stated : Answers (comparison operand operator value) count condition next)
    (plain : Plain operand.selector.aliasName) : ∀ name ∈ condition.names, Plain name := by
  rw [comparison] at stated
  split at stated
  next =>
      split at stated
      next =>
          cases stated
          simpa [Condition.names] using plain
      next => exact absurd stated not_answers_throw
  next =>
      simp only [bind_pure_comp, answers_map, answers_lift] at stated
      obtain ⟨found, ⟨place, -⟩, rfl⟩ := stated
      exact plain_of_column place plain

theorem plain_of_oneOf {operand : Operand} {values : List Value}
    (stated : oneOf operand values = .ok condition) (plain : Plain operand.selector.aliasName) :
    ∀ name ∈ condition.names, Plain name := by
  rw [oneOf] at stated
  split at stated
  next =>
      cases stated
      simp [Condition.names]
  next =>
      obtain ⟨found, place, made⟩ := Compile.exceptBind_eq_ok.mp stated
      cases made
      exact plain_of_column place plain

/-- The names at the beginning of an existence test are plain if the aliases of its subquery
are. -/
theorem plain_of_correlation {rows : Correlation} {joined : Rows} {correlated outer : Column}
    (rowsRun : Answers ((backend root).source rows.source) count joined next)
    (left : column rows.correlated = .ok correlated) (right : column rows.outer = .ok outer)
    (plain : ∀ selector ∈ rows.mentioned, Plain selector.aliasName) :
    ∀ name ∈ joined.names ++ correlated.names ++ outer.names, Plain name := by
  simp only [Correlation.mentioned, List.forall_mem_append, List.forall_mem_cons] at plain
  obtain ⟨inSource, own, around, -⟩ := plain
  simp only [List.forall_mem_append]
  exact ⟨⟨plain_of_source rowsRun inSource, plain_of_column left own⟩,
    plain_of_column right around⟩

/-- The names in a condition are plain if the aliases in its constraint are. -/
theorem plain_of_answers (constraint : Constraint)
    (stated : Answers ((backend root).constraint constraint) count condition next)
    (plain : ∀ selector ∈ constraint.mentioned, Plain selector.aliasName) :
    ∀ name ∈ condition.names, Plain name := by
  induction constraint generalizing count condition next with
  | and left right leftIH rightIH =>
      obtain ⟨first, _, second, leftRun, rightRun, rfl⟩ := answers_and.mp stated
      obtain ⟨inLeft, inRight⟩ := List.forall_mem_append.mp plain
      exact List.forall_mem_append.mpr ⟨leftIH leftRun inLeft, rightIH rightRun inRight⟩
  | or left right leftIH rightIH =>
      obtain ⟨first, _, second, leftRun, rightRun, rfl⟩ := answers_or.mp stated
      obtain ⟨inLeft, inRight⟩ := List.forall_mem_append.mp plain
      exact List.forall_mem_append.mpr ⟨leftIH leftRun inLeft, rightIH rightRun inRight⟩
  | not inner ih =>
      obtain ⟨negated, run, rfl⟩ := answers_not.mp stated
      rw [Condition.names]
      exact ih run plain
  | comparison operand operator value =>
      exact plain_of_comparison stated (plain _ (List.mem_singleton_self _))
  | present operand =>
      simp only [Backend.constraint, backend, bind_pure_comp, answers_map, answers_lift]
        at stated
      obtain ⟨found, ⟨place, -⟩, rfl⟩ := stated
      exact plain_of_column place (plain _ (List.mem_singleton_self _))
  | oneOf operand values =>
      exact plain_of_oneOf (answers_lift.mp stated).1 (plain _ (List.mem_singleton_self _))
  | descendant selector path =>
      obtain rfl := formula_of_descendant (answers_lift.mp stated).1
      simpa [Condition.names, Constraint.mentioned] using plain
  | existsRow rows =>
      obtain ⟨joined, _, rowsRun, correlated, left, outer, right, _, run, rfl⟩ :=
        answers_existence.mp stated
      obtain ⟨rfl, -⟩ := answers_pure.mp run
      exact plain_of_correlation rowsRun left right plain
  | existsRowWith rows inner ih =>
      obtain ⟨joined, _, rowsRun, correlated, left, outer, right, _, run, rfl⟩ :=
        answers_existence.mp stated
      obtain ⟨condition, innerRun, rfl⟩ := answers_map.mp run
      obtain ⟨inRows, inCondition⟩ := List.forall_mem_append.mp plain
      exact List.forall_mem_append.mpr
        ⟨plain_of_correlation rowsRun left right inRows, ih innerRun inCondition⟩

theorem plain_of_order {sorting : Option SortOrder} {ordered : Option Order}
    (stated : order sorting = .ok ordered)
    (plain : ∀ request ∈ sorting, Plain request.operand.selector.aliasName) :
    ∀ name ∈ (ordered.map (·.column.names)).getD [], Plain name := by
  cases sorting with
  | none =>
      cases stated
      simp
  | some request =>
      obtain ⟨place, columnStated, made⟩ := Compile.exceptBind_eq_ok.mp stated
      cases made
      exact plain_of_column columnStated (plain request rfl)

/-- The names in a statement are plain if the aliases in its plan are. -/
theorem plain_of_realize {plan : Plan} {statement : Statement}
    (stated : realize root plan count = (.ok statement, next))
    (plain : ∀ selector ∈ plan.mentioned, Plain selector.aliasName) :
    ∀ name ∈ statement.names, Plain name := by
  obtain ⟨rows, first, condition, ordered, rowsRun, run, sorted, rfl⟩ :=
    answers_realize.mp stated
  have inResult := plain plan.column (by simp [Plan.mentioned])
  have inRows := plain_of_source rowsRun fun selector member =>
    plain selector (by simp [Plan.mentioned, member])
  have inOrder := plain_of_order sorted fun request requested =>
    plain _ (by simp [Plan.mentioned, Option.mem_def.mp requested])
  have inCondition : ∀ name ∈ (condition.map Condition.names).getD [], Plain name := by
    cases constrained : plan.constraint with
    | none =>
        rw [constrained] at run
        obtain ⟨rfl, -⟩ := answers_pure.mp run
        simp
    | some constraint =>
        rw [constrained] at run
        obtain ⟨condition, answered, rfl⟩ := answers_map.mp run
        exact plain_of_answers constraint answered fun selector member =>
          plain selector (by simp [Plan.mentioned, constrained, member])
  simp only [Statement.names, List.forall_mem_append, List.forall_mem_cons]
  exact ⟨⟨⟨inResult, inRows⟩, inCondition⟩, inOrder⟩

/-- Look-ups with different numbers have different aliases. -/
theorem classifierAlias_injective : Function.Injective Condition.classifierAlias := by
  intro number other same
  have numbers := lookUpNumber?_classifierAlias number
  rw [same, lookUpNumber?_classifierAlias] at numbers
  exact (Option.some.inj numbers).symm

/-- The alias of a look-up is not plain. -/
theorem not_plain_classifierAlias (number : Nat) : ¬Plain (Condition.classifierAlias number) := by
  intro plain
  have word := @wordsFrom_of_isWordChar [] _ (isWordChar_classifierAlias number)
  have none := plain (Condition.classifierAlias number).toList (by
    rw [words, word, List.nil_append]
    exact List.mem_singleton_self _)
  rw [lookUpNumber?_classifierAlias] at none
  exact Option.some_ne_none number none

/-- No stem begins as the alias of a look-up does. -/
theorem head?_of_lookUpNumber? {word : List Char} (named : lookUpNumber? word ≠ none) :
    word.head? = some 'c' := by
  rw [lookUpNumber?] at named
  split_ifs at named with digits
  · have stem : (word.take 10).head? = "classifier".toList.head? := congrArg List.head? digits.1
    rwa [List.head?_take, if_neg (by decide)] at stem
  · exact absurd rfl named

/-- The aliases in a compiled plan are plain. -/
theorem plain_of_plan {env : Compile.Environment} {query : Query} {sorting : Option OrderBy}
    {plan : Plan} (compiled : query.plan env sorting = .ok plan) {selector : Selector}
    (mentioned : selector ∈ plan.mentioned) : Plain selector.aliasName := by
  have inWord : ∀ c ∈ selector.aliasName.toList, isWordChar c = true := by
    intro c member
    simp [isWordChar, Query.isAlphanum_of_plan compiled mentioned c member]
  intro word member
  rw [words, wordsFrom_of_isWordChar inWord, List.nil_append, List.mem_singleton] at member
  rw [member]
  by_contra named
  obtain ⟨number, numbered⟩ := Query.numbered_of_plan compiled mentioned
  have begins := head?_of_lookUpNumber? named
  rw [numbered, String.toList_append, List.head?_append] at begins
  cases stem : Compile.Stem.ofKind selector.kind <;> rw [stem] at begins <;>
    exact absurd (Option.some.inj begins) (by decide)

/-! ## One plan after another -/

/-- What a backend answered for a plan, and how many look-ups it had counted before and after. -/
structure Run where
  plan : Plan
  before : Nat
  answer : Except Error Statement
  after : Nat

/-- The runs of one backend over plans, after `count` look-ups. -/
def runs (root : String) : List Plan → Nat → List Run
  | [], _ => []
  | plan :: plans, count =>
      ⟨plan, count, (realize root plan count).1, (realize root plan count).2⟩ ::
        runs root plans (realize root plan count).2

namespace Run

/-- The numbers of the look-ups in what was answered. -/
def lookUps (run : Run) : List Nat :=
  match run.answer with
  | .ok statement => statement.lookUps
  | .error _ => []

/-- The aliases of the look-ups in what was answered. -/
def aliases (run : Run) : List String :=
  run.lookUps.map Condition.classifierAlias

/-- A run answers what a fresh backend answers, but counts look-ups on: each number in the
statement is larger by those counted before. -/
structure GoesOn (root : String) (run : Run) : Prop where
  answer : run.answer = (realize root run.plan 0).1.map (Statement.renumbered run.before)
  text : run.answer.map Statement.text =
    (realize root run.plan 0).1.map fun fresh => renumberedText run.before fresh.text
  parameters : run.answer.map Statement.parameters =
    (realize root run.plan 0).1.map Statement.parameters
  counted : run.after = run.before + lookUpCount root run.plan.needs
  given : ∀ statement, run.answer = .ok statement →
    statement.lookUps = List.range' (run.before + 1) (lookUpCount root run.plan.needs)

end Run

variable {plans : List Plan} {run : Run}

theorem map_plan_runs (root : String) (plans : List Plan) (count : Nat) :
    (runs root plans count).map Run.plan = plans := by
  induction plans generalizing count with
  | nil => rfl
  | cons plan plans ih => rw [runs, List.map_cons, ih]

/-- What a run answers and counts is what its plan is stated as. -/
theorem realize_of_mem_runs (member : run ∈ runs root plans count) :
    realize root run.plan run.before = (run.answer, run.after) := by
  induction plans generalizing count with
  | nil => contradiction
  | cons plan plans ih =>
      rcases List.mem_cons.mp member with rfl | further
      · rfl
      · exact ih further

/-- A run counts as many look-ups as classifiers were compared. -/
theorem after_of_realize (realized : realize root run.plan run.before = (run.answer, run.after)) :
    run.after = run.before + lookUpCount root run.plan.needs := by
  rw [← counts_realize run.plan run.before]
  exact (congrArg Prod.snd realized).symm

/-- The numbers of the look-ups that a run answers with are between its counts. -/
theorem lookUps_of_realize (realized : realize root run.plan run.before = (run.answer, run.after)) :
    run.lookUps.Pairwise (· < ·) ∧
      ∀ number ∈ run.lookUps, run.before < number ∧ number ≤ run.after := by
  rcases run with ⟨plan, before, cause | statement, after⟩
  · exact ⟨.nil, fun number member => absurd member List.not_mem_nil⟩
  · change realize root plan before = (.ok statement, after) at realized
    change statement.lookUps.Pairwise (· < ·) ∧
      ∀ number ∈ statement.lookUps, before < number ∧ number ≤ after
    obtain ⟨given, rfl, numbers⟩ := given_of_realize realized
    rw [numbers]
    refine ⟨List.pairwise_lt_range', ?_⟩
    intro number member
    have bounds := List.mem_range'_1.mp member
    omega

/-- The numbers of look-ups grow from one statement to the next. -/
theorem pairwise_lookUps (root : String) (plans : List Plan) (count : Nat) :
    ((runs root plans count).flatMap Run.lookUps).Pairwise (· < ·) ∧
      ∀ number ∈ (runs root plans count).flatMap Run.lookUps, count < number := by
  induction plans generalizing count with
  | nil => exact ⟨.nil, fun number member => absurd member List.not_mem_nil⟩
  | cons plan plans ih =>
      let run : Run := ⟨plan, count, (realize root plan count).1, (realize root plan count).2⟩
      have realized : realize root run.plan run.before = (run.answer, run.after) := rfl
      obtain ⟨grow, between⟩ := lookUps_of_realize realized
      obtain ⟨further, above⟩ := ih run.after
      have counted : count ≤ run.after := after_of_realize realized ▸ Nat.le_add_right _ _
      rw [runs, List.flatMap_cons, List.pairwise_append, List.forall_mem_append]
      refine ⟨⟨grow, further, ?_⟩, fun number member => (between number member).1, ?_⟩
      · intro number member other later
        exact Nat.lt_of_le_of_lt (between number member).2 (above other later)
      · intro number member
        exact Nat.lt_of_le_of_lt counted (above number member)

/-- A run for a plan with plain aliases goes on. -/
theorem goesOn_of_realize (realized : realize root run.plan run.before = (run.answer, run.after))
    (plain : ∀ selector ∈ run.plan.mentioned, Plain selector.aliasName) : run.GoesOn root := by
  have answer : run.answer = (realize root run.plan 0).1.map (Statement.renumbered run.before) := by
    have shifted := @realize_add root run.before run.plan 0
    rw [Nat.zero_add, realized] at shifted
    exact congrArg Prod.fst shifted
  refine ⟨answer, ?_, ?_, after_of_realize realized, ?_⟩
  · rw [answer]
    rcases fresh : realize root run.plan 0 with ⟨cause | statement, next⟩
    · change Except.error cause = Except.error cause
      rfl
    · exact congrArg Except.ok (Statement.renumbers (plain_of_realize fresh plain)).symm
  · rw [answer]
    cases (realize root run.plan 0).1 with
    | error cause =>
        change Except.error cause = Except.error cause
        rfl
    | ok statement => exact congrArg Except.ok (statement.parameters_renumbered run.before)
  · intro statement answered
    have counted := after_of_realize realized
    rw [answered] at realized
    obtain ⟨given, same, numbers⟩ := given_of_realize realized
    rw [numbers, Nat.add_left_cancel (same.symm.trans counted)]

/-- A backend can be used for one plan after another.  The aliases of look-ups in all its
statements are distinct, and differ from the aliases of the plans.  Each answer is that of a
fresh backend, with the same parameters or the same error, after each alias of a look-up got a
number larger by the look-ups that were counted before; and the count grows by the classifier
comparisons that were stated. -/
theorem runs_go_on (root : String) (plans : List Plan) (count : Nat)
    (compiled : ∀ plan ∈ plans, ∃ env query order, Query.plan env query order = .ok plan) :
    (runs root plans count).map Run.plan = plans ∧
    ((runs root plans count).flatMap Run.aliases).Nodup ∧
    (∀ name ∈ (runs root plans count).flatMap Run.aliases, ∀ plan ∈ plans,
      ∀ selector ∈ plan.mentioned, name ≠ selector.aliasName) ∧
    ∀ run ∈ runs root plans count, run.GoesOn root := by
  have plain : ∀ plan ∈ plans, ∀ selector ∈ plan.mentioned, Plain selector.aliasName := by
    intro plan member selector mentioned
    obtain ⟨env, query, order, made⟩ := compiled plan member
    exact plain_of_plan made mentioned
  have aliases : (runs root plans count).flatMap Run.aliases =
      ((runs root plans count).flatMap Run.lookUps).map Condition.classifierAlias :=
    List.map_flatMap.symm
  refine ⟨map_plan_runs root plans count, ?_, ?_, ?_⟩
  · have distinct := (pairwise_lookUps root plans count).1.nodup
    rw [aliases]
    exact distinct.map classifierAlias_injective
  · intro name given plan member selector mentioned same
    rw [aliases] at given
    obtain ⟨number, -, rfl⟩ := List.mem_map.mp given
    exact not_plain_classifierAlias number (same ▸ plain plan member selector mentioned)
  · intro run member
    have among : run.plan ∈ plans := by
      rw [← map_plan_runs root plans count]
      exact List.mem_map_of_mem member
    exact goesOn_of_realize (realize_of_mem_runs member) (plain run.plan among)

/-- `/s-ramp[s-ramp:classifiedByAnyOf(., 'a', 'b')]` -/
def classQuery : Query where
  path := .all
  predicate := some (.function (.sramp "classifiedByAnyOf" [.context, .literal "a", .literal "b"]))

/-- Terms are classes, and the live artifacts are below a path. -/
def classEnvironment (path : String) : Compile.Environment :=
  { Compile.Environment.bare.resolvingBy .ok with settings := { artifactRoot := path } }

/-- The plan for live artifacts below a path that have one of two classes. -/
def classPlan (path : String) : Plan :=
  let artifact : Selector := ⟨.artifact, "artifact1"⟩
  ⟨.single artifact,
    some (.and (.or (Query.classTest true artifact "a") (Query.classTest true artifact "b"))
      (.descendant artifact path)), artifact, none⟩

/-- Between two statements there is a plan that is refused after its classes were stated. -/
theorem runs_go_on_of_classPlan :
    let plans := [classPlan "/s-ramp", classPlan "/x", classPlan "/s-ramp"]
    (∀ plan ∈ plans, ∃ env query order, Query.plan env query order = .ok plan) ∧
    (runs "/s-ramp" plans 0).flatMap Run.aliases =
      ["classifier1", "classifier2", "classifier5", "classifier6"] ∧
    ((runs "/s-ramp" plans 0).flatMap Run.aliases).Nodup ∧
    ∀ run ∈ runs "/s-ramp" plans 0, run.GoesOn "/s-ramp" := by
  intro plans
  have made (path : String) (valid : path = "/s-ramp" ∨ path = "/x") :
      Query.plan (classEnvironment path) classQuery none = .ok (classPlan path) := by
    rcases valid with rfl | rfl <;> rfl
  have compiled : ∀ plan ∈ plans, ∃ env query order, Query.plan env query order = .ok plan := by
    intro plan member
    simp only [plans, List.mem_cons, List.not_mem_nil, or_false] at member
    rcases member with rfl | rfl | rfl
    · exact ⟨_, _, _, made "/s-ramp" (.inl rfl)⟩
    · exact ⟨_, _, _, made "/x" (.inr rfl)⟩
    · exact ⟨_, _, _, made "/s-ramp" (.inl rfl)⟩
  obtain ⟨-, distinct, -, goesOn⟩ := runs_go_on "/s-ramp" plans 0 compiled
  exact ⟨compiled, by decide +kernel, distinct, goesOn⟩

end Sramp.Relational
