import Sramp.Proofs.Relational.Needs

/-!
# The columns of a statement

A statement names the columns that its plan takes from the store, and no others.  So the
operands of a stated plan belong to the schema, except where no column is looked for: whether
a looked up classifier, or an operand among no values, belongs to a kind of nodes that has
the property, the store does not ask.
-/

namespace Sramp

/-- The operands that a join condition compares. -/
def JoinCondition.operands : JoinCondition → List Operand
  | .equal left right => [left, right]
  | .child _ _ => []

/-- The operands of the join conditions of a source. -/
def Source.operands : Source → List Operand
  | .single _ => []
  | .join left _ _ condition => left.operands ++ condition.operands

/-- The operands of the rows of a subquery, and those that tie them. -/
def Correlation.operands (rows : Correlation) : List Operand :=
  rows.source.operands ++ [rows.correlated, rows.outer]

/-- The operands of a constraint at any depth. -/
def Constraint.operands : Constraint → List Operand
  | .and left right | .or left right => left.operands ++ right.operands
  | .not inner => inner.operands
  | .comparison operand _ _ | .present operand | .oneOf operand _ => [operand]
  | .descendant _ _ => []
  | .existsRow rows => rows.operands
  | .existsRowWith rows condition => rows.operands ++ condition.operands

/-- The operands of a plan at any depth. -/
def Plan.operands (plan : Plan) : List Operand :=
  plan.source.operands ++ (plan.constraint.map Constraint.operands).getD [] ++
    plan.ordering.toList.map (·.operand)

namespace Relational.Need

/-- The columns in which the store has it. -/
def columns : Need → List Column
  | .column operand =>
      (columnName? operand.selector.kind operand.property).toList.map
        (⟨operand.selector.aliasName, ·⟩)
  | .classifiers operand _ => [⟨operand.selector.aliasName, "id"⟩]
  | .nothing _ => []
  | .key child parent =>
      (parentKey? child.kind parent.kind).toList.flatMap fun key =>
        [⟨child.aliasName, key⟩, ⟨parent.aliasName, "id"⟩]
  | .liveness selector _ => [⟨selector.aliasName, "trashed"⟩]

/-- The operand it is needed for. -/
def operand? : Need → Option Operand
  | .column operand | .classifiers operand _ | .nothing operand => some operand
  | .key _ _ | .liveness _ _ => none

/-- The operand, where it is stated without looking for its column. -/
def unchecked? : Need → Option Operand
  | .classifiers operand operator => if operator = .eq then some operand else none
  | .nothing operand => some operand
  | .column _ | .key _ _ | .liveness _ _ => none

end Relational.Need

open Relational

/-- The operands of a plan that are stated without looking for their columns. -/
def Plan.unchecked (plan : Plan) : List Operand :=
  plan.needs.filterMap Need.unchecked?

theorem JoinCondition.operands_eq (condition : JoinCondition) :
    condition.operands = condition.needs.filterMap Need.operand? := by
  cases condition <;> rfl

theorem Source.operands_eq (source : Source) :
    source.operands = source.needs.filterMap Need.operand? := by
  induction source with
  | single selector => rfl
  | join left right kind condition ih =>
      rw [operands, needs, List.filterMap_append, ih, condition.operands_eq]

theorem Correlation.operands_eq (rows : Correlation) :
    rows.operands = rows.needs.filterMap Need.operand? := by
  rw [operands, needs, List.filterMap_append, rows.source.operands_eq]
  rfl

@[simp] theorem Operand.operand?_need (operand : Operand) (operator : Operator) :
    (operand.need operator).operand? = some operand := by
  unfold need
  split <;> rfl

theorem Constraint.operands_eq (constraint : Constraint) :
    constraint.operands = constraint.needs.filterMap Need.operand? := by
  induction constraint with
  | and left right leftIH rightIH | or left right leftIH rightIH =>
      rw [operands, needs, List.filterMap_append, leftIH, rightIH]
  | not inner ih => exact ih
  | comparison operand operator value => simp [operands, needs]
  | present operand => rfl
  | oneOf operand values =>
      simp only [operands, needs]
      split <;> rfl
  | descendant selector path => rfl
  | existsRow rows => exact rows.operands_eq
  | existsRowWith rows condition ih =>
      rw [operands, needs, List.filterMap_append, rows.operands_eq, ih]

/-- The operands of a plan are those that it takes something from the store for. -/
theorem Plan.operands_eq (plan : Plan) :
    plan.operands = plan.needs.filterMap Need.operand? := by
  rcases plan with ⟨source, constraint, column, ordering⟩
  cases constraint <;> cases ordering <;>
    simp [operands, needs, source.operands_eq, Constraint.operands_eq, Need.operand?]

namespace Relational

open Compile

variable {root : String}

/-- The columns of joined rows. -/
def Rows.columns : Rows → List Column
  | .table _ _ => []
  | .join left _ _ first second => left.columns ++ [first, second]

/-- The columns of a condition, other than those of the classifiers' tables. -/
def Condition.columns : Condition → List Column
  | .comparison column _ _ | .present column | .oneOf column _ => [column]
  | .never => []
  | .live aliasName => [⟨aliasName, "trashed"⟩]
  | .classified _ _ artifact _ => [⟨artifact, "id"⟩]
  | .existsRow rows correlated outer => rows.columns ++ [correlated, outer]
  | .existsRowWith rows correlated outer inner =>
      rows.columns ++ [correlated, outer] ++ inner.columns
  | .not inner => inner.columns
  | .and left right | .or left right => left.columns ++ right.columns

/-- The columns of a statement in the order of its text. -/
def Statement.columns (statement : Statement) : List Column :=
  statement.rows.columns ++ (statement.condition.map Condition.columns).getD [] ++
    statement.order.toList.map (·.column)

variable {count next : Nat}

theorem columns_of_column {operand : Operand} {place : Column}
    (found : column operand = .ok place) : (Need.column operand).columns = [place] := by
  unfold column at found
  split at found
  next name named =>
      cases found
      rw [Need.columns, named]
      rfl
  next => contradiction

theorem columns_of_joinColumns {condition : JoinCondition} {first second : Column}
    (found : joinColumns condition = .ok (first, second)) :
    condition.needs.flatMap Need.columns = [first, second] := by
  cases condition with
  | equal left right =>
      rw [joinColumns, exceptBind_eq_ok] at found
      rcases found with ⟨_, leftFound, found⟩
      rcases exceptBind_eq_ok.mp found with ⟨_, rightFound, made⟩
      cases made
      simp [JoinCondition.needs, columns_of_column leftFound, columns_of_column rightFound]
  | child lower upper =>
      rw [joinColumns] at found
      split at found
      next key keyed =>
          cases found
          simp [JoinCondition.needs, Need.columns, keyed]
      next => contradiction

theorem columns_of_source {source : Source} {rows : Rows}
    (answered : Answers ((backend root).source source) count rows next) :
    rows.columns = source.needs.flatMap Need.columns := by
  induction source generalizing rows with
  | single selector =>
      rcases answers_pure.mp answered with ⟨rfl, -⟩
      rfl
  | join left right kind condition ih =>
      rcases answers_join.mp answered with ⟨before, beforeRun, first, second, found, rfl⟩
      rw [Rows.columns, Source.needs, List.flatMap_append, ih beforeRun,
        columns_of_joinColumns found]

theorem columns_of_comparison {operand : Operand} {operator : Operator} {value : Value}
    {condition : Condition} (answered : Answers (comparison operand operator value) count
      condition next) :
    condition.columns = (operand.need operator).columns := by
  unfold comparison at answered
  split at answered
  next normalized classified =>
      rw [need_of_classifier classified]
      split at answered
      next =>
          simp only [answers_bind, answers_pure] at answered
          rcases answered with ⟨number, _, -, rfl, -⟩
          rfl
      next => exact absurd answered not_answers_throw
  next single =>
      rw [need_of_ne_classifier single]
      simp only [bind_pure_comp, answers_map, answers_lift] at answered
      rcases answered with ⟨place, ⟨found, -⟩, rfl⟩
      exact (columns_of_column found).symm

theorem columns_of_oneOf {operand : Operand} {values : List Value} {condition : Condition}
    (stated : oneOf operand values = .ok condition) :
    condition.columns =
      (if values.isEmpty then Need.nothing operand else .column operand).columns := by
  unfold oneOf at stated
  split at stated
  next empty =>
      cases stated
      rw [if_pos empty]
      rfl
  next some =>
      rcases exceptBind_eq_ok.mp stated with ⟨place, found, made⟩
      cases made
      rw [if_neg some, columns_of_column found]
      rfl

/-- The columns of a condition are those that its constraint needs. -/
theorem columns_of_constraint {constraint : Constraint} {condition : Condition}
    (answered : Answers ((backend root).constraint constraint) count condition next) :
    condition.columns = constraint.needs.flatMap Need.columns := by
  induction constraint generalizing count condition next with
  | and left right leftIH rightIH =>
      rcases answers_and.mp answered with ⟨first, _, second, leftRun, rightRun, rfl⟩
      rw [Condition.columns, Constraint.needs, List.flatMap_append, leftIH leftRun,
        rightIH rightRun]
  | or left right leftIH rightIH =>
      rcases answers_or.mp answered with ⟨first, _, second, leftRun, rightRun, rfl⟩
      rw [Condition.columns, Constraint.needs, List.flatMap_append, leftIH leftRun,
        rightIH rightRun]
  | not inner ih =>
      rcases answers_not.mp answered with ⟨negated, run, rfl⟩
      rw [Condition.columns, Constraint.needs, ih run]
  | comparison operand operator value =>
      rw [Constraint.needs, List.flatMap_singleton]
      exact columns_of_comparison answered
  | present operand =>
      simp only [Backend.constraint, backend, bind_pure_comp, answers_map, answers_lift]
        at answered
      rcases answered with ⟨place, ⟨found, -⟩, rfl⟩
      rw [Constraint.needs, List.flatMap_singleton, columns_of_column found]
      rfl
  | oneOf operand values =>
      rw [Constraint.needs, List.flatMap_singleton]
      exact columns_of_oneOf (answers_lift.mp answered).1
  | descendant selector path =>
      obtain rfl := formula_of_descendant (answers_lift.mp answered).1
      rfl
  | existsRow rows =>
      rcases answers_existence.mp answered with
        ⟨joined, _, rowsRun, correlated, left, outer, right, stated, run, rfl⟩
      rcases answers_pure.mp run with ⟨rfl, -⟩
      simp [existence, Condition.columns, Constraint.needs, Correlation.needs,
        columns_of_source rowsRun, columns_of_column left, columns_of_column right]
  | existsRowWith rows inner ih =>
      rcases answers_existence.mp answered with
        ⟨joined, _, rowsRun, correlated, left, outer, right, stated, run, rfl⟩
      rcases answers_map.mp run with ⟨inner', innerRun, rfl⟩
      simp [existence, Condition.columns, Constraint.needs, Correlation.needs,
        columns_of_source rowsRun, columns_of_column left, columns_of_column right, ih innerRun]

/-- The columns of a statement are those that its plan needs. -/
theorem columns_of_realize {plan : Plan} {statement : Statement}
    (stated : realize root plan count = (.ok statement, next)) :
    statement.columns = plan.needs.flatMap Need.columns := by
  rcases plan with ⟨source, constraint, result, ordering⟩
  rcases answers_realize.mp stated with
    ⟨rows, first, condition, ordered, rowsRun, conditionRun, sorted, rfl⟩
  have constrained : (condition.map Condition.columns).getD [] =
      ((constraint.map Constraint.needs).getD []).flatMap Need.columns := by
    cases constraint with
    | none =>
        rcases answers_pure.mp conditionRun with ⟨rfl, -⟩
        rfl
    | some constraint =>
        rcases answers_map.mp conditionRun with ⟨condition, run, rfl⟩
        exact columns_of_constraint run
  have last : ordered.toList.map (·.column) =
      (ordering.toList.map (Need.column ·.operand)).flatMap Need.columns := by
    cases ordering with
    | none =>
        cases sorted
        rfl
    | some request =>
        rcases exceptBind_eq_ok.mp sorted with ⟨place, found, made⟩
        cases made
        simp [columns_of_column found]
  simp only [Statement.columns, Plan.needs, List.flatMap_append, columns_of_source rowsRun,
    constrained, last]
/-! ## Operands outside the schema -/

/-- Where the store has what is needed for an operand, it has the property, or does not look
for it. -/
theorem Need.inSchema_or_unchecked {need : Need} {operand : Operand}
    (met : need.refusal? root = none) (takes : need.operand? = some operand) :
    operand.InSchema ∨ need.unchecked? = some operand := by
  cases need with
  | column place =>
      cases takes
      exact .inl (refusal?_column_iff.mp met).1
  | classifiers place operator =>
      cases takes
      rw [refusal?] at met
      split at met
      next equality => exact .inr (if_pos equality)
      next => contradiction
  | nothing place => exact .inr takes
  | key child parent => contradiction
  | liveness selector path => contradiction

/-- What is not looked for is an operand all the same. -/
theorem Need.operand?_of_unchecked {need : Need} {operand : Operand}
    (unchecked : need.unchecked? = some operand) : need.operand? = some operand := by
  cases need with
  | classifiers place operator =>
      rw [unchecked?] at unchecked
      split at unchecked
      next => exact unchecked
      next => contradiction
  | nothing place => exact unchecked
  | column place => contradiction
  | key child parent => contradiction
  | liveness selector path => contradiction

end Relational

theorem Plan.unchecked_subset_operands (plan : Plan) : plan.unchecked ⊆ plan.operands := by
  intro operand member
  rw [plan.operands_eq, List.mem_filterMap]
  rcases List.mem_filterMap.mp member with ⟨need, needed, unchecked⟩
  exact ⟨need, needed, Need.operand?_of_unchecked unchecked⟩

namespace Relational

variable {root : String} {plan : Plan}

/-- If the store has all that a plan needs, then its operands are in the schema but for those
that the store does not look for. -/
theorem inSchema_or_unchecked (met : plan.needs.findSome? (Need.refusal? root) = none)
    {operand : Operand} (member : operand ∈ plan.operands) :
    operand.InSchema ∨ operand ∈ plan.unchecked := by
  rw [plan.operands_eq] at member
  rcases List.mem_filterMap.mp member with ⟨need, needed, takes⟩
  rcases Need.inSchema_or_unchecked (List.findSome?_eq_none_iff.mp met need needed) takes with
    inSchema | unchecked
  · exact .inl inSchema
  · exact .inr (List.mem_filterMap.mpr ⟨need, needed, unchecked⟩)

/-- A plan is refused for the first thing that the store does not have, and otherwise stated
with the columns that it needs.  The store has a column for every operand in the schema that
is not about classifiers, and for no other.  So every operand of a stated plan is in the
schema, except where its classifiers are looked up or there are no values that it could be
among; a plan with any other operand outside the schema is refused. -/
theorem realize_inSchema (root : String) (plan : Plan) (count : Nat) :
    (∀ operand : Operand, (Need.column operand).refusal? root = none ↔
      operand.InSchema ∧ ∀ normalized, operand.property ≠ .classifier normalized) ∧
    (∀ capability, plan.needs.findSome? (Need.refusal? root) = some capability →
      ∃ next, realize root plan count = (.error (gap capability), next)) ∧
    (plan.needs.findSome? (Need.refusal? root) = none →
      ∃ statement next, realize root plan count = (.ok statement, next)) ∧
    (∀ statement next, realize root plan count = (.ok statement, next) →
      statement.columns = plan.needs.flatMap Need.columns ∧
      (∀ operand ∈ plan.operands, operand.InSchema ∨ operand ∈ plan.unchecked) ∧
      ((∀ operand ∈ plan.operands, operand.InSchema) ↔
        ∀ operand ∈ plan.unchecked, operand.InSchema)) ∧
    ∀ operand ∈ plan.operands, ¬operand.InSchema → operand ∉ plan.unchecked →
      ∃ capability next, realize root plan count = (.error (gap capability), next) := by
  refine ⟨fun _ => Need.refusal?_column_iff, fun _ refused => realize_of_refusal refused count,
    fun met => exists_realize_of_met met count, ?_, ?_⟩
  · intro statement next stated
    have checked (operand : Operand) (member : operand ∈ plan.operands) :
        operand.InSchema ∨ operand ∈ plan.unchecked :=
      inSchema_or_unchecked (met_of_realize stated) member
    refine ⟨columns_of_realize stated, checked, ?_, ?_⟩
    · intro all operand unchecked
      exact all operand (plan.unchecked_subset_operands unchecked)
    · intro others operand member
      exact (checked operand member).elim id (others operand)
  · intro operand member outside looked
    cases refused : plan.needs.findSome? (Need.refusal? root) with
    | some capability => exact ⟨capability, realize_of_refusal refused count⟩
    | none =>
        rcases inSchema_or_unchecked refused member with inSchema | unchecked
        · exact absurd inSchema outside
        · exact absurd unchecked looked

/-- Artifacts with a relationship that satisfies a condition. -/
def relationshipPlan (test : Selector → Constraint) : Plan where
  source := .joinChild (.single ⟨.artifact, "artifact1"⟩) ⟨.relationship, "relationship1"⟩
    ⟨.artifact, "artifact1"⟩
  constraint := some (test ⟨.relationship, "relationship1"⟩)
  column := ⟨.artifact, "artifact1"⟩
  ordering := none

/-- A node has a classifier. -/
def classifierTest (selector : Selector) : Constraint :=
  .equals selector (.classifier true) (.string "x")

/-- The name of a node is one of some values. -/
def nameTest (values : List Value) (selector : Selector) : Constraint :=
  .oneOf (selector.operand (.core .name)) values

/-- Relationships have neither classifiers nor a name.  Still their classifiers are looked up
as if they were artifacts, and their name may be required to be among no values, while it is
refused among some values, and their classifiers where they are only to be present. -/
theorem exists_realize_outside_schema :
    (∃ statement next, realize "/s-ramp" (relationshipPlan classifierTest) 0 =
        (.ok statement, next) ∧
      statement.columns = [⟨"relationship1", "owner_id"⟩, ⟨"artifact1", "id"⟩,
        ⟨"relationship1", "id"⟩]) ∧
    (∃ operand ∈ (relationshipPlan classifierTest).operands, ¬operand.InSchema) ∧
    (∃ statement next, realize "/s-ramp" (relationshipPlan (nameTest [])) 0 =
      (.ok statement, next)) ∧
    (∃ operand ∈ (relationshipPlan (nameTest [])).operands, ¬operand.InSchema) ∧
    (∀ value, ∃ capability, realize "/s-ramp" (relationshipPlan (nameTest [value])) 0 =
      (.error (gap capability), 0)) ∧
    ∃ capability, realize "/s-ramp" (relationshipPlan fun relationship =>
      .present (relationship.operand (.classifier true))) 0 = (.error (gap capability), 0) := by
  refine ⟨⟨_, 1, rfl, rfl⟩, ⟨_, List.mem_singleton_self _, ?_⟩, ⟨_, 0, rfl⟩,
    ⟨_, List.mem_singleton_self _, ?_⟩, fun value => ⟨_, rfl⟩, ⟨_, rfl⟩⟩
  · rintro ⟨⟩
    contradiction
  · rintro ⟨⟩
    contradiction

end Relational

end Sramp
