import Sramp.Proofs.Boolean.Reading
import Sramp.Proofs.Plan.Formula
import Sramp.Relational.Backend

/-!
# Conditions of the relational store

The condition that a constraint is stated as is read as the constraint: with the same
connectives, and with one atom for each test and each subquery, in their order.  The
same holds inside a subquery, where the constraint stands after the correlation with
the row outside.
-/

namespace Sramp.Relational

open Boolean

/-- What an action answers when `count` look-ups have been stated before it. -/
def outcome {α : Type} (action : Numbered α) (count : Nat) : Except Error α × Nat :=
  action.run.run count

/-- An action succeeds with a value, and leaves a number of look-ups. -/
def Answers {α : Type} (action : Numbered α) (count : Nat) (value : α) (next : Nat) : Prop :=
  outcome action count = (.ok value, next)

section Answers

variable {α β : Type} {count next : Nat}

@[simp] theorem answers_pure {given value : α} :
    Answers (pure given) count value next ↔ value = given ∧ next = count := by
  have answer : outcome (pure given) count = (.ok given, count) := rfl
  simp only [Answers, answer, Prod.mk.injEq, Except.ok.injEq]
  exact and_congr eq_comm eq_comm

/-- What an action fails with, a sequence that it begins fails with. -/
theorem outcome_bind (first : Numbered α) (following : α → Numbered β) (count : Nat) :
    outcome (first >>= following) count =
      match outcome first count with
      | (.ok inner, between) => outcome (following inner) between
      | (.error cause, between) => (.error cause, between) := by
  simp only [outcome, ExceptT.run_bind, StateT.run_bind]
  generalize first.run.run count = reached
  rcases reached with ⟨_ | _, _⟩
  · rfl
  · rfl

@[simp] theorem answers_bind {first : Numbered α} {following : α → Numbered β} {value : β} :
    Answers (first >>= following) count value next ↔
      ∃ inner between, Answers first count inner between ∧
        Answers (following inner) between value next := by
  simp only [Answers, outcome_bind]
  rcases outcome first count with ⟨_ | given, between⟩
  · simp
  · simp [and_assoc]

@[simp] theorem answers_map {first : Numbered α} {image : α → β} {value : β} :
    Answers (image <$> first) count value next ↔
      ∃ inner, Answers first count inner next ∧ value = image inner := by
  rw [← bind_pure_comp, answers_bind]
  constructor
  · intro mapped
    rcases mapped with ⟨inner, _, answered, made⟩
    rcases answers_pure.mp made with ⟨rfl, rfl⟩
    exact ⟨inner, answered, rfl⟩
  · intro answered
    rcases answered with ⟨inner, answered, rfl⟩
    exact ⟨inner, next, answered, answers_pure.mpr ⟨rfl, rfl⟩⟩

@[simp] theorem answers_lift {result : Except Error α} {value : α} :
    Answers (liftM result) count value next ↔ result = .ok value ∧ next = count := by
  have answer : outcome (liftM result) count = (result, count) := rfl
  simp only [Answers, answer, Prod.mk.injEq]
  exact and_congr Iff.rfl eq_comm

@[simp] theorem not_answers_throw {error : Error} {value : α} :
    ¬Answers (throw error) count value next := by
  have answer : outcome (throw error : Numbered α) count = (.error error, count) := rfl
  simp [Answers, answer]

end Answers

section Parts

variable {root : String} {count next : Nat}

/-- The parts of which joined rows are stated. -/
theorem answers_join {left : Source} {right : Selector} {kind : JoinKind}
    {condition : JoinCondition} {joined : Rows} :
    Answers ((backend root).source (.join left right kind condition)) count joined next ↔
      ∃ rows, Answers ((backend root).source left) count rows next ∧
        ∃ first second, joinColumns condition = .ok (first, second) ∧
          joined = .join rows (.table right.kind right.aliasName) kind first second := by
  simp only [Backend.source, backend, answers_bind, answers_pure, answers_lift]
  constructor
  · intro stated
    rcases stated with
      ⟨rows, _, rowsRun, _, _, ⟨rfl, rfl⟩, ⟨first, second⟩, _, ⟨columns, rfl⟩, rfl, rfl⟩
    exact ⟨rows, rowsRun, first, second, columns, rfl⟩
  · intro parts
    rcases parts with ⟨rows, rowsRun, first, second, columns, rfl⟩
    exact ⟨rows, next, rowsRun, _, next, ⟨rfl, rfl⟩, (first, second), next, ⟨columns, rfl⟩,
      rfl, rfl⟩

/-- Two conditions are stated one after the other, and connected. -/
theorem answers_connected {first second : Numbered Condition}
    {connect : Condition → Condition → Condition} {condition : Condition} :
    Answers (do
      let left ← first
      let right ← second
      return connect left right) count condition next ↔
      ∃ left between right, Answers first count left between ∧
        Answers second between right next ∧ condition = connect left right := by
  simp only [answers_bind, answers_pure]
  constructor
  · intro stated
    rcases stated with ⟨left, between, leftRun, right, _, rightRun, rfl, rfl⟩
    exact ⟨left, between, right, leftRun, rightRun, rfl⟩
  · intro parts
    rcases parts with ⟨left, between, right, leftRun, rightRun, rfl⟩
    exact ⟨left, between, leftRun, right, next, rightRun, rfl, rfl⟩

/-- The parts of which a conjunction is stated. -/
theorem answers_and {left right : Constraint} {condition : Condition} :
    Answers ((backend root).constraint (.and left right)) count condition next ↔
      ∃ first between second, Answers ((backend root).constraint left) count first between ∧
        Answers ((backend root).constraint right) between second next ∧
        condition = .and first second :=
  answers_connected

/-- The parts of which a disjunction is stated. -/
theorem answers_or {left right : Constraint} {condition : Condition} :
    Answers ((backend root).constraint (.or left right)) count condition next ↔
      ∃ first between second, Answers ((backend root).constraint left) count first between ∧
        Answers ((backend root).constraint right) between second next ∧
        condition = .or first second :=
  answers_connected

/-- What is negated is stated first. -/
theorem answers_not {inner : Constraint} {condition : Condition} :
    Answers ((backend root).constraint (.not inner)) count condition next ↔
      ∃ negated, Answers ((backend root).constraint inner) count negated next ∧
        condition = .not negated := by
  simp only [Backend.constraint, backend, bind_pure_comp, answers_map]

/-- The parts of which a plan is stated. -/
theorem answers_realize {plan : Plan} {statement : Statement} :
    Answers ((backend root).realize plan) count statement next ↔
      ∃ rows first condition ordered,
        Answers ((backend root).source plan.source) count rows first ∧
        Answers (match plan.constraint with
          | none => pure none
          | some constraint => some <$> (backend root).constraint constraint)
          first condition next ∧
        order plan.ordering = .ok ordered ∧
        statement = ⟨plan.column.aliasName, rows, condition, ordered⟩ := by
  have finishes {rows : Rows} {condition : Option Condition} {first : Nat} :
      Answers ((backend root).statement rows condition plan.column plan.ordering) first statement
          next ↔
        ∃ ordered, order plan.ordering = .ok ordered ∧ first = next ∧
          statement = ⟨plan.column.aliasName, rows, condition, ordered⟩ := by
    simp only [backend, bind_pure_comp, answers_map, answers_lift]
    simp only [and_assoc, eq_comm]
  rcases plan with ⟨source, _ | constraint, column, ordering⟩
  · simp only [Backend.realize, answers_bind, answers_pure, finishes]
    grind
  · simp only [Backend.realize, answers_bind, answers_map, finishes]
    grind

end Parts

namespace Condition

/-- The Boolean structure of a condition, whose atoms are texts. -/
def formula : Condition → Formula String
  | .not inner => .not inner.formula
  | .and left right => .and left.formula right.formula
  | .or left right => .or left.formula right.formula
  | condition => .atom condition.text

theorem connective_formula (condition : Condition) :
    condition.formula.connective = condition.connective := by
  cases condition <;> rfl

/-- The text of a condition consists of the tokens of its formula. -/
theorem textOf_tokens (condition : Condition) :
    textOf (condition.formula.tokens false) = condition.text := by
  induction condition with
  | not inner ih =>
      simp [formula, Formula.tokens, text, textOf, Token.text, connective_formula, ih]
  | and left right leftIH rightIH =>
      simp [formula, Formula.tokens, text, textOf, Token.text, connective_formula, leftIH,
        rightIH, String.append_assoc]
  | or left right leftIH rightIH =>
      simp [formula, Formula.tokens, text, textOf, Token.text, connective_formula, leftIH,
        rightIH, String.append_assoc]
  | _ => simp [formula, Formula.tokens, textOf, Token.text]

end Condition

/-! ## Reading what is stated -/

/-- The texts that atoms are stated as.  A subquery with a constraint is one `EXISTS`;
its own condition says that the correlated columns are equal and that the constraint
holds, again with texts for the atoms of that. -/
inductive StatedAs (root : String) : Atom → String → Prop where
  | test {constraint : Constraint} {count next : Nat} {condition : Condition} :
      (∀ rows inner, constraint ≠ .existsRowWith rows inner) →
      Answers ((backend root).constraint constraint) count condition next →
      StatedAs root (.test constraint) condition.text
  | correlation {rows : Correlation} {correlated outer : Column} :
      column rows.correlated = .ok correlated → column rows.outer = .ok outer →
      StatedAs root (.correlation rows) (correlated.text ++ " = " ++ outer.text)
  | subquery {rows : Correlation} {inner : Constraint} {count next : Nat} {joined : Rows}
      {tokens : List Token} {texts : List String} :
      Answers ((backend root).source rows.source) count joined next →
      Says tokens (.and (.atom (.correlation rows)) inner.formula) texts →
      List.Forall₂ (StatedAs root) (.correlation rows :: inner.formula.atoms) texts →
      StatedAs root (.test (.existsRowWith rows inner))
        ("EXISTS (SELECT 1 FROM " ++ joined.text ++ " WHERE " ++ textOf tokens ++ ")")

variable {root : String} {count next : Nat} {condition : Condition}

/-- A comparison is stated as one atom, also where it looks up a classifier. -/
theorem formula_of_comparison {operand : Operand} {operator : Operator} {value : Value}
    (answered : Answers (comparison operand operator value) count condition next) :
    condition.formula = .atom condition.text := by
  rw [comparison] at answered
  split at answered
  next =>
      split at answered
      next =>
          simp only [answers_bind, answers_pure] at answered
          rcases answered with ⟨number, _, -, rfl, -⟩
          rfl
      next => exact absurd answered not_answers_throw
  next =>
      simp only [bind_pure_comp, answers_map, answers_lift] at answered
      rcases answered with ⟨place, -, rfl⟩
      rfl

theorem formula_of_oneOf {operand : Operand} {values : List Value}
    (stated : oneOf operand values = .ok condition) :
    condition.formula = .atom condition.text := by
  rw [oneOf] at stated
  split at stated
  next =>
      cases stated
      rfl
  next =>
      cases place : column operand with
      | error cause => simp [place, bind, Except.bind] at stated
      | ok found =>
          simp only [place, bind, Except.bind, pure, Except.pure, Except.ok.injEq] at stated
          subst stated
          rfl

theorem formula_of_descendant {selector : Selector} {path : String}
    (stated : descendant root selector path = .ok condition) :
    condition = .live selector.aliasName := by
  rw [descendant] at stated
  split at stated
  next => exact (Except.ok.inj stated).symm
  next => contradiction

/-- The parts of which an existence test is stated. -/
theorem answers_existence {subquery : Subquery} {rows : Numbered Rows}
    {inner : Numbered (Option Condition)} :
    Answers ((backend root).existence subquery rows inner) count condition next ↔
      ∃ joined first, Answers rows count joined first ∧
        ∃ correlated, column subquery.rows.correlated = .ok correlated ∧
        ∃ outer, column subquery.rows.outer = .ok outer ∧
        ∃ stated, Answers inner first stated next ∧
          condition = existence joined correlated outer stated := by
  simp only [backend, bind_pure_comp, answers_bind, answers_map, answers_lift]
  constructor
  · intro stated
    rcases stated with
      ⟨joined, first, rowsRun, correlated, _, ⟨left, rfl⟩, outer, _, ⟨right, rfl⟩, stated,
        innerRun, rfl⟩
    exact ⟨joined, _, rowsRun, correlated, left, outer, right, stated, innerRun, rfl⟩
  · intro tied
    rcases tied with
      ⟨joined, first, rowsRun, correlated, left, outer, right, stated, innerRun, rfl⟩
    exact ⟨joined, first, rowsRun, correlated, _, ⟨left, rfl⟩, outer, _, ⟨right, rfl⟩, stated,
      innerRun, rfl⟩

/-- Inside a subquery the constraint stands after the correlation. -/
theorem statedAs_subquery {rows : Correlation} {inner : Constraint} {stated : Condition}
    {joined : Rows} {correlated outer : Column}
    (rowsRun : Answers ((backend root).source rows.source) count joined next)
    (left : column rows.correlated = .ok correlated) (right : column rows.outer = .ok outer)
    (same : Formula.Matches (StatedAs root) inner.formula stated.formula) :
    StatedAs root (.test (.existsRowWith rows inner))
      (Condition.existsRowWith joined correlated outer stated).text := by
  have correlation : StatedAs root (.correlation rows) _ := .correlation left right
  have text : (Condition.existsRowWith joined correlated outer stated).text =
      "EXISTS (SELECT 1 FROM " ++ joined.text ++ " WHERE " ++
        textOf (.atom (correlated.text ++ " = " ++ outer.text) :: .and ::
          enclosedTokens (some .and) stated.formula.connective
            (stated.formula.tokens false)) ++ ")" := by
    simp only [Condition.text, textOf, Token.text, textOf_enclosedTokens,
      Condition.textOf_tokens, Condition.connective_formula]
    unfold Condition.existsText
    simp only [String.append_assoc]
  rw [text]
  exact .subquery rowsRun (says_conjoined false correlation same)
    (.cons correlation same.atoms)

/-- A constraint is stated as a condition with the same connectives. -/
theorem matches_of_answers (constraint : Constraint)
    (answered : Answers ((backend root).constraint constraint) count condition next) :
    Formula.Matches (StatedAs root) constraint.formula condition.formula := by
  induction constraint generalizing count condition next with
  | and left right leftIH rightIH =>
      rcases answers_and.mp answered with ⟨first, _, second, leftRun, rightRun, rfl⟩
      exact .and (leftIH leftRun) (rightIH rightRun)
  | or left right leftIH rightIH =>
      rcases answers_or.mp answered with ⟨first, _, second, leftRun, rightRun, rfl⟩
      exact .or (leftIH leftRun) (rightIH rightRun)
  | not inner ih =>
      rcases answers_not.mp answered with ⟨inner', run, rfl⟩
      exact .not (ih run)
  | comparison operand operator value =>
      rw [formula_of_comparison answered]
      exact .atom (.test (by simp) answered)
  | present operand =>
      have whole : condition.formula = .atom condition.text := by
        simp only [Backend.constraint, backend, bind_pure_comp, answers_map, answers_lift]
          at answered
        rcases answered with ⟨place, -, rfl⟩
        rfl
      rw [whole]
      exact .atom (.test (by simp) answered)
  | oneOf operand values =>
      rw [formula_of_oneOf (answers_lift.mp answered).1]
      exact .atom (.test (by simp) answered)
  | descendant selector path =>
      obtain rfl := formula_of_descendant (answers_lift.mp answered).1
      exact .atom (.test (by simp) answered)
  | existsRow rows =>
      have whole : condition.formula = .atom condition.text := by
        rcases answers_existence.mp answered with
          ⟨joined, _, -, correlated, -, outer, -, stated, run, rfl⟩
        rcases answers_pure.mp run with ⟨rfl, -⟩
        rfl
      rw [whole]
      exact .atom (.test (by simp) answered)
  | existsRowWith rows inner ih =>
      rcases answers_existence.mp answered with
        ⟨joined, _, rowsRun, correlated, left, outer, right, stated, run, rfl⟩
      rcases answers_map.mp run with ⟨inner', innerRun, rfl⟩
      exact .atom (statedAs_subquery rowsRun left right (ih innerRun))

/-- Tokens of which the text of a condition consists, and which say a constraint with
the texts that its atoms are stated as. -/
def Condition.Spells (root : String) (condition : Condition) (tokens : List Token)
    (constraint : Constraint) : Prop :=
  textOf tokens = condition.text ∧
    ∃ texts, Says tokens constraint.formula texts ∧
      List.Forall₂ (StatedAs root) constraint.formula.atoms texts

/-- What a constraint is stated as spells it. -/
theorem spells_of_answers {constraint : Constraint}
    (answered : Answers ((backend root).constraint constraint) count condition next) :
    ∃ tokens, condition.Spells root tokens constraint := by
  have same := matches_of_answers constraint answered
  exact ⟨_, condition.textOf_tokens, _, says_tokens false same, same.atoms⟩

end Sramp.Relational
