import Sramp.Hierarchical.Backend
import Sramp.Proofs.Boolean.Reading
import Sramp.Proofs.Compile.Run
import Sramp.Proofs.Plan.Formula

/-!
# Conditions of the hierarchical store

The condition that a constraint is stated as is read as the constraint: with the same
connectives, and with one atom for each test and each subquery, in their order.  The
constraint of a subquery is the whole condition of the second query, unless the
subquery is a test of an entry, which is an atom without a query of its own.
-/

namespace Sramp.Hierarchical

open Boolean Compile

namespace Condition

/-- The Boolean structure of a condition, whose atoms are texts. -/
def formula : Condition → Formula String
  | .not inner => .not inner.formula
  | .and left right => .and left.formula right.formula
  | .or left right => .or left.formula right.formula
  | condition => .atom condition.text

theorem connective_formula (condition : Condition) :
    condition.formula.connective = condition.connective := by
  cases condition <;> rfl

theorem text_not (inner : Condition) :
    (Condition.not inner).text = "NOT (" ++ inner.text ++ ")" := rfl

theorem text_and (left right : Condition) :
    (Condition.and left right).text = enclosed (some .and) left.connective left.text ++ " AND "
      ++ enclosed (some .and) right.connective right.text := rfl

theorem text_or (left right : Condition) :
    (Condition.or left right).text = enclosed (some .or) left.connective left.text ++ " OR "
      ++ enclosed (some .or) right.connective right.text := rfl

/-- The text of a condition consists of the tokens of its formula. -/
theorem textOf_tokens (condition : Condition) :
    textOf (condition.formula.tokens true) = condition.text := by
  induction condition with
  | not inner ih =>
      rw [text_not]
      simp [formula, Formula.tokens, textOf, Token.text, ih, ← String.append_assoc]
  | and left right leftIH rightIH =>
      rw [text_and]
      simp [formula, Formula.tokens, textOf, Token.text, connective_formula, leftIH, rightIH,
        String.append_assoc]
  | or left right leftIH rightIH =>
      rw [text_or]
      simp [formula, Formula.tokens, textOf, Token.text, connective_formula, leftIH, rightIH,
        String.append_assoc]
  | _ => simp [formula, Formula.tokens, textOf, Token.text]

end Condition

/-- The texts that atoms are stated as.  A subquery with a constraint selects in a
second query, whose condition says the constraint, again with texts for the atoms of
that; a test of an entry is stated without a second query. -/
inductive StatedAs : Atom → String → Prop where
  | test {constraint : Constraint} {condition : Condition} :
      (∀ rows inner, constraint = .existsRowWith rows inner →
        (EntryTest.ofSubquery? ⟨rows, some inner⟩).isSome) →
      backend.constraint constraint = .ok condition →
      StatedAs (.test constraint) condition.text
  | subquery {rows : Correlation} {inner : Constraint} {joined : Rows}
      {outer selected : NodeProperty} {tokens : List Token} {texts : List String} :
      EntryTest.ofSubquery? ⟨rows, some inner⟩ = none →
      backend.source rows.source = .ok joined →
      nodeProperty rows.outer = .ok outer → nodeProperty rows.correlated = .ok selected →
      Says tokens inner.formula texts →
      List.Forall₂ StatedAs inner.formula.atoms texts →
      StatedAs (.test (.existsRowWith rows inner))
        (outer.text ++ " IN (SELECT " ++ selected.text ++ " FROM " ++ joined.text ++ " WHERE "
          ++ textOf tokens ++ ")")

variable {condition : Condition}

/-- The constraint of a subquery is the condition of the second query. -/
theorem statedAs_subquery {rows : Correlation} {inner : Constraint} {stated : Condition}
    {joined : Rows} {outer selected : NodeProperty}
    (other : EntryTest.ofSubquery? ⟨rows, some inner⟩ = none)
    (source : backend.source rows.source = .ok joined)
    (left : nodeProperty rows.outer = .ok outer)
    (right : nodeProperty rows.correlated = .ok selected)
    (same : Formula.Matches StatedAs inner.formula stated.formula) :
    StatedAs (.test (.existsRowWith rows inner))
      (Condition.withinWhere outer selected joined stated).text := by
  have whole := StatedAs.subquery other source left right (says_tokens true same) same.atoms
  rw [Condition.textOf_tokens] at whole
  exact whole

/-- A test of an entry is stated as one atom. -/
theorem formula_of_state {test : EntryTest} {aliasName : String}
    (stated : test.state aliasName = .ok condition) :
    condition.formula = .atom condition.text := by
  rw [EntryTest.state] at stated
  split at stated
  next => contradiction
  next =>
      dsimp only at stated
      split at stated
      next =>
          cases stated
          rfl
      next =>
          cases stated
          rfl

theorem formula_of_oneOf {operand : Operand} {values : List Value}
    (stated : oneOf operand values = .ok condition) :
    condition.formula = .atom condition.text := by
  rw [oneOf] at stated
  split at stated
  next =>
      cases stated
      rfl
  next =>
      rcases exceptBind_eq_ok.mp stated with ⟨place, -, made⟩
      cases made
      rfl

/-- The parts of which an existence test is stated, unless it tests an entry. -/
theorem existence_eq_ok {subquery : Subquery} {rows : Except Error Rows}
    {inner : Except Error (Option Condition)}
    (other : EntryTest.ofSubquery? subquery = none) :
    existence subquery rows inner = .ok condition ↔
      ∃ joined, rows = .ok joined ∧
        ∃ outer, nodeProperty subquery.rows.outer = .ok outer ∧
        ∃ selected, nodeProperty subquery.rows.correlated = .ok selected ∧
        ∃ stated, inner = .ok stated ∧ condition = within outer selected joined stated := by
  simp only [existence, other, exceptBind_eq_ok]
  constructor
  · intro stated
    rcases stated with
      ⟨joined, rowsStated, outer, left, selected, right, inner', innerStated, made⟩
    exact ⟨joined, rowsStated, outer, left, selected, right, inner', innerStated,
      (Except.ok.inj made).symm⟩
  · intro tied
    rcases tied with
      ⟨joined, rowsStated, outer, left, selected, right, inner', innerStated, rfl⟩
    exact ⟨joined, rowsStated, outer, left, selected, right, inner', innerStated, rfl⟩

/-- Two conditions are stated one after the other, and connected. -/
theorem connected_eq_ok {first second : Except Error Condition}
    {connect : Condition → Condition → Condition} :
    (do
      let left ← first
      let right ← second
      return connect left right) = .ok condition ↔
      ∃ left right, first = .ok left ∧ second = .ok right ∧ condition = connect left right := by
  simp only [exceptBind_eq_ok]
  constructor
  · intro stated
    rcases stated with ⟨left, leftStated, right, rightStated, made⟩
    exact ⟨left, right, leftStated, rightStated, (Except.ok.inj made).symm⟩
  · intro parts
    rcases parts with ⟨left, right, leftStated, rightStated, rfl⟩
    exact ⟨left, leftStated, right, rightStated, rfl⟩

/-- The parts of which a conjunction is stated. -/
theorem and_eq_ok {left right : Constraint} :
    backend.constraint (.and left right) = .ok condition ↔
      ∃ first second, backend.constraint left = .ok first ∧
        backend.constraint right = .ok second ∧ condition = .and first second :=
  connected_eq_ok

/-- The parts of which a disjunction is stated. -/
theorem or_eq_ok {left right : Constraint} :
    backend.constraint (.or left right) = .ok condition ↔
      ∃ first second, backend.constraint left = .ok first ∧
        backend.constraint right = .ok second ∧ condition = .or first second :=
  connected_eq_ok

/-- What is negated is stated first. -/
theorem not_eq_ok {inner : Constraint} :
    backend.constraint (.not inner) = .ok condition ↔
      ∃ negated, backend.constraint inner = .ok negated ∧ condition = .not negated := by
  constructor
  · intro stated
    rcases exceptBind_eq_ok.mp stated with ⟨negated, innerStated, made⟩
    cases made
    exact ⟨negated, innerStated, rfl⟩
  · intro parts
    rcases parts with ⟨negated, innerStated, rfl⟩
    exact exceptBind_eq_ok.mpr ⟨negated, innerStated, rfl⟩

/-- The parts of which a plan is stated. -/
theorem realize_eq_ok {plan : Plan} {statement : Statement} :
    realize plan = .ok statement ↔
      ∃ rows condition ordered, backend.source plan.source = .ok rows ∧
        (match plan.constraint with
          | none => Except.ok none
          | some constraint => some <$> backend.constraint constraint) = .ok condition ∧
        order plan.ordering = .ok ordered ∧
        statement = ⟨plan.column.aliasName, rows, condition, ordered⟩ := by
  have finishes {rows : Rows} {condition : Option Condition} :
      backend.statement rows condition plan.column plan.ordering = .ok statement ↔
        ∃ ordered, order plan.ordering = .ok ordered ∧
          statement = ⟨plan.column.aliasName, rows, condition, ordered⟩ := by
    simp only [backend, exceptBind_eq_ok, pure, Except.pure, Except.ok.injEq]
    simp only [eq_comm]
  rcases plan with ⟨source, _ | constraint, column, ordering⟩
  · simp only [realize, Backend.realize, exceptBind_eq_ok, finishes]
    simp [pure, Except.pure]
  · simp only [realize, Backend.realize, exceptBind_eq_ok, finishes]
    grind

/-- A constraint is stated as a condition with the same connectives. -/
theorem matches_of_eq_ok (constraint : Constraint)
    (stated : backend.constraint constraint = .ok condition) :
    Formula.Matches StatedAs constraint.formula condition.formula := by
  induction constraint generalizing condition with
  | and left right leftIH rightIH =>
      rcases and_eq_ok.mp stated with ⟨first, second, leftStated, rightStated, rfl⟩
      exact .and (leftIH leftStated) (rightIH rightStated)
  | or left right leftIH rightIH =>
      rcases or_eq_ok.mp stated with ⟨first, second, leftStated, rightStated, rfl⟩
      exact .or (leftIH leftStated) (rightIH rightStated)
  | not inner ih =>
      rcases not_eq_ok.mp stated with ⟨inner', innerStated, rfl⟩
      exact .not (ih innerStated)
  | comparison operand operator value =>
      have whole : condition.formula = .atom condition.text := by
        rcases exceptBind_eq_ok.mp stated with ⟨place, -, made⟩
        cases made
        rfl
      rw [whole]
      exact .atom (.test (by simp) stated)
  | present operand =>
      have whole : condition.formula = .atom condition.text := by
        rcases exceptBind_eq_ok.mp stated with ⟨place, -, made⟩
        cases made
        rfl
      rw [whole]
      exact .atom (.test (by simp) stated)
  | oneOf operand values =>
      rw [formula_of_oneOf stated]
      exact .atom (.test (by simp) stated)
  | descendant selector path =>
      have whole : condition.formula = .atom condition.text := by
        cases stated
        rfl
      rw [whole]
      exact .atom (.test (by simp) stated)
  | existsRow rows =>
      have whole : condition.formula = .atom condition.text := by
        rcases (existence_eq_ok (by simp [EntryTest.ofSubquery?])).mp stated with
          ⟨joined, -, outer, -, selected, -, absent, made, rfl⟩
        cases made
        rfl
      rw [whole]
      exact .atom (.test (by simp) stated)
  | existsRowWith rows inner ih =>
      cases test : EntryTest.ofSubquery? ⟨rows, some inner⟩ with
      | some found =>
          have whole : condition.formula = .atom condition.text := by
            simp only [Backend.constraint, backend, existence, test] at stated
            exact formula_of_state stated
          rw [whole]
          exact .atom (.test (by simp [test]) stated)
      | none =>
          rcases (existence_eq_ok test).mp stated with
            ⟨joined, source, outer, left, selected, right, inner', innerStated, rfl⟩
          rcases exceptMap_eq_ok.mp innerStated with ⟨found, innerRun, rfl⟩
          exact .atom (statedAs_subquery test source left right (ih innerRun))

/-- Tokens of which the text of a condition consists, and which say a constraint with
the texts that its atoms are stated as. -/
def Condition.Spells (condition : Condition) (tokens : List Token) (constraint : Constraint) :
    Prop :=
  textOf tokens = condition.text ∧
    ∃ texts, Says tokens constraint.formula texts ∧
      List.Forall₂ StatedAs constraint.formula.atoms texts

/-- What a constraint is stated as spells it. -/
theorem spells_of_eq_ok {constraint : Constraint}
    (stated : backend.constraint constraint = .ok condition) :
    ∃ tokens, condition.Spells tokens constraint := by
  have same := matches_of_eq_ok constraint stated
  exact ⟨_, condition.textOf_tokens, _, says_tokens true same, same.atoms⟩

end Sramp.Hierarchical
