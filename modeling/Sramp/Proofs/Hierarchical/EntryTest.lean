import Sramp.Hierarchical.Backend

/-!
# Entry tests

The subqueries that are flattened to a test of a node property: exactly those that join
one entry to the node it belongs to, are correlated by that node, and ask the entry for a
key and perhaps for a value.  All other subqueries keep a query of their own.
-/

namespace Sramp.Hierarchical.EntryTest

/-- What the test of an entry asks of it. -/
def asks (test : EntryTest) (entry : Selector) : Constraint :=
  let key := Constraint.comparison (entry.operand .entryKey) .eq (.string test.key)
  match test.comparison with
  | none => key
  | some (operator, value) =>
      .and key (.comparison (entry.operand .entryValue) operator value)

variable {rows : Correlation} {owner entry : Selector} {test : EntryTest}

theorem rows?_eq_some_iff :
    rows? rows = some (owner, entry) ↔
      rows.source = (Source.single owner).joinChild entry owner ∧
        rows.correlated = owner.operand .id := by
  rcases rows with ⟨source, correlated, outer⟩
  unfold rows? Source.joinChild
  split
  next found =>
      dsimp only at found
      subst found
      split <;> grind
  next other =>
      simp only [reduceCtorEq, false_iff, not_and]
      intro same
      exact absurd same (other _ _ _ _)

theorem key?_eq_some_iff {constraint : Constraint} {key : String} :
    key? entry constraint = some key ↔
      constraint = .comparison (entry.operand .entryKey) .eq (.string key) := by
  unfold key?
  split
  next operand found =>
      split <;> grind
  next other =>
      simp only [reduceCtorEq, false_iff]
      exact other _ _

theorem comparison?_eq_some_iff {constraint : Constraint} {operator : Operator} {value : Value} :
    comparison? entry constraint = some (operator, value) ↔
      constraint = .comparison (entry.operand .entryValue) operator value := by
  unfold comparison?
  split
  next operand found foundValue =>
      split <;> grind
  next other =>
      simp only [reduceCtorEq, false_iff]
      exact other _ _ _

/-- A condition on an entry is a test of it if it asks for what the test asks for. -/
theorem ofCondition?_eq_some_iff {label : String} {condition : Constraint} :
    ofCondition? entry label condition = some test ↔
      test.label = label ∧ condition = test.asks entry := by
  rcases test with ⟨testLabel, key, comparison⟩
  unfold ofCondition?
  split
  next first second =>
      simp only [Option.bind_eq_bind, Option.bind_eq_some_iff, key?_eq_some_iff, Option.pure_def]
      constructor
      · intro found
        rcases found with ⟨foundKey, isKey, ⟨operator, value⟩, compared, made⟩
        rw [comparison?_eq_some_iff] at compared
        cases made
        exact ⟨rfl, by rw [isKey, compared]; rfl⟩
      · intro asked
        rcases comparison with _ | ⟨operator, value⟩
        · simp [asks] at asked
        · simp only [asks, Constraint.and.injEq] at asked
          rcases asked with ⟨rfl, isKey, compared⟩
          exact ⟨key, isKey, (operator, value), comparison?_eq_some_iff.mpr compared, rfl⟩
  next other =>
      simp only [Option.bind_eq_bind, Option.bind_eq_some_iff, key?_eq_some_iff, Option.pure_def]
      constructor
      · intro found
        rcases found with ⟨foundKey, isKey, made⟩
        cases made
        exact ⟨rfl, isKey⟩
      · intro asked
        rcases asked with ⟨rfl, same⟩
        rcases comparison with _ | ⟨operator, value⟩
        · exact ⟨key, same, rfl⟩
        · exact absurd same (other _ _)

/-- A subquery is flattened if it is about one entry of a node, and asks what a test of
such an entry asks. -/
theorem ofSubquery?_eq_some_iff {condition : Option Constraint} :
    ofSubquery? ⟨rows, condition⟩ = some test ↔
      ∃ owner entry, rows.source = (Source.single owner).joinChild entry owner ∧
        rows.correlated = owner.operand .id ∧ entryLabel? entry.kind = some test.label ∧
        condition = some (test.asks entry) := by
  simp only [ofSubquery?, Option.bind_eq_bind, Option.bind_eq_some_iff, Prod.exists,
    rows?_eq_some_iff, ofCondition?_eq_some_iff]
  constructor
  · intro found
    rcases found with ⟨owner, entry, ⟨joined, tied⟩, label, labelled, _, asked, rfl, rfl⟩
    exact ⟨owner, entry, joined, tied, labelled, asked⟩
  · intro test
    rcases test with ⟨owner, entry, joined, tied, labelled, asked⟩
    exact ⟨owner, entry, ⟨joined, tied⟩, _, labelled, _, asked, rfl, rfl⟩

/-- What a test of an entry is stated as, and that its key can stand between brackets. -/
theorem state_eq_ok {test : EntryTest} {aliasName : String} {condition : Condition} :
    test.state aliasName = .ok condition ↔
      ']' ∉ test.key.toList ∧ condition =
        match test.comparison with
        | none => .present ⟨aliasName, test.label ++ ":" ++ test.key⟩
        | some (operator, value) =>
            .comparison ⟨aliasName, test.label ++ ":" ++ test.key⟩ operator value := by
  unfold state
  by_cases bracket : ']' ∈ test.key.toList
  · simp [bracket]
  · rcases test with ⟨label, key, _ | ⟨operator, value⟩⟩ <;> simp_all [eq_comm]

end Sramp.Hierarchical.EntryTest
