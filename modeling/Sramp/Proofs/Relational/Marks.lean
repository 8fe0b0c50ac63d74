import Mathlib.Algebra.GroupWithZero.Nat
import Sramp.Proofs.Relational.Reading

/-!
# Question marks in statements

Of the texts that a relational statement is put together from, only those of tests with
values hold question marks: tables, columns and keywords do not, and neither do aliases
without any.  So the question marks of a statement can be told apart by the tests in
whose texts they stand.
-/

namespace Sramp.Relational

/-- A text holds no question mark. -/
def Unmarked (text : String) : Prop :=
  '?' ∉ text.toList

instance (text : String) : Decidable (Unmarked text) :=
  inferInstanceAs (Decidable (¬_))

@[simp] theorem unmarked_append {first second : String} :
    Unmarked (first ++ second) ↔ Unmarked first ∧ Unmarked second := by
  simp [Unmarked, not_or]

/-- Texts of letters and digits hold no question mark. -/
theorem unmarked_of_isAlphanum {text : String}
    (plain : ∀ c ∈ text.toList, c.isAlphanum = true) : Unmarked text := by
  intro member
  exact absurd (plain '?' member) (by decide)

theorem unmarked_toString (number : Nat) : Unmarked (toString number) := by
  intro member
  rw [Nat.toString_eq_repr, Nat.toList_repr] at member
  exact absurd (Nat.isDigit_of_mem_toDigits (by decide) (by decide) member) (by decide)

theorem unmarked_symbol (operator : Operator) : Unmarked operator.symbol := by
  cases operator <;> decide

theorem unmarked_tableName (kind : NodeKind) : Unmarked (tableName kind) := by
  cases kind <;> decide

theorem unmarked_classifierTable (normalized : Bool) : Unmarked (classifierTable normalized) := by
  cases normalized <;> decide

theorem unmarked_joinText (kind : JoinKind) : Unmarked (Rows.joinText kind) := by
  cases kind <;> decide

theorem unmarked_columnName (kind : NodeKind) (property : Property) :
    ∀ name ∈ columnName? kind property, Unmarked name := by
  cases property with
  | core core => cases kind <;> cases core <;> decide
  | classifier => cases kind <;> simp [columnName?]
  | _ => cases kind <;> decide

theorem unmarked_parentKey (child parent : NodeKind) :
    ∀ key ∈ parentKey? child parent, Unmarked key := by
  cases child <;> cases parent <;> decide

/-- Texts stand in a text one after another, and no question mark stands outside. -/
inductive Holds : String → List String → Prop where
  | nothing {text : String} : Unmarked text → Holds text []
  | next {before text rest : String} {texts : List String} :
      Unmarked before → Holds rest texts → Holds (before ++ text ++ rest) (text :: texts)

namespace Holds

variable {first second text : String} {texts others : List String}

theorem single (text : String) : Holds text [text] := by
  have ends : Holds "" [] := .nothing (by decide)
  have whole : Holds ("" ++ text ++ "") [text] := .next (by decide) ends
  simpa using whole

/-- What stands before the first text may grow. -/
theorem after (free : Unmarked first) (holds : Holds second texts) :
    Holds (first ++ second) texts := by
  cases holds with
  | nothing plain => exact .nothing (unmarked_append.mpr ⟨free, plain⟩)
  | next plain rest =>
      simp only [← String.append_assoc]
      exact .next (unmarked_append.mpr ⟨free, plain⟩) rest

theorem append (one : Holds first texts) (other : Holds second others) :
    Holds (first ++ second) (texts ++ others) := by
  induction one with
  | nothing plain => exact other.after plain
  | next plain _ ih =>
      rw [String.append_assoc]
      exact .next plain ih

theorem before (holds : Holds first texts) (free : Unmarked second) :
    Holds (first ++ second) texts := by
  simpa using holds.append (.nothing free)

/-- Parentheses around a text change nothing. -/
theorem enclosed {outer own : Option Connective} (holds : Holds text texts) :
    Holds (Sramp.enclosed outer own text) texts := by
  cases own with
  | none => exact holds
  | some connective =>
      rw [Sramp.enclosed]
      split
      · exact holds
      · exact (holds.after (by decide)).before (by decide)

/-- All question marks of a text are those of the texts in it. -/
theorem count_eq (holds : Holds text texts) :
    text.toList.count '?' = (texts.map fun part => part.toList.count '?').sum := by
  induction holds with
  | nothing plain => exact List.count_eq_zero.mpr plain
  | next plain _ ih =>
      rw [Unmarked, ← List.count_eq_zero] at plain
      simp [plain, ih]

end Holds

end Sramp.Relational
