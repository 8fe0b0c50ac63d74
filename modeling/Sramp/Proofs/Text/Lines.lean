import Sramp.Proofs.Text.Quoting
import Sramp.Text.Blank
import Sramp.Text.Escaped

/-!
# Lines of a text

A text has one line more than it has line breaks.  Numbers, dates and escaped texts have no line
breaks; a text between quote marks has those of the text inside.
-/

namespace Sramp.Text

/-- The lines of a text, without the breaks between them. -/
def lines (text : String) : List String :=
  (text.toList.splitOn '\n').map String.ofList

/-- The number of line breaks in a text. -/
def breaks (text : String) : Nat :=
  text.toList.count '\n'

@[simp] theorem breaks_append (first second : String) :
    breaks (first ++ second) = breaks first + breaks second := by
  rw [breaks, String.toList_append, List.count_append]
  rfl

/-- A text has no line breaks. -/
def Unbroken (text : String) : Prop :=
  breaks text = 0

instance (text : String) : Decidable (Unbroken text) :=
  inferInstanceAs (Decidable (breaks text = 0))

@[simp] theorem unbroken_append {first second : String} :
    Unbroken (first ++ second) ↔ Unbroken first ∧ Unbroken second := by
  rw [Unbroken, breaks_append, Nat.add_eq_zero_iff]
  rfl

/-- A text has one line more than line breaks. -/
theorem length_lines (text : String) : (lines text).length = breaks text + 1 := by
  have each : ∀ chars : List Char,
      (chars.splitOn '\n').length = chars.count '\n' + 1 := by
    intro chars
    induction chars with
    | nil => rfl
    | cons c rest ih =>
        rw [List.splitOn_cons_eq_if_modifyHead, List.count_cons]
        split
        · rw [List.length_cons, ih]
        · rw [List.length_modifyHead, ih, Nat.add_zero]
  rw [lines, List.length_map, each, breaks]

/-- At a line break the lines may be taken apart. -/
theorem lines_append_break (first second : String) :
    lines (first ++ "\n" ++ second) = lines first ++ lines second := by
  have shape : (first ++ "\n" ++ second).toList = first.toList ++ '\n' :: second.toList := by
    simp [String.toList_append]
  rw [lines, shape, List.splitOn_append_cons_self, List.map_append]
  rfl

/-- A text without line breaks is one line. -/
theorem lines_of_unbroken {text : String} (unbroken : Unbroken text) :
    lines text = [text] := by
  rw [lines, List.splitOn_eq_singleton (List.count_eq_zero.mp unbroken), List.map_singleton,
    String.ofList_toList]

theorem unbroken_of_isNumeral {text : String}
    (plain : ∀ c ∈ text.toList, isNumeral c = true) : Unbroken text := by
  apply List.count_eq_zero.mpr
  intro member
  exact absurd (plain '\n' member) (by decide)

theorem unbroken_of_isAlphanum {text : String}
    (plain : ∀ c ∈ text.toList, c.isAlphanum = true) : Unbroken text := by
  apply unbroken_of_isNumeral
  intro c member
  simp [isNumeral, plain c member]

theorem count_doubled (chars : List Char) : (doubled chars).count '\n' = chars.count '\n' := by
  have mark : quoteMark ≠ '\n' := by decide
  induction chars with
  | nil => rfl
  | cons c rest ih =>
      rw [doubled]
      split
      next same => simp [same, mark, ih]
      next => simp [List.count_cons, ih]

/-- Between quote marks a text keeps its line breaks. -/
theorem breaks_quoted (text : String) : breaks (quoted text) = breaks text := by
  have inside : breaks (String.ofList (doubled text.toList)) = breaks text := by
    rw [breaks, String.toList_ofList, count_doubled, breaks]
  have mark : breaks "'" = 0 := by decide
  rw [quoted, breaks_append, breaks_append, inside, mark, Nat.zero_add, Nat.add_zero]

theorem break_not_mem_hexDigits (code : Nat) : '\n' ∉ hexDigits code := by
  have single : ∀ digit < 16, '\n' ≠ Nat.digitChar digit := by decide
  rw [hexDigits]
  induction code using Nat.strongRecOn with
  | ind code ih =>
      rw [Nat.toDigits_eq_if (by decide)]
      split
      next small =>
          rw [List.mem_singleton]
          exact single code small
      next large =>
          rw [List.mem_append, List.mem_singleton, not_or]
          exact ⟨ih (code / 16) (by omega), single (code % 16) (Nat.mod_lt code (by decide))⟩

theorem break_not_mem_escapedChar (c : Char) : '\n' ∉ escapedChar c := by
  unfold escapedChar
  split
  case h_7 plain _ _ _ =>
    split
    · have digits := break_not_mem_hexDigits c.toNat
      simpa using digits
    · intro member
      rw [← List.mem_singleton.mp member] at plain
      exact plain rfl
  all_goals decide

/-- An escaped text has no line breaks. -/
theorem unbroken_escaped (text : String) : Unbroken (escaped text) := by
  have inside : Unbroken (String.ofList (text.toList.flatMap escapedChar)) := by
    rw [Unbroken, breaks, String.toList_ofList, List.count_eq_zero]
    intro member
    obtain ⟨c, -, inChar⟩ := List.mem_flatMap.mp member
    exact break_not_mem_escapedChar c inChar
  rw [escaped, unbroken_append, unbroken_append]
  exact ⟨⟨by decide, inside⟩, by decide⟩

/-- White space at the end is left out up to the last character that is none. -/
theorem trimEnd_append {front rest : List Char} {last : Char} (visible : isBlank last = false)
    (blank : ∀ c ∈ rest, isBlank c = true) :
    trimEnd (front ++ last :: rest) = front ++ [last] := by
  have reversed : ∀ c ∈ rest.reverse, isBlank c = true := by
    intro c member
    exact blank c (List.mem_reverse.mp member)
  rw [trimEnd, List.reverse_append, List.reverse_cons, List.append_assoc,
    List.dropWhile_append_of_pos reversed, List.singleton_append, List.dropWhile_cons, visible,
    if_neg Bool.false_ne_true, List.reverse_cons, List.reverse_reverse]

end Sramp.Text
