import Sramp.Proofs.Relational.Numbering
import Sramp.Proofs.Text.Words

/-!
# Aliases of look-ups in texts

In the text of a statement the alias of a look-up stands as a word, and no other word looks like
one if no other name in the statement does.  So the numbers of look-ups can be changed in the
text alone.
-/

namespace Sramp.Relational

open Text

/-- The number of the look-up whose alias a word is. -/
def lookUpNumber? (word : List Char) : Option Nat :=
  let digits := word.drop 10
  if word.take 10 = "classifier".toList ∧ digits ≠ [] ∧ digits.all Char.isDigit = true then
    some (Nat.ofDigitChars 10 digits 0)
  else none

/-- A word, with a larger number if it is the alias of a look-up. -/
def renumberedWord (shift : Nat) (word : List Char) : List Char :=
  match lookUpNumber? word with
  | some number => (Condition.classifierAlias (number + shift)).toList
  | none => word

/-- A text with larger numbers in the aliases of look-ups. -/
def renumberedText (shift : Nat) : String → String :=
  exchangeWords (renumberedWord shift)

/-- No word of a text is the alias of a look-up. -/
def Plain (text : String) : Prop :=
  ∀ word ∈ words text, lookUpNumber? word = none

instance (text : String) : Decidable (Plain text) :=
  inferInstanceAs (Decidable (∀ word ∈ words text, lookUpNumber? word = none))

theorem lookUpNumber?_classifierAlias (number : Nat) :
    lookUpNumber? (Condition.classifierAlias number).toList = some number := by
  have digits : (Condition.classifierAlias number).toList =
      "classifier".toList ++ Nat.toDigits 10 number := by
    rw [Condition.classifierAlias, String.toList_append, Nat.toString_eq_repr, Nat.toList_repr]
  have front : ("classifier".toList ++ Nat.toDigits 10 number).take 10 = "classifier".toList :=
    List.take_left' rfl
  have back : ("classifier".toList ++ Nat.toDigits 10 number).drop 10 = Nat.toDigits 10 number :=
    List.drop_left' rfl
  have decimal : (Nat.toDigits 10 number).all Char.isDigit = true := by
    rw [List.all_eq_true]
    intro c member
    exact Nat.isDigit_of_mem_toDigits (by decide) (by decide) member
  rw [digits, lookUpNumber?, front, back, if_pos ⟨rfl, Nat.toDigits_ne_nil, decimal⟩,
    Nat.ofDigitChars_toDigits (by decide) (by decide)]

/-- The alias of a look-up is a single word. -/
theorem isWordChar_classifierAlias (number : Nat) :
    ∀ c ∈ (Condition.classifierAlias number).toList, isWordChar c = true := by
  intro c member
  rw [Condition.classifierAlias, String.toList_append, List.mem_append] at member
  rcases member with inStem | inNumber
  · exact List.all_eq_true.mp (by decide) c inStem
  · rw [Nat.toString_eq_repr, Nat.toList_repr] at inNumber
    have digit := Nat.isDigit_of_mem_toDigits (by decide) (by decide) inNumber
    simp [isWordChar, Char.isAlphanum, digit]

variable {shift : Nat} {text : String}

@[simp] theorem renumberedWord_nil : renumberedWord shift [] = [] := rfl

/-- A text between words, which it does not go on with. -/
structure Separates (text : String) : Prop where
  opens : Opens text
  closes : Closes text
  plain : Plain text

instance (text : String) : Decidable (Separates text) :=
  decidable_of_iff (Opens text ∧ Closes text ∧ Plain text)
    ⟨fun parts => ⟨parts.1, parts.2.1, parts.2.2⟩,
      fun separates => ⟨separates.opens, separates.closes, separates.plain⟩⟩

/-- A text becomes another one when the aliases of look-ups get larger numbers. -/
def Renumbers (shift : Nat) (text other : String) : Prop :=
  renumberedText shift text = other

namespace Renumbers

variable {first second other further middle : String}

theorem plain (plain : Plain text) : Renumbers shift text text := by
  apply exchangeWords_eq_self
  intro word member
  rw [renumberedWord, plain word member]

/-- The alias of a look-up gets a larger number. -/
theorem classifierAlias (number : Nat) :
    Renumbers shift (Condition.classifierAlias number)
      (Condition.classifierAlias (number + shift)) := by
  rw [Renumbers, renumberedText,
    exchangeWords_of_isWordChar (isWordChar_classifierAlias number), renumberedWord,
    lookUpNumber?_classifierAlias, String.ofList_toList]

theorem after (renumbers : Renumbers shift second further)
    (separates : Closes first ∧ Plain first) :
    Renumbers shift (first ++ second) (first ++ further) := by
  rw [Renumbers, renumberedText, exchangeWords_append_of_closes renumberedWord_nil separates.1]
  exact congrArg₂ (· ++ ·) (Renumbers.plain separates.2) renumbers

/-- A text that goes on with no word is renumbered apart. -/
theorem append (one : Renumbers shift first other) (two : Renumbers shift second further)
    (opens : Opens second) : Renumbers shift (first ++ second) (other ++ further) := by
  rw [Renumbers, renumberedText, exchangeWords_append_of_opens renumberedWord_nil opens]
  exact congrArg₂ (· ++ ·) one two

/-- A part that may be missing is renumbered apart. -/
theorem append_part (one : Renumbers shift first other) (two : Renumbers shift second further)
    (part : second = "" ∨ Opens second) : Renumbers shift (first ++ second) (other ++ further) := by
  rcases part with rfl | opens
  · rw [← two, String.append_empty, show renumberedText shift "" = "" from rfl,
      String.append_empty]
    exact one
  · exact one.append two opens

theorem before (renumbers : Renumbers shift first other)
    (separates : Opens second ∧ Plain second) :
    Renumbers shift (first ++ second) (other ++ second) :=
  renumbers.append (.plain separates.2) separates.1

theorem between (one : Renumbers shift first other) (two : Renumbers shift second further)
    (separates : Separates middle) :
    Renumbers shift (first ++ middle ++ second) (other ++ middle ++ further) := by
  rw [String.append_assoc, String.append_assoc]
  exact one.append (two.after ⟨separates.closes, separates.plain⟩) (separates.opens.append second)

theorem enclosed {outer own : Option Connective} (renumbers : Renumbers shift first other) :
    Renumbers shift (Sramp.enclosed outer own first) (Sramp.enclosed outer own other) := by
  cases own with
  | none => exact renumbers
  | some connective =>
      rw [Sramp.enclosed, Sramp.enclosed]
      split
      · exact renumbers
      · exact .before (.after renumbers (by decide)) (by decide)

end Renumbers

/-- The alias and the name of a column. -/
def Column.names (column : Column) : List String :=
  [column.aliasName, column.name]

/-- The aliases and columns in joined rows. -/
def Rows.names : Rows → List String
  | .table _ aliasName => [aliasName]
  | .join left right _ first second => left.names ++ right.names ++ first.names ++ second.names

/-- The aliases and columns in a condition, other than those of its look-ups. -/
def Condition.names : Condition → List String
  | .comparison column _ _ | .present column | .oneOf column _ => column.names
  | .never => []
  | .live aliasName => [aliasName]
  | .classified _ _ artifact _ => [artifact]
  | .existsRow rows correlated outer => rows.names ++ correlated.names ++ outer.names
  | .existsRowWith rows correlated outer inner =>
      rows.names ++ correlated.names ++ outer.names ++ inner.names
  | .not inner => inner.names
  | .and left right | .or left right => left.names ++ right.names

/-- The aliases and columns in a statement, other than those of its look-ups. -/
def Statement.names (statement : Statement) : List String :=
  statement.result :: statement.rows.names ++ (statement.condition.map Condition.names).getD []
    ++ (statement.order.map (·.column.names)).getD []

theorem plain_tableName (kind : NodeKind) : Plain (tableName kind) := by
  cases kind <;> decide

theorem plain_classifierTable (normalized : Bool) : Plain (classifierTable normalized) := by
  cases normalized <;> decide

theorem plain_joinText (kind : JoinKind) : Plain (Rows.joinText kind) := by
  cases kind <;> decide

theorem plain_symbol (operator : Operator) : Plain operator.symbol := by
  cases operator <;> decide

/-- Columns of plain names do not change. -/
theorem Column.renumbers {column : Column} (plain : ∀ name ∈ column.names, Plain name) :
    Renumbers shift column.text column.text := by
  simp only [names, List.forall_mem_cons] at plain
  exact .between (.plain plain.1) (.plain plain.2.1) (by decide)

theorem Rows.renumbers {rows : Rows} (plain : ∀ name ∈ rows.names, Plain name) :
    Renumbers shift rows.text rows.text := by
  induction rows with
  | table kind aliasName =>
      exact .between (.plain (plain_tableName kind))
        (.plain (plain aliasName (List.mem_singleton_self _))) (by decide)
  | join left right kind first second leftIH rightIH =>
      simp only [names, List.forall_mem_append] at plain
      obtain ⟨⟨⟨inLeft, inRight⟩, inFirst⟩, inSecond⟩ := plain
      refine Renumbers.between ?_ (Column.renumbers inSecond) (by decide)
      refine Renumbers.between ?_ (Column.renumbers inFirst) (by decide)
      refine Renumbers.between ?_ (rightIH inRight) (by decide)
      exact .between (leftIH inLeft) (.plain (plain_joinText kind)) (by decide)

namespace Condition

theorem renumbers_classifiedText (number : Nat) (normalized : Bool) {artifact : String}
    (plain : Plain artifact) :
    Renumbers shift (classifiedText number normalized artifact)
      (classifiedText (number + shift) normalized artifact) := by
  have named : Renumbers shift (classifierAlias number) (classifierAlias (number + shift)) :=
    .classifierAlias number
  refine Renumbers.before ?_ (by decide)
  refine Renumbers.between ?_ named (by decide)
  refine Renumbers.between ?_ (.plain plain) (by decide)
  refine Renumbers.between ?_ named (by decide)
  refine Renumbers.between ?_ named (by decide)
  exact .after (.plain (plain_classifierTable normalized)) (by decide)

/-- A list of question marks has no words. -/
theorem plain_marks (values : List Value) :
    Plain (", ".intercalate (values.map fun _ => "?")) := by
  have outside : ∀ c ∈ (", ".intercalate (values.map fun _ => "?")).toList,
      isWordChar c = false := by
    have mark : ∀ c ∈ "?".toList, isWordChar c = false :=
      List.forall_mem_singleton.mpr (by decide)
    have comma : ∀ c ∈ ", ".toList, isWordChar c = false :=
      List.forall_mem_cons.mpr ⟨by decide, List.forall_mem_singleton.mpr (by decide)⟩
    induction values with
    | nil => simp
    | cons first rest ih =>
        cases rest with
        | nil => exact mark
        | cons second others =>
            simp only [List.map_cons, String.intercalate_cons_cons, String.toList_append,
              List.forall_mem_append] at ih ⊢
            exact ⟨⟨mark, comma⟩, ih⟩
  intro word member
  rw [eq_nil_of_mem_words outside word member]
  rfl

theorem renumbers_existsText {rows : Rows} {correlated outer : Column}
    (joined : ∀ name ∈ rows.names, Plain name) (left : ∀ name ∈ correlated.names, Plain name)
    (right : ∀ name ∈ outer.names, Plain name) :
    Renumbers shift (existsText rows correlated outer) (existsText rows correlated outer) :=
  .between
    (.between (.after (Rows.renumbers joined) (by decide)) (Column.renumbers left) (by decide))
    (Column.renumbers right) (by decide)

/-- Larger numbers in a condition are larger numbers in its text. -/
theorem renumbers {condition : Condition} (plain : ∀ name ∈ condition.names, Plain name) :
    Renumbers shift condition.text (condition.renumbered shift).text := by
  induction condition with
  | comparison column operator value =>
      exact .before (.between (Column.renumbers plain) (.plain (plain_symbol operator)) (by decide))
        (by decide)
  | present column => exact .before (Column.renumbers plain) (by decide)
  | never => exact .plain (by decide)
  | oneOf column values =>
      exact .before (.between (Column.renumbers plain) (.plain (plain_marks values)) (by decide))
        (by decide)
  | live aliasName =>
      exact .before (.plain (plain aliasName (List.mem_singleton_self _))) (by decide)
  | classified number normalized artifact classifier =>
      exact renumbers_classifiedText number normalized (plain artifact (List.mem_singleton_self _))
  | existsRow rows correlated outer =>
      simp only [names, List.forall_mem_append] at plain
      exact .before (renumbers_existsText plain.1.1 plain.1.2 plain.2) (by decide)
  | existsRowWith rows correlated outer inner ih =>
      simp only [names, List.forall_mem_append] at plain
      rw [text, renumbered, text, connective_renumbered]
      refine Renumbers.before ?_ (by decide)
      refine Renumbers.between ?_ (ih plain.2).enclosed (by decide)
      exact renumbers_existsText plain.1.1.1 plain.1.1.2 plain.1.2
  | not inner ih =>
      rw [text, renumbered, text, connective_renumbered]
      exact .after (ih plain).enclosed (by decide)
  | and left right leftIH rightIH | or left right leftIH rightIH =>
      simp only [names, List.forall_mem_append] at plain
      rw [text, renumbered, text, connective_renumbered, connective_renumbered]
      exact .between (leftIH plain.1).enclosed (rightIH plain.2).enclosed (by decide)

end Condition

theorem Order.renumbers {order : Order} (plain : ∀ name ∈ order.column.names, Plain name) :
    Renumbers shift order.text order.text := by
  unfold Order.text
  split
  · exact .before (.after (Column.renumbers plain) (by decide)) (by decide)
  · exact .before (.after (Column.renumbers plain) (by decide)) (by decide)

/-- What a statement asks of its rows. -/
def guardText (condition : Option Condition) : String :=
  condition.elim "" fun condition => " WHERE " ++ condition.text

theorem Statement.text_eq (statement : Statement) :
    statement.text = "SELECT DISTINCT " ++ statement.result ++ ".* FROM " ++ statement.rows.text
      ++ guardText statement.condition ++ statement.order.elim "" Order.text := by
  rcases statement with ⟨result, rows, _ | condition, _ | order⟩ <;> rfl

theorem renumbers_guardText {condition : Option Condition}
    (plain : ∀ name ∈ (condition.map Condition.names).getD [], Plain name) :
    Renumbers shift (guardText condition)
      (guardText (condition.map (Condition.renumbered shift))) := by
  cases condition with
  | none => exact .plain (by decide)
  | some condition => exact .after (Condition.renumbers plain) (by decide)

theorem opens_guardText (condition : Option Condition) :
    guardText condition = "" ∨ Opens (guardText condition) := by
  cases condition with
  | none => exact .inl rfl
  | some condition => exact .inr (Opens.append (by decide) _)

theorem renumbers_orderText {order : Option Order}
    (plain : ∀ name ∈ (order.map (·.column.names)).getD [], Plain name) :
    Renumbers shift (order.elim "" Order.text) (order.elim "" Order.text) := by
  cases order with
  | none => exact .plain (by decide)
  | some order => exact Order.renumbers plain

theorem opens_orderText (order : Option Order) :
    order.elim "" Order.text = "" ∨ Opens (order.elim "" Order.text) := by
  cases order with
  | none => exact .inl rfl
  | some order => exact .inr (Opens.append (Opens.append (by decide) _) _)

/-- Larger numbers in a statement are larger numbers in its text. -/
theorem Statement.renumbers {statement : Statement}
    (plain : ∀ name ∈ statement.names, Plain name) :
    Renumbers shift statement.text (statement.renumbered shift).text := by
  simp only [names, List.forall_mem_append, List.forall_mem_cons] at plain
  obtain ⟨⟨⟨inResult, inRows⟩, inCondition⟩, inOrder⟩ := plain
  rw [text_eq, text_eq]
  apply Renumbers.append_part _ (renumbers_orderText inOrder) (opens_orderText _)
  apply Renumbers.append_part _ (renumbers_guardText inCondition) (opens_guardText _)
  exact .between (.after (.plain inResult) (by decide)) (Rows.renumbers inRows) (by decide)

end Sramp.Relational
