import Sramp.Proofs.Compile.Numbered
import Sramp.Proofs.Hierarchical.EntryTest
import Sramp.Proofs.Hierarchical.Lexeme
import Sramp.Proofs.Hierarchical.Reading
import Sramp.Proofs.Text.Quoting

/-!
# What a reader finds in hierarchical statements

The strings in a statement are the contents of the values and paths of its plan, and
the identifiers are the names of its node types and properties, both in the order of the
plan.  No text in a plan can end a string or an identifier early.
-/

namespace Sramp.Hierarchical

open Compile Text

/-- What the string of a value holds: its own text, or the text it is cast from. -/
def content : Value → String
  | .string text => text
  | .boolean true => "true"
  | .boolean false => "false"
  | .double value => value.text
  | .date day => day.text ++ "T00:00:00.000Z"

/-- The strings that stand for a constraint, from left to right.  A test without values
compares with the path of the root of the store; the key of an entry test is no string. -/
def contents : Constraint → List String
  | .and left right | .or left right => contents left ++ contents right
  | .not inner => contents inner
  | .comparison _ _ value => [content value]
  | .present _ | .existsRow _ => []
  | .oneOf _ values => if values.isEmpty then ["/"] else values.map content
  | .descendant _ path => [path]
  | .existsRowWith rows condition =>
      match EntryTest.ofSubquery? ⟨rows, some condition⟩ with
      | some test => test.comparison.toList.map fun (_, value) => content value
      | none => contents condition

/-- The name of the property of an operand, if it has one. -/
def propertyNames (operand : Operand) : List String :=
  (propertyName operand.property).toOption.toList

/-- The name of the node type of a selector, if it has one. -/
def typeNames (selector : Selector) : List String :=
  (nodeType selector.kind).toOption.toList.map NodeType.text

/-- The identifiers that stand for a join condition. -/
def linkNames : JoinCondition → List String
  | .equal left right => propertyNames left ++ propertyNames right
  | .child .. => []

/-- The identifiers that stand for a source, from left to right. -/
def sourceNames : Source → List String
  | .single selector => typeNames selector
  | .join left right _ condition =>
      sourceNames left ++ typeNames right ++ linkNames condition

/-- The identifiers that stand for a constraint, from left to right.  An entry test is
one of them: its label and its key. -/
def names : Constraint → List String
  | .and left right | .or left right => names left ++ names right
  | .not inner => names inner
  | .comparison operand _ _ | .present operand => propertyNames operand
  | .oneOf operand values => if values.isEmpty then [] else propertyNames operand
  | .descendant .. => []
  | .existsRow rows =>
      propertyNames rows.outer ++ propertyNames rows.correlated ++ sourceNames rows.source
  | .existsRowWith rows condition =>
      match EntryTest.ofSubquery? ⟨rows, some condition⟩ with
      | some test => [test.label ++ ":" ++ test.key]
      | none =>
          propertyNames rows.outer ++ propertyNames rows.correlated ++ sourceNames rows.source ++
            names condition

/-- The strings that stand for a plan. -/
def planContents (plan : Plan) : List String :=
  (plan.constraint.map contents).getD []

/-- The identifiers that stand for a plan. -/
def planNames (plan : Plan) : List String :=
  sourceNames plan.source ++ (plan.constraint.map names).getD [] ++
    plan.ordering.toList.flatMap fun order => propertyNames order.operand

/-! ## Lexemes of statements -/

/-- The lexemes of a property. -/
def NodeProperty.lexemes (property : NodeProperty) : List Lexeme :=
  plain (property.aliasName ++ ".") ++ [.identifier property.name]

/-- The lexemes of a link. -/
def Link.lexemes : Link → List Lexeme
  | .equal left right => left.lexemes ++ plain " = " ++ right.lexemes
  | .child lower upper => plain (Link.child lower upper).text

/-- The lexemes of rows. -/
def Rows.lexemes : Rows → List Lexeme
  | .nodes type aliasName => [.identifier type.text] ++ plain (" AS " ++ aliasName)
  | .join left right kind link =>
      left.lexemes ++ plain (" " ++ joinText kind ++ " ") ++ right.lexemes ++ plain " ON " ++
        link.lexemes

/-- The lexemes of a string in a cast, which ends as given. -/
def castLexemes (content ending : String) : List Lexeme :=
  plain "CAST(" ++ [.string content] ++ plain ending

/-- The lexemes of a value. -/
def literalLexemes : Value → List Lexeme
  | .string text => [.string text]
  | .boolean value => castLexemes (content (.boolean value)) " AS BOOLEAN)"
  | .double value => castLexemes (content (.double value)) " AS DOUBLE)"
  | .date day => castLexemes (content (.date day)) " AS DATE)"

/-- The lexemes of a part of a condition, in parentheses where its text is. -/
def enclosedLexemes (outer own : Option Connective) (lexemes : List Lexeme) : List Lexeme :=
  match own with
  | none => lexemes
  | some connective =>
      if outer = some connective then lexemes else plain "(" ++ lexemes ++ plain ")"

/-- The lexemes with which a second query opens. -/
def withinLexemes (outer selected : NodeProperty) (rows : Rows) : List Lexeme :=
  outer.lexemes ++ plain " IN (SELECT " ++ selected.lexemes ++ plain " FROM " ++ rows.lexemes

/-- The lexemes of a condition. -/
def Condition.lexemes : Condition → List Lexeme
  | .comparison property operator value =>
      property.lexemes ++ plain (" " ++ operator.symbol ++ " ") ++ literalLexemes value
  | .present property => property.lexemes ++ plain " IS NOT NULL"
  | .never aliasName =>
      plain ("NOT ISDESCENDANTNODE(" ++ aliasName ++ ", ") ++ [.string "/"] ++ plain ")"
  | .oneOf property values =>
      property.lexemes ++ plain " IN (" ++ (plain ", ").intercalate (values.map literalLexemes) ++
        plain ")"
  | .descendant aliasName path =>
      plain ("ISDESCENDANTNODE(" ++ aliasName ++ ", ") ++ [.string path] ++ plain ")"
  | .within outer selected rows => withinLexemes outer selected rows ++ plain ")"
  | .withinWhere outer selected rows inner =>
      withinLexemes outer selected rows ++ plain " WHERE " ++ inner.lexemes ++ plain ")"
  | .not inner => plain "NOT (" ++ inner.lexemes ++ plain ")"
  | .and left right =>
      enclosedLexemes (some .and) left.connective left.lexemes ++ plain " AND " ++
        enclosedLexemes (some .and) right.connective right.lexemes
  | .or left right =>
      enclosedLexemes (some .or) left.connective left.lexemes ++ plain " OR " ++
        enclosedLexemes (some .or) right.connective right.lexemes

/-- The lexemes of an order. -/
def Order.lexemes (order : Order) : List Lexeme :=
  plain " ORDER BY " ++ order.property.lexemes ++
    plain (if order.ascending then " ASC" else " DESC")

/-- The lexemes of a statement. -/
def Statement.lexemes (statement : Statement) : List Lexeme :=
  plain ("SELECT " ++ statement.result ++ ".* FROM ") ++ statement.rows.lexemes ++
    (match statement.condition with
      | none => []
      | some condition => plain " WHERE " ++ condition.lexemes) ++
    (match statement.order with
      | none => []
      | some order => order.lexemes)

/-- A text is read as lexemes, among which are some strings and identifiers. -/
structure Shows (text : String) (lexemes : List Lexeme) (inside named : List String) : Prop
    extends Lexed text lexemes where
  strings : strings lexemes = inside
  identifiers : identifiers lexemes = named

namespace Shows

variable {first second middle : String} {lexemes others : List Lexeme}
variable {inside around named further : List String}

theorem of_eq (read : Shows first lexemes inside named) (same : second = first) :
    Shows second lexemes inside named :=
  same ▸ read

theorem string (content : String) : Shows (quoted content) [.string content] [content] [] where
  toLexed := .string content
  strings := rfl
  identifiers := rfl

theorem identifier {name : String} (sound : ']' ∉ name.toList) :
    Shows ("[" ++ name ++ "]") [.identifier name] [] [name] where
  toLexed := .identifier sound
  strings := rfl
  identifiers := rfl

theorem ofPlain (free : Plain first) : Shows first (plain first) [] [] where
  toLexed := .ofPlain free
  strings := strings_plain first
  identifiers := identifiers_plain first

theorem after (free : Plain first) (read : Shows second others inside named) :
    Shows (first ++ second) (plain first ++ others) inside named where
  toLexed := .after free read.toLexed
  strings := by simp [read.strings]
  identifiers := by simp [read.identifiers]

theorem before (read : Shows first lexemes inside named) (free : Plain second) :
    Shows (first ++ second) (lexemes ++ plain second) inside named where
  toLexed := read.toLexed.before free
  strings := by simp [read.strings]
  identifiers := by simp [read.identifiers]

/-- Plain text keeps what stands before it apart from what stands after it. -/
theorem joined (one : Shows first lexemes inside named) (free : Plain middle)
    (parts : middle ≠ "") (other : Shows second others around further) :
    Shows (first ++ middle ++ second) (lexemes ++ plain middle ++ others) (inside ++ around)
      (named ++ further) where
  toLexed := one.toLexed.joined free parts other.toLexed
  strings := by simp [one.strings, other.strings]
  identifiers := by simp [one.identifiers, other.identifiers]

theorem enclosed (read : Shows first lexemes inside named) (outer own : Option Connective) :
    Shows (Sramp.enclosed outer own first) (enclosedLexemes outer own lexemes) inside named := by
  cases own with
  | none => exact read
  | some connective =>
      unfold Sramp.enclosed enclosedLexemes
      dsimp only
      split
      · exact read
      · exact (read.after (by decide : Plain "(")).before (by decide : Plain ")")

end Shows

/-- Selectors whose aliases open neither a string nor an identifier. -/
def PlainAliases (selectors : List Selector) : Prop :=
  ∀ selector ∈ selectors, Plain selector.aliasName

@[simp] theorem plainAliases_append {early late : List Selector} :
    PlainAliases (early ++ late) ↔ PlainAliases early ∧ PlainAliases late :=
  List.forall_mem_append

@[simp] theorem plainAliases_cons {selector : Selector} {rest : List Selector} :
    PlainAliases (selector :: rest) ↔ Plain selector.aliasName ∧ PlainAliases rest :=
  List.forall_mem_cons

@[simp] theorem plainAliases_nil : PlainAliases [] :=
  List.forall_mem_nil _

/-- No name of a property holds a closing bracket. -/
theorem sound_propertyName (property : Property) :
    ∀ name ∈ (propertyName property).toOption, ']' ∉ name.toList := by
  cases property with
  | core core => cases core <;> decide
  | classifier normalized => cases normalized <;> decide
  | _ => decide

/-- A property is one identifier, unless its name holds a closing bracket. -/
theorem shows_property {aliasName name : String} (free : Plain aliasName)
    (sound : ']' ∉ name.toList) :
    Shows (NodeProperty.mk aliasName name).text (NodeProperty.mk aliasName name).lexemes []
      [name] := by
  have whole := (Shows.identifier sound).after
    (plain_append.mpr ⟨free, (by decide : Plain ".")⟩)
  have opening : ".[" = "." ++ "[" := rfl
  exact whole.of_eq (by simp only [NodeProperty.text, opening, String.append_assoc])

theorem shows_nodeProperty {operand : Operand} {property : NodeProperty}
    (stated : nodeProperty operand = .ok property) (free : Plain operand.selector.aliasName) :
    Shows property.text property.lexemes [] (propertyNames operand) := by
  rcases exceptBind_eq_ok.mp stated with ⟨name, named, made⟩
  cases made
  have known : (propertyName operand.property).toOption = some name := by
    rw [named]
    rfl
  have alone : propertyNames operand = [name] := by simp [propertyNames, known]
  rw [alone]
  exact shows_property free (sound_propertyName operand.property name known)

/-- A text in a cast is one string. -/
theorem shows_cast {inside : String} (free : quoteMark ∉ inside.toList) {ending : String}
    (closes : Plain ending) :
    Shows ("CAST('" ++ inside ++ ("'" ++ ending)) (castLexemes inside ending) [inside] [] := by
  have whole := ((Shows.string inside).after (by decide : Plain "CAST(")).before closes
  have opening : "CAST('" = "CAST(" ++ "'" := rfl
  exact whole.of_eq (by
    simp only [quoted, doubled_eq_self free, String.ofList_toList, opening, String.append_assoc])

/-- A value is one string, whatever its text. -/
theorem shows_literal (value : Value) :
    Shows (literalText value) (literalLexemes value) [content value] [] := by
  cases value with
  | string text => exact .string text
  | boolean value =>
      have free : quoteMark ∉ (content (.boolean value)).toList := by cases value <;> decide
      have whole := shows_cast free (by decide : Plain " AS BOOLEAN)")
      cases value <;> exact whole
  | double value =>
      exact shows_cast value.quoteMark_not_mem_text (by decide : Plain " AS DOUBLE)")
  | date day =>
      have free : quoteMark ∉ (day.text ++ "T00:00:00.000Z").toList := by
        rw [String.toList_append, List.mem_append, not_or]
        exact ⟨day.quoteMark_not_mem_text, by decide⟩
      have whole := shows_cast free (by decide : Plain " AS DATE)")
      have ends : "T00:00:00.000Z' AS DATE)" = "T00:00:00.000Z" ++ ("'" ++ " AS DATE)") := rfl
      exact whole.of_eq (by simp only [literalText, ends, String.append_assoc])

/-- Values with commas between them are their strings. -/
theorem shows_literals (values : List Value) :
    Shows (", ".intercalate (values.map literalText))
      ((plain ", ").intercalate (values.map literalLexemes)) (values.map content) [] := by
  induction values with
  | nil => exact .ofPlain (by decide : Plain "")
  | cons first rest ih =>
      cases rest with
      | nil => simpa using shows_literal first
      | cons second others =>
          have whole := (shows_literal first).joined (by decide : Plain ", ") (by decide) ih
          simpa [String.intercalate_cons_cons, List.intercalate_cons_cons] using whole

/-- A link has the identifiers of the properties that it equates. -/
theorem shows_link {condition : JoinCondition} {tie : Link} (stated : link condition = .ok tie)
    (free : PlainAliases condition.selectors) :
    Shows tie.text tie.lexemes [] (linkNames condition) := by
  cases condition with
  | equal left right =>
      simp only [JoinCondition.selectors, plainAliases_cons] at free
      simp only [link, exceptBind_eq_ok] at stated
      rcases stated with ⟨first, leftStated, second, rightStated, made⟩
      cases made
      exact (shows_nodeProperty leftStated free.1).joined (by decide : Plain " = ") (by decide)
        (shows_nodeProperty rightStated free.2.1)
  | child lower upper =>
      simp only [JoinCondition.selectors, plainAliases_cons] at free
      cases stated
      apply Shows.ofPlain
      simp only [Link.text, plain_append, free.1, free.2.1]
      decide

/-- The rows of a single selector have the identifier of a node type. -/
theorem shows_selector {selector : Selector} {rows : Rows}
    (stated : backend.selector selector = .ok rows) (free : Plain selector.aliasName) :
    Shows rows.text rows.lexemes [] (typeNames selector) := by
  rcases exceptBind_eq_ok.mp stated with ⟨type, typed, made⟩
  cases made
  have alone : typeNames selector = [type.text] := by simp [typeNames, typed, Except.toOption]
  have sound : ']' ∉ type.text.toList := by cases type <;> decide
  rw [alone]
  have named : Plain (" AS " ++ selector.aliasName) := plain_append.mpr ⟨by decide, free⟩
  have whole := (Shows.identifier sound).before named
  have closing : "] AS " = "]" ++ " AS " := rfl
  exact whole.of_eq (by simp only [Rows.text, closing, String.append_assoc])

/-- Rows have the identifiers of their source. -/
theorem shows_source {source : Source} {rows : Rows} (stated : backend.source source = .ok rows)
    (free : PlainAliases source.mentioned) :
    Shows rows.text rows.lexemes [] (sourceNames source) := by
  induction source generalizing rows with
  | single selector => exact shows_selector stated (free selector (List.mem_singleton_self _))
  | join left right kind condition ih =>
      simp only [Source.mentioned, plainAliases_append, plainAliases_cons] at free
      simp only [Backend.source, exceptBind_eq_ok] at stated
      rcases stated with ⟨before, leftStated, joined, rightStated, stated⟩
      rcases exceptBind_eq_ok.mp stated with ⟨tie, linked, made⟩
      cases made
      have keyword : Plain (" " ++ Rows.joinText kind ++ " ") := by cases kind <;> decide
      have nonempty : " " ++ Rows.joinText kind ++ " " ≠ "" := by cases kind <;> decide
      have pair := (ih leftStated free.1).joined keyword nonempty
        (shows_selector rightStated free.2.1)
      have whole := pair.joined (by decide : Plain " ON ") (by decide)
        (shows_link linked free.2.2)
      exact whole.of_eq (by simp only [Rows.text, String.append_assoc])

theorem Condition.text_comparison (property : NodeProperty) (operator : Operator) (value : Value) :
    (Condition.comparison property operator value).text =
      property.text ++ " " ++ operator.symbol ++ " " ++ literalText value := rfl

theorem Condition.text_never (aliasName : String) :
    (Condition.never aliasName).text =
      "NOT ISDESCENDANTNODE(" ++ aliasName ++ ", '/')" := rfl

theorem Condition.text_descendant (aliasName path : String) :
    (Condition.descendant aliasName path).text =
      "ISDESCENDANTNODE(" ++ aliasName ++ ", " ++ quoted path ++ ")" := rfl

theorem sound_entryLabel {kind : NodeKind} {label : String}
    (labelled : entryLabel? kind = some label) : ']' ∉ label.toList := by
  revert label
  cases kind <;> decide

theorem shows_present {property : NodeProperty} {named : List String}
    (read : Shows property.text property.lexemes [] named) :
    Shows (Condition.present property).text (Condition.present property).lexemes [] named :=
  read.before (by decide : Plain " IS NOT NULL")

theorem shows_comparison {property : NodeProperty} {named : List String}
    (read : Shows property.text property.lexemes [] named) (operator : Operator) (value : Value) :
    Shows (Condition.comparison property operator value).text
      (Condition.comparison property operator value).lexemes [content value] named := by
  have symbol : Plain (" " ++ operator.symbol ++ " ") := by cases operator <;> decide
  have nonempty : " " ++ operator.symbol ++ " " ≠ "" := by cases operator <;> decide
  have whole := read.joined symbol nonempty (shows_literal value)
  rw [List.append_nil] at whole
  exact whole.of_eq (by simp only [Condition.text_comparison, String.append_assoc])

/-- A test of an entry is one identifier, and the content of its value if it has one. -/
theorem shows_entryTest {subquery : Subquery} {test : EntryTest} {aliasName : String}
    {condition : Condition} (recognized : EntryTest.ofSubquery? subquery = some test)
    (stated : test.state aliasName = .ok condition) (free : Plain aliasName) :
    Shows condition.text condition.lexemes
      (test.comparison.toList.map fun (_, value) => content value)
      [test.label ++ ":" ++ test.key] := by
  rcases EntryTest.ofSubquery?_eq_some_iff.mp recognized with
    ⟨owner, entry, -, -, labelled, -⟩
  rcases EntryTest.state_eq_ok.mp stated with ⟨soundKey, made⟩
  have sound : ']' ∉ (test.label ++ ":" ++ test.key).toList := by
    simp [sound_entryLabel labelled, soundKey]
  have read := shows_property free sound
  subst made
  split
  next none => simpa [none] using shows_present read
  next operator value compared => simpa [compared] using shows_comparison read operator value

/-- A test of membership has the contents of all its values. -/
theorem shows_oneOf {operand : Operand} {values : List Value} {condition : Condition}
    (stated : oneOf operand values = .ok condition) (free : Plain operand.selector.aliasName) :
    Shows condition.text condition.lexemes (contents (.oneOf operand values))
      (names (.oneOf operand values)) := by
  unfold oneOf at stated
  simp only [contents, names]
  split at stated
  next none =>
      cases stated
      simp only [none, if_true]
      have opening : Plain ("NOT ISDESCENDANTNODE(" ++ operand.selector.aliasName ++ ", ") := by
        simp only [plain_append, free]
        decide
      have whole := ((Shows.string "/").after opening).before (by decide : Plain ")")
      have root : ", '/')" = ", " ++ (quoted "/" ++ ")") := rfl
      exact whole.of_eq (by simp only [Condition.text_never, root, String.append_assoc])
  next some =>
      rcases exceptBind_eq_ok.mp stated with ⟨property, placed, made⟩
      cases made
      simp only [some, Bool.false_eq_true, if_false]
      have whole := ((shows_nodeProperty placed free).joined (by decide : Plain " IN (")
        (by decide) (shows_literals values)).before (by decide : Plain ")")
      rw [List.append_nil] at whole
      exact whole

/-- The rows of a second query have the identifiers of their source. -/
theorem shows_within {rows : Correlation} {joined : Rows} {outer selected : NodeProperty}
    (source : backend.source rows.source = .ok joined)
    (left : nodeProperty rows.outer = .ok outer)
    (right : nodeProperty rows.correlated = .ok selected)
    (free : PlainAliases rows.mentioned) :
    Shows (Condition.withinText outer selected joined) (withinLexemes outer selected joined) []
      (propertyNames rows.outer ++ propertyNames rows.correlated ++ sourceNames rows.source) := by
  simp only [Correlation.mentioned, plainAliases_append, plainAliases_cons] at free
  have pair := (shows_nodeProperty left free.2.2.1).joined (by decide : Plain " IN (SELECT ")
    (by decide) (shows_nodeProperty right free.2.1)
  exact pair.joined (by decide : Plain " FROM ") (by decide) (shows_source source free.1)

/-- Every condition has the strings and the identifiers that stand for its constraint. -/
theorem shows_constraint {constraint : Constraint} {condition : Condition}
    (stated : backend.constraint constraint = .ok condition)
    (free : PlainAliases constraint.mentioned) :
    Shows condition.text condition.lexemes (contents constraint) (names constraint) := by
  induction constraint generalizing condition with
  | and left right leftIH rightIH =>
      simp only [Constraint.mentioned, plainAliases_append] at free
      rcases and_eq_ok.mp stated with ⟨first, second, leftStated, rightStated, rfl⟩
      exact ((leftIH leftStated free.1).enclosed _ _).joined (by decide : Plain " AND ")
        (by decide) ((rightIH rightStated free.2).enclosed _ _)
  | or left right leftIH rightIH =>
      simp only [Constraint.mentioned, plainAliases_append] at free
      rcases or_eq_ok.mp stated with ⟨first, second, leftStated, rightStated, rfl⟩
      exact ((leftIH leftStated free.1).enclosed _ _).joined (by decide : Plain " OR ")
        (by decide) ((rightIH rightStated free.2).enclosed _ _)
  | not inner ih =>
      rcases not_eq_ok.mp stated with ⟨inner', innerStated, rfl⟩
      exact ((ih innerStated free).after (by decide : Plain "NOT (")).before
        (by decide : Plain ")")
  | comparison operand operator value =>
      rcases exceptBind_eq_ok.mp stated with ⟨property, placed, made⟩
      cases made
      have alone := free operand.selector (List.mem_singleton_self _)
      exact shows_comparison (shows_nodeProperty placed alone) operator value
  | present operand =>
      rcases exceptBind_eq_ok.mp stated with ⟨property, placed, made⟩
      cases made
      have alone := free operand.selector (List.mem_singleton_self _)
      exact shows_present (shows_nodeProperty placed alone)
  | oneOf operand values =>
      exact shows_oneOf stated (free operand.selector (List.mem_singleton_self _))
  | descendant selector path =>
      cases stated
      have opening : Plain ("ISDESCENDANTNODE(" ++ selector.aliasName ++ ", ") := by
        simp only [plain_append, free selector (List.mem_singleton_self _)]
        decide
      have whole := ((Shows.string path).after opening).before (by decide : Plain ")")
      exact whole.of_eq (by simp only [Condition.text_descendant, String.append_assoc])
  | existsRow rows =>
      rcases (existence_eq_ok (by simp [EntryTest.ofSubquery?])).mp stated with
        ⟨joined, source, outer, left, selected, right, absent, made, rfl⟩
      cases made
      exact (shows_within source left right free).before (by decide : Plain ")")
  | existsRowWith rows inner ih =>
      simp only [Constraint.mentioned, plainAliases_append] at free
      simp only [contents, names]
      cases recognized : EntryTest.ofSubquery? ⟨rows, some inner⟩ with
      | some test =>
          simp only [Backend.constraint, backend, existence, recognized] at stated
          have outside : Plain rows.outer.selector.aliasName :=
            free.1 rows.outer.selector (by simp [Correlation.mentioned])
          exact shows_entryTest recognized stated outside
      | none =>
          rcases (existence_eq_ok recognized).mp stated with
            ⟨joined, source, outer, left, selected, right, inner', innerStated, rfl⟩
          rcases exceptMap_eq_ok.mp innerStated with ⟨found, innerRun, rfl⟩
          exact ((shows_within source left right free.1).joined (by decide : Plain " WHERE ")
            (by decide) (ih innerRun free.2)).before (by decide : Plain ")")

/-- A statement without an order has the identifiers of its source, and what stands for
its constraint if there is one. -/
theorem shows_unordered {source : Source} {rows : Rows} {result : String}
    (sourceStated : backend.source source = .ok rows) (sourceFree : PlainAliases source.mentioned)
    (resultFree : Plain result) {constraint : Option Constraint} {condition : Option Condition}
    (stated : (match constraint with
      | none => Except.ok none
      | some constraint => some <$> backend.constraint constraint) = .ok condition)
    (free : PlainAliases ((constraint.map Constraint.mentioned).getD [])) :
    Shows (Statement.mk result rows condition none).text
      (Statement.mk result rows condition none).lexemes ((constraint.map contents).getD [])
      (sourceNames source ++ (constraint.map names).getD []) := by
  have opening : Plain ("SELECT " ++ result ++ ".* FROM ") := by
    simp only [plain_append, resultFree]
    decide
  have selects := (shows_source sourceStated sourceFree).after opening
  unfold Statement.text Statement.lexemes
  cases constraint with
  | none =>
      cases stated
      simpa using selects
  | some constraint =>
      rcases exceptMap_eq_ok.mp stated with ⟨found, run, rfl⟩
      have whole := selects.joined (by decide : Plain " WHERE ") (by decide)
        (shows_constraint run free)
      simpa [String.append_assoc] using whole

/-- What a plan is stated as has the strings and the identifiers that stand for it. -/
theorem shows_realize {plan : Plan} {statement : Statement}
    (stated : realize plan = .ok statement) (free : PlainAliases plan.mentioned) :
    Shows statement.text statement.lexemes (planContents plan) (planNames plan) := by
  rcases realize_eq_ok.mp stated with
    ⟨rows, condition, ordered, sourceStated, conditionStated, sorted, rfl⟩
  simp only [Plan.mentioned, plainAliases_append, plainAliases_cons] at free
  rcases free with ⟨⟨sourceFree, constraintFree⟩, columnFree, orderFree⟩
  have unordered := shows_unordered sourceStated sourceFree columnFree conditionStated
    constraintFree
  unfold planContents planNames
  cases sorting : plan.ordering with
  | none =>
      rw [sorting] at sorted
      cases sorted
      simpa using unordered
  | some request =>
      rw [sorting] at sorted orderFree
      rcases exceptBind_eq_ok.mp sorted with ⟨property, placed, made⟩
      cases made
      have direction : Plain (if request.ascending then " ASC" else " DESC") := by
        split <;> decide
      have placedFree : Plain request.operand.selector.aliasName := orderFree _ (by simp)
      have whole := (unordered.joined (by decide : Plain " ORDER BY ") (by decide)
        (shows_nodeProperty placed placedFree)).before direction
      unfold Statement.text Statement.lexemes at whole ⊢
      simpa [Order.text, Order.lexemes, String.append_assoc] using whole

end Sramp.Hierarchical
