import Mathlib.Data.List.Chain
import Sramp.Text.Quoted

/-!
# Reading statements of the hierarchical store

A reader of a statement takes its characters from left to right.  A quote mark opens a
string, which ends at the next quote mark that is not doubled; a bracket opens an
identifier, which ends at the first closing bracket.  What such a reader finds in a text
written from lexemes is those lexemes, as long as no two strings stand side by side.
-/

namespace Sramp.Hierarchical

open Text

/-- What a reader tells apart: strings, identifiers in brackets, and other characters. -/
inductive Lexeme where
  | string (content : String)
  | identifier (name : String)
  | char (character : Char)
  deriving DecidableEq

/-- Where a reader stands, with what it has read of a string or an identifier. -/
inductive Place where
  | outside
  | inString (read : List Char)
  | inIdentifier (read : List Char)

/-- Reads on from a place.  There is no result if the text ends inside a string or an
identifier. -/
def lexFrom : Place → List Char → Option (List Lexeme)
  | .outside, [] => some []
  | .outside, c :: rest =>
      if c = quoteMark then lexFrom (.inString []) rest
      else if c = '[' then lexFrom (.inIdentifier []) rest
      else (lexFrom .outside rest).map (.char c :: ·)
  | .inString _, [] => none
  | .inString read, [c] => if c = quoteMark then some [.string (.ofList read)] else none
  | .inString read, c :: next :: rest =>
      if c = quoteMark then
        if next = quoteMark then lexFrom (.inString (read ++ [quoteMark])) rest
        else (lexFrom .outside (next :: rest)).map (.string (.ofList read) :: ·)
      else lexFrom (.inString (read ++ [c])) (next :: rest)
  | .inIdentifier _, [] => none
  | .inIdentifier read, c :: rest =>
      if c = ']' then (lexFrom .outside rest).map (.identifier (.ofList read) :: ·)
      else lexFrom (.inIdentifier (read ++ [c])) rest

/-- The lexemes of a text. -/
def lex (text : String) : Option (List Lexeme) :=
  lexFrom .outside text.toList

namespace Lexeme

/-- The characters with which a lexeme is written. -/
def chars : Lexeme → List Char
  | .string content => quoteMark :: doubled content.toList ++ [quoteMark]
  | .identifier name => '[' :: name.toList ++ [']']
  | .char c => [c]

/-- Whether a lexeme is a string. -/
def isString : Lexeme → Bool
  | .string _ => true
  | _ => false

/-- A lexeme that can be written: a character stands for itself, and an identifier holds
no closing bracket. -/
def Sound : Lexeme → Prop
  | .string _ => True
  | .identifier name => ']' ∉ name.toList
  | .char c => c ≠ quoteMark ∧ c ≠ '['

/-- A lexeme without the content of a string. -/
def masked : Lexeme → Lexeme
  | .string _ => .string ""
  | other => other

end Lexeme

/-- The contents of the strings among lexemes. -/
def strings (lexemes : List Lexeme) : List String :=
  lexemes.filterMap fun
    | .string content => some content
    | _ => none

/-- The identifiers among lexemes. -/
def identifiers (lexemes : List Lexeme) : List String :=
  lexemes.filterMap fun
    | .identifier name => some name
    | _ => none

/-- A string ends at the quote mark after its content, unless another one follows. -/
theorem lexFrom_inString {rest : List Char} (ends : rest.head? ≠ some quoteMark)
    (content read : List Char) :
    lexFrom (.inString read) (doubled content ++ quoteMark :: rest) =
      (lexFrom .outside rest).map (.string (.ofList (read ++ content)) :: ·) := by
  induction content generalizing read with
  | nil =>
      cases rest with
      | nil => simp [lexFrom]
      | cons next more =>
          have other : next ≠ quoteMark := by simpa using ends
          simp [lexFrom, other]
  | cons c content ih =>
      rcases List.exists_cons_of_ne_nil (l := doubled content ++ quoteMark :: rest) (by simp)
        with ⟨next, more, split⟩
      by_cases mark : c = quoteMark
      · subst mark
        simp [doubled, lexFrom, ih]
      · have continues := ih (read ++ [c])
        simp only [split] at continues
        simp [doubled, mark, split, lexFrom, continues]

/-- An identifier ends at the closing bracket after its name. -/
theorem lexFrom_inIdentifier {name : List Char} (sound : ']' ∉ name) (rest read : List Char) :
    lexFrom (.inIdentifier read) (name ++ ']' :: rest) =
      (lexFrom .outside rest).map (.identifier (.ofList (read ++ name)) :: ·) := by
  induction name generalizing read with
  | nil => simp [lexFrom]
  | cons c name ih =>
      simp only [List.mem_cons, not_or] at sound
      simp [lexFrom, Ne.symm sound.1, ih sound.2]

/-- Lexemes of which no two neighbours are strings are read back as they were written. -/
theorem lexFrom_chars {lexemes : List Lexeme} (sound : ∀ lexeme ∈ lexemes, lexeme.Sound)
    (apart : lexemes.IsChain fun left right => ¬(left.isString ∧ right.isString)) :
    lexFrom .outside (lexemes.flatMap Lexeme.chars) = some lexemes := by
  induction lexemes with
  | nil => rfl
  | cons first rest ih =>
      simp only [List.mem_cons, forall_eq_or_imp] at sound
      have follows := ih sound.2 apart.tail
      cases first with
      | string content =>
          have ends : (rest.flatMap Lexeme.chars).head? ≠ some quoteMark := by
            cases rest with
            | nil => simp
            | cons second others =>
                rw [List.isChain_cons_cons] at apart
                cases second with
                | string other => exact absurd ⟨rfl, rfl⟩ apart.1
                | identifier name => simp [Lexeme.chars, quoteMark]
                | char c =>
                    have plain := sound.2 _ List.mem_cons_self
                    simpa [Lexeme.chars] using plain.1
          have whole := lexFrom_inString ends content.toList []
          rw [follows] at whole
          simpa [Lexeme.chars, lexFrom] using whole
      | identifier name =>
          have whole := lexFrom_inIdentifier sound.1 (rest.flatMap Lexeme.chars) []
          rw [follows] at whole
          simpa [Lexeme.chars, lexFrom, quoteMark] using whole
      | char c =>
          simp [Lexeme.chars, lexFrom, sound.1.1, sound.1.2, follows]

/-- A text without quote marks and opening brackets. -/
def Plain (text : String) : Prop :=
  quoteMark ∉ text.toList ∧ '[' ∉ text.toList

instance (text : String) : Decidable (Plain text) :=
  inferInstanceAs (Decidable (_ ∧ _))

@[simp] theorem plain_append {first second : String} :
    Plain (first ++ second) ↔ Plain first ∧ Plain second := by
  simp only [Plain, String.toList_append, List.mem_append, not_or]
  tauto

/-- Texts of letters and digits are plain. -/
theorem plain_of_isAlphanum {text : String}
    (letters : ∀ c ∈ text.toList, c.isAlphanum = true) : Plain text := by
  constructor
  · intro member
    exact absurd (letters _ member) (by decide)
  · intro member
    exact absurd (letters _ member) (by decide)

/-- The lexemes of a plain text. -/
def plain (text : String) : List Lexeme :=
  text.toList.map .char

@[simp] theorem strings_append (early late : List Lexeme) :
    strings (early ++ late) = strings early ++ strings late :=
  List.filterMap_append

@[simp] theorem identifiers_append (early late : List Lexeme) :
    identifiers (early ++ late) = identifiers early ++ identifiers late :=
  List.filterMap_append

@[simp] theorem strings_plain (text : String) : strings (plain text) = [] := by
  simp [strings, plain, List.filterMap_map]

@[simp] theorem identifiers_plain (text : String) : identifiers (plain text) = [] := by
  simp [identifiers, plain, List.filterMap_map]

/-- A text is written from lexemes, and read back as them. -/
structure Lexed (text : String) (lexemes : List Lexeme) : Prop where
  written : lexemes.flatMap Lexeme.chars = text.toList
  sound : ∀ lexeme ∈ lexemes, lexeme.Sound
  apart : lexemes.IsChain fun left right => ¬(left.isString ∧ right.isString)

namespace Lexed

variable {text first second : String} {lexemes others : List Lexeme}

theorem lex_eq (lexed : Lexed text lexemes) : lex text = some lexemes := by
  rw [lex, ← lexed.written]
  exact lexFrom_chars lexed.sound lexed.apart

theorem string (content : String) : Lexed (quoted content) [.string content] where
  written := by simp [Lexeme.chars, quoted, quoteMark]
  sound := by simp [Lexeme.Sound]
  apart := .singleton _

theorem identifier {name : String} (sound : ']' ∉ name.toList) :
    Lexed ("[" ++ name ++ "]") [.identifier name] where
  written := by simp [Lexeme.chars]
  sound := by simpa [Lexeme.Sound] using sound
  apart := .singleton _

theorem ofPlain (free : Plain text) : Lexed text (plain text) where
  written := by simp [plain, Lexeme.chars, List.flatMap_map]
  sound := by
    intro lexeme member
    rcases List.mem_map.mp member with ⟨c, inText, rfl⟩
    constructor
    · rintro rfl
      exact free.1 inText
    · rintro rfl
      exact free.2 inText
  apart := by
    apply List.Pairwise.isChain
    simpa [plain, List.pairwise_map, Lexeme.isString] using
      List.pairwise_of_forall fun _ _ => trivial

/-- Texts follow one another if no two strings meet. -/
theorem append (one : Lexed first lexemes) (other : Lexed second others)
    (meet : ∀ left ∈ lexemes.getLast?, ∀ right ∈ others.head?,
      ¬(left.isString ∧ right.isString)) :
    Lexed (first ++ second) (lexemes ++ others) where
  written := by simp [one.written, other.written]
  sound := by
    intro lexeme member
    rcases List.mem_append.mp member with early | late
    · exact one.sound lexeme early
    · exact other.sound lexeme late
  apart := List.isChain_append.mpr ⟨one.apart, other.apart, meet⟩

/-- The lexemes of plain texts are no strings. -/
theorem not_isString_of_plain {lexeme : Lexeme} (member : lexeme ∈ plain text) :
    ¬lexeme.isString := by
  rcases List.mem_map.mp member with ⟨c, -, rfl⟩
  simp [Lexeme.isString]

theorem after (free : Plain first) (lexed : Lexed second others) :
    Lexed (first ++ second) (plain first ++ others) := by
  apply (ofPlain free).append lexed
  intro left last right _ both
  exact not_isString_of_plain (List.mem_of_getLast? last) both.1

theorem before (lexed : Lexed first lexemes) (free : Plain second) :
    Lexed (first ++ second) (lexemes ++ plain second) := by
  apply lexed.append (ofPlain free)
  intro left _ right head both
  exact not_isString_of_plain (List.mem_of_head? head) both.2

/-- Plain text keeps strings apart. -/
theorem joined {middle : String} (one : Lexed first lexemes) (free : Plain middle)
    (parts : middle ≠ "") (other : Lexed second others) :
    Lexed (first ++ middle ++ second) (lexemes ++ plain middle ++ others) := by
  apply (one.before free).append other
  intro left last right _ both
  have inMiddle : left ∈ plain middle := by
    have nonempty : plain middle ≠ [] := by simpa [plain] using parts
    rw [List.getLast?_append_of_ne_nil _ nonempty] at last
    exact List.mem_of_getLast? last
  exact not_isString_of_plain inMiddle both.1

end Lexed

end Sramp.Hierarchical
