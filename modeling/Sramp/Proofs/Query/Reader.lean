import Sramp.Proofs.Double.Text
import Sramp.Proofs.Query.Canonical

/-!
# Reading query text

A reader for the text of regular predicates, with one function for each kind of part.  How a number
is read from its text is a parameter.  What the reader takes ends where nothing that may follow
goes on with it.
-/

namespace Sramp.Query

open Text

/-- The characters that end every part of a predicate. -/
def closers : List Char := [')', ']', ',']

/-- Nothing is left, or a character that ends every part, or one of some connecting texts. -/
inductive Ends (connectives : List String) : List Char → Prop where
  | nothing : Ends connectives []
  | closer {c : Char} (closes : c ∈ closers) (rest : List Char) : Ends connectives (c :: rest)
  | connective {text : String} (connects : text ∈ connectives) (rest : List Char) :
      Ends connectives (text.toList ++ rest)

variable {connectives others : List String} {chars rest : List Char}

theorem Ends.mono (ends : Ends connectives rest) (more : connectives ⊆ others) :
    Ends others rest := by
  cases ends with
  | nothing => exact .nothing
  | closer closes rest => exact .closer closes rest
  | connective connects rest => exact .connective (more connects) rest

/-- Whether a character ends all names, numbers and quoted texts. -/
def isStop (c : Char) : Bool :=
  c == ' ' || c ∈ closers

/-- What is left does not go on with a name, a number or a quoted text. -/
def Stops (rest : List Char) : Prop :=
  ∀ c ∈ rest.head?, isStop c = true

/-- The texts that connect tests. -/
def connecting : List String := [" and ", " or "]

theorem Ends.stops (ends : Ends connectives rest) (known : connectives ⊆ connecting) :
    Stops rest := by
  cases ends with
  | nothing => simp [Stops]
  | closer closes rest => simp [Stops, isStop, closes]
  | connective connects rest =>
      have among := known connects
      simp only [connecting, List.mem_cons, List.not_mem_nil, or_false] at among
      rcases among with rfl | rfl <;> simp [Stops, isStop]

theorem Ends.append {text : String} (closes : ∃ c ∈ text.toList.head?, c ∈ closers)
    (rest : List Char) : Ends connectives (text.toList ++ rest) := by
  obtain ⟨c, first, among⟩ := closes
  obtain ⟨others, shape⟩ := List.head?_eq_some_iff.mp first
  rw [shape]
  exact .closer among (others ++ rest)

/-- What is left of characters after a text in front of them. -/
def after? (text : String) (chars : List Char) : Option (List Char) :=
  text.toList.isPrefixOf? chars

@[simp] theorem after?_append (text : String) (rest : List Char) :
    after? text (text.toList ++ rest) = some rest := by
  rw [after?]
  induction text.toList with
  | nil => rfl
  | cons c front ih => simp [List.isPrefixOf?, ih]

/-- A connective that is not among those that may follow does not follow. -/
theorem Ends.after?_eq_none (ends : Ends connectives rest) {text : String}
    (known : connectives ⊆ connecting) (connects : text ∈ connecting)
    (excluded : text ∉ connectives) : after? text rest = none := by
  simp only [connecting, List.mem_cons, List.not_mem_nil, or_false] at connects
  cases ends with
  | nothing => rcases connects with rfl | rfl <;> rfl
  | closer closes rest =>
      simp only [closers, List.mem_cons, List.not_mem_nil, or_false] at closes
      rcases connects with rfl | rfl <;> rcases closes with rfl | rfl | rfl <;> rfl
  | @connective other among rest =>
      have different : other ≠ text := fun same => excluded (same ▸ among)
      have known := known among
      simp only [connecting, List.mem_cons, List.not_mem_nil, or_false] at known
      rcases connects with rfl | rfl <;> rcases known with rfl | rfl <;>
        first | exact absurd rfl different | rfl

/-- What goes on with nothing begins with none of the texts that do. -/
theorem Stops.after?_eq_none (stops : Stops rest) {text : String}
    (goesOn : ∃ c ∈ text.toList.head?, isStop c = false) : after? text rest = none := by
  obtain ⟨c, begins, going⟩ := goesOn
  obtain ⟨others, shape⟩ := List.head?_eq_some_iff.mp begins
  rw [after?, shape]
  cases rest with
  | nil => rfl
  | cons d rest =>
      have different : c ≠ d := by
        rintro rfl
        rw [stops c rfl] at going
        contradiction
      simp [List.isPrefixOf?, different]

/-- The name in front of characters. -/
def nameOf (chars : List Char) : String :=
  String.ofList (chars.takeWhile isNameChar)

/-- What is left after the name in front. -/
def afterName (chars : List Char) : List Char :=
  chars.dropWhile isNameChar

/-- What is left does not go on with a name. -/
def EndsName (rest : List Char) : Prop :=
  ∀ c ∈ rest.head?, isNameChar c = false

theorem eq_of_isStop {c : Char} (stop : isStop c = true) :
    c = ' ' ∨ c = ')' ∨ c = ']' ∨ c = ',' := by
  simpa [isStop, closers] using stop

theorem Stops.endsName (stops : Stops rest) : EndsName rest := by
  intro c first
  rcases eq_of_isStop (stops c first) with rfl | rfl | rfl | rfl <;> decide

theorem endsName_cons {c : Char} (outside : isNameChar c = false) (rest : List Char) :
    EndsName (c :: rest) := by
  intro d first
  cases first
  exact outside

theorem takeWhile_append_dropWhile_append {belongs : Char → Bool}
    (inside : ∀ c ∈ chars, belongs c = true) (outside : ∀ c ∈ rest.head?, belongs c = false) :
    (chars ++ rest).takeWhile belongs = chars ∧ (chars ++ rest).dropWhile belongs = rest := by
  rw [List.takeWhile_append_of_pos inside, List.dropWhile_append_of_pos inside]
  cases rest with
  | nil => simp
  | cons c rest => simp [outside c rfl]

theorem isNameChar_of_isIdentifier {name : String} (identifier : isIdentifier name = true) :
    ∀ c ∈ name.toList, isNameChar c = true := by
  unfold isIdentifier at identifier
  split at identifier
  · contradiction
  next c rest shape =>
      rw [Bool.and_eq_true, List.all_eq_true] at identifier
      rw [shape, List.forall_mem_cons]
      exact ⟨by simp [isNameChar, identifier.1], identifier.2⟩

/-- An identifier is read up to where nothing goes on with it. -/
theorem nameOf_append {name : String} (identifier : isIdentifier name = true)
    (ends : EndsName rest) :
    nameOf (name.toList ++ rest) = name ∧ afterName (name.toList ++ rest) = rest := by
  have cut := takeWhile_append_dropWhile_append (isNameChar_of_isIdentifier identifier) ends
  exact ⟨by rw [nameOf, cut.1, String.ofList_toList], cut.2⟩

/-- An identifier begins as a name does. -/
theorem head_of_isIdentifier {name : String} (identifier : isIdentifier name = true) :
    ∃ c rest, name.toList = c :: rest ∧ isNameStart c = true := by
  unfold isIdentifier at identifier
  split at identifier
  · contradiction
  next c rest shape =>
      rw [Bool.and_eq_true] at identifier
      exact ⟨c, rest, shape, identifier.1⟩

/-- A text up to the quote mark that ends it, in which quote marks are doubled, and what is left
after that. -/
def readQuoted : List Char → Option (List Char × List Char)
  | [] => none
  | [c] => if c = quoteMark then some ([], []) else none
  | c :: d :: rest =>
      if c = quoteMark then
        if d = quoteMark then (readQuoted rest).map fun (text, rest) => (quoteMark :: text, rest)
        else some ([], d :: rest)
      else (readQuoted (d :: rest)).map fun (text, rest) => (c :: text, rest)

theorem readQuoted_doubled (text : List Char) (stops : Stops rest) :
    readQuoted (doubled text ++ quoteMark :: rest) = some (text, rest) := by
  have last : readQuoted (quoteMark :: rest) = some ([], rest) := by
    cases rest with
    | nil => rfl
    | cons c rest =>
        have different : c ≠ quoteMark := by
          rcases eq_of_isStop (stops c rfl) with rfl | rfl | rfl | rfl <;> decide
        rw [readQuoted, if_pos rfl, if_neg different]
  induction text with
  | nil => exact last
  | cons c text ih =>
      rw [doubled]
      split
      next mark =>
          rw [mark, List.cons_append, List.cons_append, readQuoted, if_pos rfl, if_pos rfl, ih]
          rfl
      next other =>
          obtain ⟨d, others, shape⟩ : ∃ d others,
              doubled text ++ quoteMark :: rest = d :: others := by
            cases doubled text with
            | nil => exact ⟨quoteMark, rest, rfl⟩
            | cons d others => exact ⟨d, _, rfl⟩
          rw [List.cons_append, shape, readQuoted, if_neg other, ← shape, ih]
          rfl

/-- Reads a primary.  How a number is read from its text is given. -/
def readPrimary (number : String → Double) : List Char → Option (Primary × List Char)
  | [] => none
  | c :: rest =>
      if c = quoteMark then
        (readQuoted rest).map fun (text, rest) => (.literal (String.ofList text), rest)
      else if c = '$' then some (.property (.plain (nameOf rest)), afterName rest)
      else if c = '.' then some (.contextItem, rest)
      else if c.isDigit || c == '-' then
        some (.number (number (String.ofList ((c :: rest).takeWhile isNumeral))),
          (c :: rest).dropWhile isNumeral)
      else none

/-- Numbers are read from their texts. -/
def Inverts (number : String → Double) : Prop :=
  ∀ x : Double, x.isFinite = true → number (Primary.number x).text = x

theorem exists_inverts : ∃ number, Inverts number := by
  classical
  let texts (text : String) (x : Double) : Prop :=
    x.isFinite = true ∧ (Primary.number x).text = text
  refine ⟨fun text => if found : ∃ x, texts text x then found.choose else .nan, ?_⟩
  intro x finite
  have found : ∃ y, texts (Primary.number x).text y := ⟨x, finite, rfl⟩
  simp only [dif_pos found]
  exact Primary.number_text_injective found.choose_spec.1 finite found.choose_spec.2

theorem isNumeral_of_mem_number (x : Double) :
    ∀ c ∈ (Primary.number x).text.toList, isNumeral c = true := by
  rw [Primary.text]
  split
  · apply x.isNumeral_of_mem_signed
    intro c member
    exact isNumeral_of_mem_toDigits member
  · exact x.isNumeral_of_mem_text

/-- A number begins with a digit or a sign. -/
theorem head_number {x : Double} (finite : x.isFinite = true) :
    ∃ c rest, (Primary.number x).text.toList = c :: rest ∧ (c.isDigit || c == '-') = true := by
  obtain ⟨c, rest, shape, digit⟩ := x.head_magnitudeChars
  rw [Primary.text_number finite, Double.signed, String.toList_ofList, shape]
  split
  · exact ⟨'-', c :: rest, rfl, rfl⟩
  · exact ⟨c, rest, rfl, by rw [digit, Bool.true_or]⟩

variable {number : String → Double}

theorem eq_plain_of_isPropertyName {name : QName} (named : isPropertyName name = true) :
    isIdentifier name.localName = true ∧ name = .plain name.localName := by
  rw [isPropertyName, Bool.and_eq_true, beq_iff_eq] at named
  exact named

theorem text_plain (localName : String) : (QName.plain localName).text = localName := rfl

/-- A regular primary is read from its text. -/
theorem readPrimary_text (inverts : Inverts number) {primary : Primary}
    (regular : primary.isRegular = true) (stops : Stops rest) :
    readPrimary number (primary.text.toList ++ rest) = some (primary, rest) := by
  cases primary with
  | literal text =>
      have shape : (Primary.literal text).text.toList ++ rest =
          quoteMark :: (doubled text.toList ++ quoteMark :: rest) := by
        simp [Primary.text, quoted, quoteMark]
      rw [shape, readPrimary, if_pos rfl, readQuoted_doubled _ stops]
      simp
  | number x =>
      have finite : x.isFinite = true := regular
      obtain ⟨c, others, shape, begins⟩ := head_number finite
      have ends : ∀ d ∈ rest.head?, isNumeral d = false := by
        intro d first
        rcases eq_of_isStop (stops d first) with rfl | rfl | rfl | rfl <;> decide
      have cut := takeWhile_append_dropWhile_append (isNumeral_of_mem_number x) ends
      rw [shape] at cut
      have different : c ≠ quoteMark ∧ c ≠ '$' ∧ c ≠ '.' := by
        refine ⟨?_, ?_, ?_⟩ <;> rintro rfl <;> contradiction
      rw [shape, List.cons_append, readPrimary, if_neg different.1, if_neg different.2.1,
        if_neg different.2.2, if_pos begins, ← List.cons_append, cut.1, cut.2, ← shape,
        String.ofList_toList, inverts x finite]
  | property name =>
      obtain ⟨identifier, plain⟩ := eq_plain_of_isPropertyName regular
      have read := nameOf_append identifier stops.endsName
      have shape : (Primary.property name).text.toList ++ rest =
          '$' :: (name.localName.toList ++ rest) := by
        rw [Primary.text, plain, text_plain]
        simp [QName.plain]
      rw [shape, readPrimary, if_neg (by decide), if_pos rfl, read.1, read.2, ← plain]
  | contextItem => rfl

/-- Reads an operator with a space in front. -/
def readOperator (chars : List Char) : Option (Operator × List Char) := do
  let rest ← after? " " chars
  let operator ← Operator.ofText? (String.ofList (rest.takeWhile (· != ' ')))
  return (operator, rest.dropWhile (· != ' '))

/-- Reads an operator and the primary behind it. -/
def readCompared (number : String → Double) (chars : List Char) :
    Option ((Operator × Primary) × List Char) := do
  let (operator, rest) ← readOperator chars
  let (value, rest) ← readPrimary number (← after? " " rest)
  return ((operator, value), rest)

/-- Reads a comparison, or none if there is none. -/
def readComparison (number : String → Double) (chars : List Char) :
    Option (Operator × Primary) × List Char :=
  match readCompared number chars with
  | none => (none, chars)
  | some (comparison, rest) => (some comparison, rest)

/-- What stands between two spaces is read as an operator if it is one. -/
theorem readOperator_append {word : String} (noSpace : ∀ c ∈ word.toList, (c != ' ') = true)
    (rest : List Char) :
    readOperator (" ".toList ++ (word.toList ++ (" ".toList ++ rest))) =
      (Operator.ofText? word).map fun operator => (operator, " ".toList ++ rest) := by
  have space : ∀ c ∈ (" ".toList ++ rest).head?, (c != ' ') = false := by simp
  have cut := takeWhile_append_dropWhile_append noSpace space
  simp only [readOperator, after?_append, Option.bind_eq_bind, Option.bind_some, cut.1, cut.2,
    String.ofList_toList, Option.pure_def, Option.map_eq_bind, Function.comp_def]

theorem readOperator_queryText (operator : Operator) (rest : List Char) :
    readOperator (" ".toList ++ (operator.queryText.toList ++ (" ".toList ++ rest))) =
      some (operator, " ".toList ++ rest) := by
  have noSpace : operator.queryText.toList.all (· != ' ') = true := by
    cases operator <;> decide
  rw [readOperator_append (List.all_eq_true.mp noSpace), Operator.ofText?_queryText,
    Option.map_some]

/-- No operator stands where a test ends. -/
theorem Ends.readOperator_eq_none (ends : Ends connecting rest) : readOperator rest = none := by
  cases ends with
  | nothing => rfl
  | closer closes rest =>
      simp only [closers, List.mem_cons, List.not_mem_nil, or_false] at closes
      rcases closes with rfl | rfl | rfl <;> rfl
  | connective connects rest =>
      simp only [connecting, List.mem_cons, List.not_mem_nil, or_false] at connects
      rcases connects with rfl | rfl
      · exact @readOperator_append "and" (List.all_eq_true.mp (by decide)) rest
      · exact @readOperator_append "or" (List.all_eq_true.mp (by decide)) rest

/-- A regular comparison is read from its text. -/
theorem readComparison_text (inverts : Inverts number) {comparison : Option (Operator × Primary)}
    (regular : isRegularComparison comparison = true) (ends : Ends connecting rest) :
    readComparison number ((comparisonText comparison).toList ++ rest) = (comparison, rest) := by
  match comparison with
  | none =>
      have none : readCompared number rest = none := by
        simp only [readCompared, ends.readOperator_eq_none, Option.bind_eq_bind, Option.bind_none]
      simp [comparisonText, readComparison, none]
  | some (operator, value) =>
      have value := readPrimary_text inverts regular (ends.stops (List.Subset.refl _))
      simp only [comparisonText, String.toList_append, List.append_assoc, readComparison,
        readCompared, readOperator_queryText, Option.bind_eq_bind, Option.bind_some, after?_append,
        value, Option.pure_def]

end Sramp.Query
