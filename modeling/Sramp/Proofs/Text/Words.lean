/-!
# Words of a text

A word is a run of letters, digits and underscores that is as long as possible.  The words of a
text can be exchanged one by one; what stands between them stays, and words on both sides of it
are exchanged apart from each other.
-/

namespace Sramp.Text

/-- Whether a character belongs to a word. -/
def isWordChar (c : Char) : Bool :=
  c.isAlphanum || c == '_'

/-- The words of a text, the first of which begins with `word`.  Between two characters that
belong to no word there is an empty one. -/
def wordsFrom (word : List Char) : List Char → List (List Char)
  | [] => [word]
  | c :: rest =>
      if isWordChar c then wordsFrom (word ++ [c]) rest else word :: wordsFrom [] rest

/-- A text with its words exchanged, the first of which begins with `word`. -/
def exchangeFrom (change : List Char → List Char) (word : List Char) : List Char → List Char
  | [] => change word
  | c :: rest =>
      if isWordChar c then exchangeFrom change (word ++ [c]) rest
      else change word ++ c :: exchangeFrom change [] rest

/-- The words of a text. -/
def words (text : String) : List (List Char) :=
  wordsFrom [] text.toList

/-- A text with its words exchanged. -/
def exchangeWords (change : List Char → List Char) (text : String) : String :=
  String.ofList (exchangeFrom change [] text.toList)

/-- A text does not go on with a word that stands before it. -/
def Opens (text : String) : Prop :=
  ∃ c ∈ text.toList.head?, isWordChar c = false

/-- A word that stands after a text does not go on with it. -/
def Closes (text : String) : Prop :=
  ∃ c ∈ text.toList.getLast?, isWordChar c = false

instance (text : String) : Decidable (Opens text) :=
  decidable_of_iff (text.toList.head?.any (fun c => !isWordChar c) = true) (by
    simp [Opens, Option.any_eq_true])

instance (text : String) : Decidable (Closes text) :=
  decidable_of_iff (text.toList.getLast?.any (fun c => !isWordChar c) = true) (by
    simp [Closes, Option.any_eq_true])

variable {change : List Char → List Char}

theorem exchangeFrom_eq_self {word chars : List Char}
    (kept : ∀ part ∈ wordsFrom word chars, change part = part) :
    exchangeFrom change word chars = word ++ chars := by
  induction chars generalizing word with
  | nil =>
      rw [List.append_nil]
      exact kept word (List.mem_singleton_self word)
  | cons c rest ih =>
      rw [wordsFrom] at kept
      rw [exchangeFrom]
      split at kept
      next inWord => rw [if_pos inWord, ih kept, List.append_assoc, List.singleton_append]
      next outside =>
          obtain ⟨first, others⟩ := List.forall_mem_cons.mp kept
          rw [if_neg outside, first, ih others, List.nil_append]

/-- Characters of words are one word. -/
theorem exchangeFrom_of_isWordChar {word chars : List Char}
    (inWord : ∀ c ∈ chars, isWordChar c = true) :
    exchangeFrom change word chars = change (word ++ chars) := by
  induction chars generalizing word with
  | nil => rw [exchangeFrom, List.append_nil]
  | cons c rest ih =>
      obtain ⟨first, others⟩ := List.forall_mem_cons.mp inWord
      rw [exchangeFrom, if_pos first, ih others, List.append_assoc, List.singleton_append]

theorem wordsFrom_of_isWordChar {word chars : List Char}
    (inWord : ∀ c ∈ chars, isWordChar c = true) : wordsFrom word chars = [word ++ chars] := by
  induction chars generalizing word with
  | nil => rw [wordsFrom, List.append_nil]
  | cons c rest ih =>
      obtain ⟨first, others⟩ := List.forall_mem_cons.mp inWord
      rw [wordsFrom, if_pos first, ih others, List.append_assoc, List.singleton_append]

/-- At a character that belongs to no word a text may be cut. -/
theorem exchangeFrom_append_cons {c : Char} (outside : isWordChar c = false)
    (word first rest : List Char) :
    exchangeFrom change word (first ++ c :: rest) =
      exchangeFrom change word first ++ c :: exchangeFrom change [] rest := by
  induction first generalizing word with
  | nil => simp [exchangeFrom, outside]
  | cons d others ih =>
      rw [List.cons_append, exchangeFrom, exchangeFrom]
      split
      · exact ih _
      · rw [ih, List.append_assoc, List.cons_append]

theorem exchangeWords_eq_self {text : String} (kept : ∀ part ∈ words text, change part = part) :
    exchangeWords change text = text := by
  rw [exchangeWords, exchangeFrom_eq_self kept, List.nil_append, String.ofList_toList]

/-- A single word is exchanged as a whole. -/
theorem exchangeWords_of_isWordChar {text : String}
    (inWord : ∀ c ∈ text.toList, isWordChar c = true) :
    exchangeWords change text = String.ofList (change text.toList) := by
  rw [exchangeWords, exchangeFrom_of_isWordChar inWord, List.nil_append]

variable {first second : String}

/-- Words are exchanged apart before a text that does not go on with them. -/
theorem exchangeWords_append_of_opens (nothing : change [] = []) (opens : Opens second) :
    exchangeWords change (first ++ second) =
      exchangeWords change first ++ exchangeWords change second := by
  obtain ⟨c, begins, outside⟩ := opens
  obtain ⟨rest, same⟩ := List.head?_eq_some_iff.mp begins
  have alone := @exchangeFrom_append_cons change c outside [] [] rest
  rw [List.nil_append, exchangeFrom, nothing, List.nil_append] at alone
  rw [exchangeWords, exchangeWords, exchangeWords, String.toList_append, same,
    exchangeFrom_append_cons outside, alone, String.ofList_append]

/-- Words are exchanged apart after a text with which they do not go on. -/
theorem exchangeWords_append_of_closes (nothing : change [] = []) (closes : Closes first) :
    exchangeWords change (first ++ second) =
      exchangeWords change first ++ exchangeWords change second := by
  obtain ⟨c, ends, outside⟩ := closes
  obtain ⟨before, same⟩ := List.getLast?_eq_some_iff.mp ends
  rw [exchangeWords, exchangeWords, exchangeWords, String.toList_append, same, List.append_assoc,
    List.singleton_append, exchangeFrom_append_cons outside, exchangeFrom_append_cons outside,
    exchangeFrom, nothing, ← String.ofList_append, List.append_assoc, List.singleton_append]

/-- Where no character belongs to a word, all words are empty. -/
theorem eq_nil_of_mem_words {text : String} (outside : ∀ c ∈ text.toList, isWordChar c = false) :
    ∀ word ∈ words text, word = [] := by
  have each : ∀ chars : List Char, (∀ c ∈ chars, isWordChar c = false) →
      ∀ word ∈ wordsFrom [] chars, word = [] := by
    intro chars
    induction chars with
    | nil => simp [wordsFrom]
    | cons c rest ih =>
        intro outside
        obtain ⟨first, others⟩ := List.forall_mem_cons.mp outside
        rw [wordsFrom, first, if_neg Bool.false_ne_true]
        exact List.forall_mem_cons.mpr ⟨rfl, ih others⟩
  exact each text.toList outside

theorem Opens.append (opens : Opens first) (rest : String) : Opens (first ++ rest) := by
  obtain ⟨c, begins, outside⟩ := opens
  obtain ⟨others, same⟩ := List.head?_eq_some_iff.mp begins
  refine ⟨c, ?_, outside⟩
  rw [String.toList_append, same]
  rfl

end Sramp.Text
