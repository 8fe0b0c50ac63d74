import Sramp.Proofs.Boolean.Formula

/-!
# Reading conditions

The texts of conditions are read as formulas in a grammar with the usual
precedence: `NOT` binds its operand first, then `AND`, then `OR`.  An atom is taken
as one token, whatever its text is.  A text is read in at most one way; and a
formula written with few parentheses is read as one that agrees with it.
-/

namespace Sramp.Boolean

variable {α : Type}

/-- The parts of the text of a condition. -/
inductive Token where
  | atom (text : String)
  | not
  | and
  | or
  | opening
  | closing
  deriving DecidableEq

/-- The text of a token, with the spaces around it. -/
def Token.text : Token → String
  | .atom text => text
  | .not => "NOT "
  | .and => " AND "
  | .or => " OR "
  | .opening => "("
  | .closing => ")"

/-- The text that consists of some tokens. -/
def textOf : List Token → String
  | [] => ""
  | token :: rest => token.text ++ textOf rest

@[simp] theorem textOf_append (first second : List Token) :
    textOf (first ++ second) = textOf first ++ textOf second := by
  induction first with
  | nil => simp [textOf]
  | cons token rest ih => simp [textOf, ih, String.append_assoc]

/-- The tokens of a condition as a part of another one. -/
def enclosedTokens (outer own : Option Connective) (tokens : List Token) : List Token :=
  match own with
  | none => tokens
  | some connective =>
      if outer = some connective then tokens else .opening :: tokens ++ [.closing]

@[simp] theorem textOf_enclosedTokens (outer own : Option Connective) (tokens : List Token) :
    textOf (enclosedTokens outer own tokens) = enclosed outer own (textOf tokens) := by
  cases own with
  | none => rfl
  | some connective =>
      simp only [enclosedTokens, enclosed]
      split
      · rfl
      · simp [textOf, Token.text, String.append_assoc]

namespace Formula

/-- The tokens of a formula.  Parts that are connected the way their surroundings are
stand without parentheses; under a negation, single atoms and negations do too,
unless every operand of it is put in parentheses. -/
def tokens (every : Bool) : Formula String → List Token
  | .atom text => [.atom text]
  | .not inner =>
      .not :: if every then .opening :: inner.tokens every ++ [.closing]
        else enclosedTokens none inner.connective (inner.tokens every)
  | .and left right =>
      enclosedTokens (some .and) left.connective (left.tokens every) ++ .and ::
        enclosedTokens (some .and) right.connective (right.tokens every)
  | .or left right =>
      enclosedTokens (some .or) left.connective (left.tokens every) ++ .or ::
        enclosedTokens (some .or) right.connective (right.tokens every)

end Formula

/-- The three levels of the grammar. -/
inductive Phrase where
  | alternatives
  | conjuncts
  | factor

/-- How tokens are read as formulas: alternatives are conjuncts joined by `OR`,
conjuncts are factors joined by `AND`, and a factor is an atom, a negated factor, or
alternatives in parentheses. -/
inductive Reads : Phrase → List Token → Formula String → Prop where
  | atom (text : String) : Reads .factor [.atom text] (.atom text)
  | not {tokens : List Token} {inner : Formula String} :
      Reads .factor tokens inner → Reads .factor (.not :: tokens) (.not inner)
  | group {tokens : List Token} {inner : Formula String} :
      Reads .alternatives tokens inner →
      Reads .factor (.opening :: tokens ++ [.closing]) inner
  | conjunct {tokens : List Token} {whole : Formula String} :
      Reads .factor tokens whole → Reads .conjuncts tokens whole
  | and {first rest : List Token} {left right : Formula String} :
      Reads .factor first left → Reads .conjuncts rest right →
      Reads .conjuncts (first ++ .and :: rest) (.and left right)
  | alternative {tokens : List Token} {whole : Formula String} :
      Reads .conjuncts tokens whole → Reads .alternatives tokens whole
  | or {first rest : List Token} {left right : Formula String} :
      Reads .conjuncts first left → Reads .alternatives rest right →
      Reads .alternatives (first ++ .or :: rest) (.or left right)

namespace Reads

/-- What may follow a phrase without being part of it. -/
def Ends : Phrase → List Token → Prop
  | .factor, _ => True
  | .conjuncts, rest => rest.head? ≠ some .and
  | .alternatives, rest => rest.head? ≠ some .and ∧ rest.head? ≠ some .or

/-- Two phrases at the start of the same tokens are the same if what follows them
cannot belong to them. -/
theorem unique_of_append {phrase : Phrase} {first second : List Token}
    {one other : Formula String} (reads : Reads phrase first one)
    (again : Reads phrase second other) {rest rest' : List Token}
    (same : first ++ rest = second ++ rest') (ends : Ends phrase rest)
    (ends' : Ends phrase rest') : one = other ∧ rest = rest' := by
  induction reads generalizing second other rest rest' with
  | atom text =>
      cases again <;> simp_all
  | not _ ih =>
      cases again with
      | not inner =>
          simp only [List.cons_append, List.cons.injEq, true_and] at same
          rcases ih inner same trivial trivial with ⟨rfl, equal⟩
          exact ⟨rfl, equal⟩
      | atom => simp at same
      | group => simp at same
  | group _ ih =>
      cases again with
      | group inner =>
          simp only [List.cons_append, List.append_assoc, List.cons.injEq, true_and] at same
          rcases ih inner same (by simp [Ends]) (by simp [Ends]) with ⟨rfl, equal⟩
          exact ⟨rfl, by simpa using equal⟩
      | atom => simp at same
      | not => simp at same
  | conjunct _ ih =>
      cases again with
      | conjunct factor => exact ih factor same trivial trivial
      | and factor more =>
          simp only [List.append_assoc, List.cons_append] at same
          rcases ih factor same trivial trivial with ⟨-, equal⟩
          rw [equal] at ends
          exact absurd rfl ends
  | and _ _ factorIH moreIH =>
      simp only [List.append_assoc, List.cons_append] at same
      cases again with
      | conjunct factor =>
          rcases factorIH factor same trivial trivial with ⟨-, equal⟩
          rw [← equal] at ends'
          exact absurd rfl ends'
      | and factor more =>
          simp only [List.append_assoc, List.cons_append] at same
          rcases factorIH factor same trivial trivial with ⟨rfl, equal⟩
          simp only [List.cons.injEq, true_and] at equal
          rcases moreIH more equal ends ends' with ⟨rfl, equal⟩
          exact ⟨rfl, equal⟩
  | alternative _ ih =>
      cases again with
      | alternative conjuncts => exact ih conjuncts same ends.1 ends'.1
      | or conjuncts more =>
          simp only [List.append_assoc, List.cons_append] at same
          rcases ih conjuncts same ends.1 (by simp [Ends]) with ⟨-, equal⟩
          rw [equal] at ends
          exact absurd rfl ends.2
  | or _ _ conjunctsIH moreIH =>
      simp only [List.append_assoc, List.cons_append] at same
      cases again with
      | alternative conjuncts =>
          rcases conjunctsIH conjuncts same (by simp [Ends]) ends'.1 with ⟨-, equal⟩
          rw [← equal] at ends'
          exact absurd rfl ends'.2
      | or conjuncts more =>
          simp only [List.append_assoc, List.cons_append] at same
          rcases conjunctsIH conjuncts same (by simp [Ends]) (by simp [Ends]) with ⟨rfl, equal⟩
          simp only [List.cons.injEq, true_and] at equal
          rcases moreIH more equal ends ends' with ⟨rfl, equal⟩
          exact ⟨rfl, equal⟩

/-- A text is read in at most one way. -/
theorem unique {tokens : List Token} {one other : Formula String}
    (reads : Reads .alternatives tokens one) (again : Reads .alternatives tokens other) :
    one = other := by
  have same : tokens ++ [] = tokens ++ [] := rfl
  exact (reads.unique_of_append again same (by simp [Ends]) (by simp [Ends])).1

/-- Conjuncts joined to conjuncts are conjuncts. -/
theorem conjoin {first rest : List Token} {left right : Formula String}
    (one : Reads .conjuncts first left) (other : Reads .conjuncts rest right) :
    ∃ whole, Reads .conjuncts (first ++ .and :: rest) whole ∧
      whole.Agrees (.and left right) := by
  cases one with
  | conjunct factor => exact ⟨_, .and factor other, .refl _⟩
  | @and before after begun ended factor more =>
      rcases more.conjoin other with ⟨whole, reads, agrees⟩
      refine ⟨.and begun whole, ?_, ?_⟩
      · rw [List.append_assoc, List.cons_append]
        exact .and factor reads
      · exact (Formula.Agrees.and (.refl begun) agrees).trans (.and_regroup _ _ _)

/-- Alternatives joined to alternatives are alternatives. -/
theorem disjoin {first rest : List Token} {left right : Formula String}
    (one : Reads .alternatives first left) (other : Reads .alternatives rest right) :
    ∃ whole, Reads .alternatives (first ++ .or :: rest) whole ∧
      whole.Agrees (.or left right) := by
  cases one with
  | alternative conjuncts => exact ⟨_, .or conjuncts other, .refl _⟩
  | @or before after begun ended conjuncts more =>
      rcases more.disjoin other with ⟨whole, reads, agrees⟩
      refine ⟨.or begun whole, ?_, ?_⟩
      · rw [List.append_assoc, List.cons_append]
        exact .or conjuncts reads
      · exact (Formula.Agrees.or (.refl begun) agrees).trans (.or_regroup _ _ _)

end Reads

namespace Formula

/-- The phrase that the tokens of a formula are without its surroundings. -/
def phrase : Formula α → Phrase
  | .and .. => .conjuncts
  | .or .. => .alternatives
  | .atom _ | .not _ => .factor

variable {formula read : Formula String} {tokens : List Token}

theorem reads_alternatives (reads : Reads formula.phrase tokens read) :
    Reads .alternatives tokens read := by
  cases formula with
  | atom | not => exact .alternative (.conjunct reads)
  | and => exact .alternative reads
  | or => exact reads

/-- What is enclosed as the operand of a negation is a factor. -/
theorem reads_enclosed_none (reads : Reads formula.phrase tokens read) :
    Reads .factor (enclosedTokens none formula.connective tokens) read := by
  cases formula with
  | atom | not => exact reads
  | and => exact .group (.alternative reads)
  | or => exact .group reads

theorem reads_enclosed_and (reads : Reads formula.phrase tokens read) :
    Reads .conjuncts (enclosedTokens (some .and) formula.connective tokens) read := by
  cases formula with
  | atom | not => exact .conjunct reads
  | and => exact reads
  | or => exact .conjunct (.group reads)

theorem reads_enclosed_or (reads : Reads formula.phrase tokens read) :
    Reads .alternatives (enclosedTokens (some .or) formula.connective tokens) read := by
  cases formula with
  | atom | not => exact .alternative (.conjunct reads)
  | and => exact .alternative (.conjunct (.group (.alternative reads)))
  | or => exact reads

/-- The tokens of a formula are read as one that agrees with it. -/
theorem exists_reads_tokens (every : Bool) (formula : Formula String) :
    ∃ read, Reads formula.phrase (formula.tokens every) read ∧ read.Agrees formula := by
  induction formula with
  | atom text => exact ⟨_, .atom text, .refl _⟩
  | not inner ih =>
      rcases ih with ⟨read, reads, agrees⟩
      refine ⟨.not read, ?_, agrees.not⟩
      cases every with
      | true => exact .not (.group (reads_alternatives reads))
      | false => exact .not (reads_enclosed_none reads)
  | and left right leftIH rightIH =>
      rcases leftIH with ⟨begun, first, agreesLeft⟩
      rcases rightIH with ⟨ended, last, agreesRight⟩
      rcases (reads_enclosed_and first).conjoin (reads_enclosed_and last) with
        ⟨whole, reads, agrees⟩
      exact ⟨whole, reads, agrees.trans (agreesLeft.and agreesRight)⟩
  | or left right leftIH rightIH =>
      rcases leftIH with ⟨begun, first, agreesLeft⟩
      rcases rightIH with ⟨ended, last, agreesRight⟩
      rcases (reads_enclosed_or first).disjoin (reads_enclosed_or last) with ⟨whole, reads, agrees⟩
      exact ⟨whole, reads, agrees.trans (agreesLeft.or agreesRight)⟩

end Formula

/-- Tokens say a formula, with texts for its atoms from left to right: they are read
in one way only, and what is read is true together with the formula. -/
def Says (tokens : List Token) (formula : Formula α) (texts : List String) : Prop :=
  ∃ read, Reads .alternatives tokens read ∧
    (∀ other, Reads .alternatives tokens other → other = read) ∧
    read.atoms = texts ∧
    ∀ values start, read.HoldsAt values start ↔ formula.HoldsAt values start

variable {Related : α → String → Prop} {formula : Formula α} {written : Formula String}

/-- Tokens say what one reading of them is. -/
theorem says_of_reads {tokens : List Token} {read : Formula String}
    (reads : Reads .alternatives tokens read) (agrees : read.Agrees written)
    (same : Formula.Matches Related formula written) : Says tokens formula written.atoms := by
  refine ⟨read, reads, fun other again => again.unique reads, agrees.atoms, ?_⟩
  intro values start
  exact (agrees.holdsAt values start).trans (same.holdsAt values start).symm

/-- The tokens of a formula say every formula that it matches. -/
theorem says_tokens (every : Bool) (same : Formula.Matches Related formula written) :
    Says (written.tokens every) formula written.atoms := by
  rcases written.exists_reads_tokens every with ⟨read, reads, agrees⟩
  exact says_of_reads (Formula.reads_alternatives reads) agrees same

/-- An atom put before a formula is a conjunct of what is read. -/
theorem says_conjoined {content : α} {text : String} (every : Bool)
    (related : Related content text) (same : Formula.Matches Related formula written) :
    Says (.atom text :: .and ::
        enclosedTokens (some .and) written.connective (written.tokens every))
      (.and (.atom content) formula) (text :: written.atoms) := by
  rcases written.exists_reads_tokens every with ⟨read, reads, agrees⟩
  have whole : Reads .conjuncts _ (.and (.atom text) read) :=
    .and (.atom text) (Formula.reads_enclosed_and reads)
  exact says_of_reads (.alternative whole) ((Formula.Agrees.refl _).and agrees)
    (Formula.Matches.and (.atom related) same)

/-- What a formula demands is demanded, as a text, by whatever says it. -/
theorem Says.demands {tokens : List Token} {texts : List String} {content : α}
    (said : Says tokens formula texts) (related : List.Forall₂ Related formula.atoms texts)
    (demands : formula.Demands content) :
    ∃ text, Related content text ∧
      ∀ read, Reads .alternatives tokens read → read.Demands text := by
  rcases said with ⟨read, -, unique, rfl, together⟩
  rcases demands with ⟨place, found, needed⟩
  rcases List.getElem?_eq_some_iff.mp found with ⟨inside, rfl⟩
  have inside' : place < read.atoms.length := related.length_eq ▸ inside
  refine ⟨read.atoms[place], related.get inside inside', ?_⟩
  intro other reads
  obtain rfl := unique other reads
  refine ⟨place, List.getElem?_eq_getElem inside', ?_⟩
  intro values start holds
  exact needed values start ((together values start).mp holds)

end Sramp.Boolean
