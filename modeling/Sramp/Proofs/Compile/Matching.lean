import Sramp.Proofs.Compile.Test
import Sramp.Query.Build

/-!
# Patterns of properties

A property is matched with a pattern by a `LIKE` comparison, for which `%` is written for each
`.*`.  A text that consists of the pieces of the pattern, with arbitrary runs between them, is
always like what is written.  The converse fails for a pattern that holds `%` or `_` itself:
there these stand for other texts than themselves, and the match is wider than the pattern says.
-/

namespace Sramp.Text

/-- A text is like a pattern in which `%` stands for an arbitrary run of characters and `_` for
one character.  Every other character stands for itself. -/
inductive Like : List Char → List Char → Prop where
  | nil : Like [] []
  | run (skipped : List Char) {pattern rest : List Char} :
      Like pattern rest → Like ('%' :: pattern) (skipped ++ rest)
  | any (c : Char) {pattern rest : List Char} :
      Like pattern rest → Like ('_' :: pattern) (c :: rest)
  | same {c : Char} {pattern rest : List Char} :
      c ≠ '%' → c ≠ '_' → Like pattern rest → Like (c :: pattern) (c :: rest)

/-- Neither mark of a `LIKE` pattern occurs among some characters. -/
def Unmarked (chars : List Char) : Prop :=
  '%' ∉ chars ∧ '_' ∉ chars

namespace Wildcard

/-- A text consists of pieces in their order, each after an arbitrary run. -/
inductive Follows : List (List Char) → List Char → Prop where
  | nil : Follows [] []
  | cons (skipped piece : List Char) {pieces : List (List Char)} {rest : List Char} :
      Follows pieces rest → Follows (piece :: pieces) (skipped ++ (piece ++ rest))

/-- The texts that a wildcard pattern stands for: its first piece, and then each further piece
after an arbitrary run. -/
def Denotes (pattern : Wildcard) (text : List Char) : Prop :=
  ∃ rest, text = pattern.first ++ rest ∧ Follows pattern.rest rest

end Wildcard

variable {piece pattern text rest : List Char} {pieces : List (List Char)}

/-- Whatever a piece of a pattern holds, it may stand for itself. -/
theorem Like.append (piece : List Char) (like : Like pattern rest) :
    Like (piece ++ pattern) (piece ++ rest) := by
  induction piece with
  | nil => exact like
  | cons c piece ih =>
      by_cases percent : c = '%'
      · rw [percent]
        exact .run ['%'] ih
      · by_cases underscore : c = '_'
        · rw [underscore]
          exact .any '_' ih
        · exact .same percent underscore ih

theorem like_of_follows (follows : Wildcard.Follows pieces text) :
    Like (pieces.flatMap (['%'] ++ ·)) text := by
  induction follows with
  | nil => exact .nil
  | cons skipped piece _ ih => exact .run skipped (ih.append piece)

theorem like_of_denotes {pattern : Wildcard} (denotes : pattern.Denotes text) :
    Like (pattern.withMark ['%']) text := by
  obtain ⟨rest, rfl, follows⟩ := denotes
  exact (like_of_follows follows).append pattern.first

/-- What is like a piece without marks begins with the piece. -/
theorem Like.exists_rest (unmarked : Unmarked piece) (like : Like (piece ++ pattern) text) :
    ∃ rest, text = piece ++ rest ∧ Like pattern rest := by
  induction piece generalizing text with
  | nil => exact ⟨text, rfl, like⟩
  | cons c piece ih =>
      obtain ⟨noPercent, noUnderscore⟩ := unmarked
      rw [List.mem_cons, not_or] at noPercent noUnderscore
      cases like with
      | run => exact absurd rfl noPercent.1
      | any => exact absurd rfl noUnderscore.1
      | same _ _ further =>
          obtain ⟨rest, rfl, later⟩ := ih ⟨noPercent.2, noUnderscore.2⟩ further
          exact ⟨rest, rfl, later⟩

theorem follows_of_like (unmarked : ∀ piece ∈ pieces, Unmarked piece)
    (like : Like (pieces.flatMap (['%'] ++ ·)) text) : Wildcard.Follows pieces text := by
  induction pieces generalizing text with
  | nil =>
      cases like
      exact .nil
  | cons piece pieces ih =>
      rw [List.forall_mem_cons] at unmarked
      change Like ('%' :: (piece ++ _)) text at like
      cases like with
      | run skipped further =>
          obtain ⟨rest, rfl, later⟩ := further.exists_rest unmarked.1
          exact .cons skipped piece (ih unmarked.2 later)
      | same other => exact absurd rfl other

theorem denotes_of_like {pattern : Wildcard} (unmarked : ∀ piece ∈ pattern.pieces, Unmarked piece)
    (like : Like (pattern.withMark ['%']) text) : pattern.Denotes text := by
  rw [Wildcard.pieces, List.forall_mem_cons] at unmarked
  obtain ⟨rest, rfl, later⟩ := like.exists_rest unmarked.1
  exact ⟨rest, rfl, follows_of_like unmarked.2 later⟩

/-- What a pattern is like if runs are empty and single characters are not the mark for one. -/
def unmark (pattern : List Char) : List Char :=
  pattern.flatMap fun c => if c = '%' then [] else if c = '_' then ['x'] else [c]

theorem like_unmark (pattern : List Char) : Like pattern (unmark pattern) := by
  induction pattern with
  | nil => exact .nil
  | cons c pattern ih =>
      rw [unmark, List.flatMap_cons]
      split
      next percent =>
          rw [percent]
          exact .run [] ih
      next percent =>
          split
          next underscore =>
              rw [underscore]
              exact .any 'x' ih
          next underscore => exact .same percent underscore ih

theorem unmarked_unmark (pattern : List Char) : Unmarked (unmark pattern) := by
  induction pattern with
  | nil => exact ⟨nofun, nofun⟩
  | cons c pattern ih =>
      have first : Unmarked (if c = '%' then [] else if c = '_' then ['x'] else [c]) := by
        split
        next => exact ⟨nofun, nofun⟩
        next percent =>
            split
            next => exact ⟨by decide, by decide⟩
            next underscore =>
                simp only [Unmarked, List.mem_singleton]
                exact ⟨Ne.symm percent, Ne.symm underscore⟩
      rw [unmark, List.flatMap_cons]
      simp only [Unmarked, List.mem_append, not_or]
      exact ⟨⟨first.1, ih.1⟩, first.2, ih.2⟩

namespace Wildcard

theorem Follows.subset (follows : Follows pieces text) : ∀ piece ∈ pieces, piece ⊆ text := by
  induction follows with
  | nil => exact nofun
  | cons skipped piece _ ih =>
      rw [List.forall_mem_cons]
      constructor
      · intro c member
        simp [member]
      · intro other member c inside
        simp [ih other member inside]

/-- The pieces of a pattern occur in every text that it stands for. -/
theorem Denotes.subset {pattern : Wildcard} (denotes : pattern.Denotes text) :
    ∀ piece ∈ pattern.pieces, piece ⊆ text := by
  obtain ⟨rest, rfl, follows⟩ := denotes
  rw [pieces, List.forall_mem_cons]
  constructor
  · exact List.subset_append_left _ _
  · intro piece member
    exact List.Subset.trans (follows.subset piece member) (List.subset_append_right _ _)

/-- What a text holds besides `.` and `*` is in its pieces. -/
theorem mem_pieces_iff {c : Char} {chars : List Char} (other : c ∉ ['.', '*']) :
    c ∈ chars ↔ ∃ piece ∈ (ofChars chars).pieces, c ∈ piece := by
  have whole := congrArg (c ∈ ·) (withMark_ofChars chars)
  simp only [withMark, List.mem_append, List.mem_flatMap, other, false_or] at whole
  simp only [pieces, List.mem_cons, exists_eq_or_imp, ← whole]

/-- The marks of `LIKE` patterns are in the pieces of a text. -/
theorem unmarked_iff {chars : List Char} :
    Unmarked chars ↔ ∀ piece ∈ (ofChars chars).pieces, Unmarked piece := by
  have percent : '%' ∈ chars ↔ _ := mem_pieces_iff (by decide)
  have underscore : '_' ∈ chars ↔ _ := mem_pieces_iff (by decide)
  rw [Unmarked, percent, underscore]
  constructor
  · intro none piece member
    exact ⟨fun found => none.1 ⟨piece, member, found⟩, fun found => none.2 ⟨piece, member, found⟩⟩
  · intro each
    exact ⟨fun ⟨piece, member, found⟩ => (each piece member).1 found,
      fun ⟨piece, member, found⟩ => (each piece member).2 found⟩

end Wildcard

/-- The texts like what is written for a pattern are those that the pattern stands for if and
only if neither `%` nor `_` occurs in the pattern. -/
theorem forall_like_iff {chars : List Char} :
    (∀ text, Like ((Wildcard.ofChars chars).withMark ['%']) text ↔
      (Wildcard.ofChars chars).Denotes text) ↔ Unmarked chars := by
  rw [Wildcard.unmarked_iff]
  constructor
  · intro agree piece member
    have denotes := (agree _).mp (like_unmark _)
    have inside := denotes.subset piece member
    have none := unmarked_unmark ((Wildcard.ofChars chars).withMark ['%'])
    exact ⟨fun found => none.1 (inside found), fun found => none.2 (inside found)⟩
  · intro unmarked text
    exact ⟨denotes_of_like unmarked, like_of_denotes⟩

end Sramp.Text

namespace Sramp.Query

open Compile Text

variable {env : Environment} {scope : Scope} {nested : Bool} {start finish : Aliases}
variable {constraint : Constraint}

/-- `fn:matches(@name, 'pattern')`. -/
def Expr.matching (name : QName) (pattern : String) : Expr :=
  .function (.xpath "matches"
    [.expr (.ofEquality (.test (.property name) none)), .literal pattern])

/-- A match of a property is a `LIKE` comparison with what is written for the pattern. -/
theorem yields_matching {name : QName} {pattern : String} :
    Yields ((Expr.matching name pattern).constraint env scope nested) start constraint finish ↔
      ∃ tested, Yields (testedProperty scope name) start tested finish ∧
        constraint = tested.compare .like (.string (likePattern pattern)) := by
  have known : Function.ofName (.xpath "matches") = .ok .matching := rfl
  have matched : (Expr.matching name pattern).constraint env scope nested = matchTest env scope
      (.xpath "matches" [.expr (.ofEquality (.test (.property name) none)), .literal pattern]) := by
    simp only [Expr.matching, Expr.function, Expr.ofEquality, FunctionCall.xpath,
      Expr.constraint, OrExpr.constraint, EqualityExpr.constraint, FunctionCall.outcome, known,
      bind_assoc, pure_bind, bind_pure]
  rw [matched, yields_matchTest]
  constructor
  · intro run
    obtain ⟨subject, literal, given, run⟩ := run
    simp only [FunctionCall.xpath, FunctionCall.arguments, Argument.literal, List.cons.injEq,
      Argument.primary.injEq, Primary.literal.injEq, and_true] at given
    obtain ⟨rfl, rfl⟩ := given
    obtain ⟨property, tested, same, found, rfl⟩ := run
    cases same
    exact ⟨tested, found, rfl⟩
  · intro run
    obtain ⟨tested, found, rfl⟩ := run
    exact ⟨_, pattern, rfl, name, tested, rfl, found, rfl⟩

/-- Every property of the vocabulary can be tested. -/
theorem exists_testedProperty {name : QName} (known : name.isSramp = true) :
    ∃ tested finish, Yields (testedProperty scope name) start tested finish := by
  cases found : CoreProperty.ofLocalName? name.localName with
  | some property =>
      exact ⟨_, start, yields_testedProperty.mpr ⟨known, .inl ⟨property, found, rfl, rfl⟩⟩⟩
  | none =>
      exact ⟨_, _, yields_testedProperty.mpr
        ⟨known, .inr ⟨found, _, rfl, yields_probe.mpr ⟨rfl, rfl⟩⟩⟩⟩

/-- A property is matched with a pattern by a `LIKE` comparison, whatever the pattern.  Its value
is like every text that the pattern stands for; it is like no other text if and only if neither
`%` nor `_` occurs in the pattern. -/
theorem matching_like {name : QName} (known : name.isSramp = true) (pattern : String) :
    ∃ tested value finish, Yields (testedProperty scope name) start tested finish ∧
      Yields ((Expr.matching name pattern).constraint env scope nested) start
        (tested.compare .like (.string value)) finish ∧
      (∀ text, (Wildcard.ofString pattern).Denotes text → Like value.toList text) ∧
      ((∀ text, Like value.toList text ↔ (Wildcard.ofString pattern).Denotes text) ↔
        '%' ∉ pattern.toList ∧ '_' ∉ pattern.toList) := by
  obtain ⟨tested, finish, found⟩ := exists_testedProperty known
  have written : (likePattern pattern).toList = (Wildcard.ofString pattern).withMark ['%'] :=
    String.toList_ofList
  refine ⟨tested, likePattern pattern, finish, found,
    yields_matching.mpr ⟨tested, found, rfl⟩, ?_, ?_⟩
  · intro text denotes
    rw [written]
    exact like_of_denotes denotes
  · rw [written]
    exact forall_like_iff

/-- `fn:matches(@name, 'foo.*bar')` is a comparison with a value that is like the texts that the
pattern stands for, and no others. -/
theorem matching_like_of_letters :
    QName.isSramp (.plain "name") = true ∧ ∃ (tested : Tested) (value : String) (finish : Aliases),
      Yields ((Expr.matching (.plain "name") "foo.*bar").constraint .bare
        ⟨Aliases.next {} .artifact, none⟩ false) {} (tested.compare .like (.string value)) finish ∧
      ∀ text, Like value.toList text ↔ (Wildcard.ofString "foo.*bar").Denotes text := by
  have known : QName.isSramp (.plain "name") = true := by decide
  obtain ⟨tested, value, finish, -, run, -, agree⟩ := matching_like known "foo.*bar"
  exact ⟨known, tested, value, finish, run, agree.mpr ⟨by decide, by decide⟩⟩

/-- `fn:matches(@name, '100%')` is a comparison with a value that the text `1000` is like, for
which the pattern does not stand. -/
theorem not_denotes_of_matching_percent :
    ∃ (tested : Tested) (value : String),
      Yields ((Expr.matching (.plain "name") "100%").constraint .bare
        ⟨Aliases.next {} .artifact, none⟩ false) {} (tested.compare .like (.string value)) {} ∧
      Like value.toList "1000".toList ∧
      ¬(Wildcard.ofString "100%").Denotes "1000".toList := by
  have named : Yields (testedProperty ⟨Aliases.next {} .artifact, none⟩ (.plain "name")) {}
      (.direct ((Aliases.next {} .artifact).operand (.core .name))) {} := rfl
  have written : (likePattern "100%").toList = ['1', '0', '0'] ++ '%' :: [] := by decide
  refine ⟨_, _, yields_matching.mpr ⟨_, named, rfl⟩, ?_, ?_⟩
  · rw [written]
    have wide : Like ('%' :: []) ['0'] := .run ['0'] .nil
    exact wide.append ['1', '0', '0']
  · intro denotes
    have percent := denotes.subset "100%".toList (by decide)
    exact absurd (@percent '%' (by decide)) (by decide)

end Sramp.Query
