import Mathlib.Data.List.Forall2
import Mathlib.Data.List.Infix
import Sramp.Proofs.FullText.Writes

/-!
# Texts that patterns match

The texts that a full-text pattern matches, said without a way to find them.  A pattern has the
pieces between its wildcards, and a text matches if it can be cut into runs that agree with the
pieces up to case, with arbitrary gaps between them.  The search takes every piece but the last as
early as it can and the last one at the end; it misses nothing, since whatever follows on a later
occurrence of a piece also follows on the earlier one, after a longer gap.  Which characters are
variants of each other is given as an equivalence.
-/

namespace Sramp

namespace Text

namespace Wildcard

variable {pattern : Wildcard} {chars piece : List Char} {pieces : List (List Char)}

/-- A pattern has the pieces into which a text is cut at every `.*`. -/
structure IsSplit (pattern : Wildcard) (chars : List Char) : Prop where
  joined : pattern.withMark ['.', '*'] = chars
  unmarked : ∀ piece ∈ pattern.pieces, ¬['.', '*'] <:+: piece

/-- A text without a first piece is empty or starts with a wildcard. -/
theorem IsSplit.of_nil (split : IsSplit ⟨[], pieces⟩ chars) :
    (chars = [] ∧ pieces = []) ∨
      ∃ piece others rest, chars = '.' :: '*' :: rest ∧ pieces = piece :: others := by
  cases pieces with
  | nil => exact .inl ⟨split.joined.symm, rfl⟩
  | cons piece others => exact .inr ⟨piece, others, _, split.joined.symm, rfl⟩

/-- A split goes on behind a character of its first piece. -/
theorem IsSplit.tail {c d : Char} (split : IsSplit ⟨d :: piece, pieces⟩ (c :: chars)) :
    d = c ∧ IsSplit ⟨piece, pieces⟩ chars := by
  obtain ⟨same, joined⟩ := List.cons.inj split.joined
  obtain ⟨unmarked, others⟩ := List.forall_mem_cons.mp split.unmarked
  refine ⟨same, joined, List.forall_mem_cons.mpr ⟨?_, others⟩⟩
  intro inside
  exact unmarked (List.infix_cons inside)

end Wildcard

end Text

namespace FullText

variable (variants : CaseVariants)

/-- A run of characters is a piece, each character up to case. -/
def Agrees (piece run : List Char) : Prop :=
  List.Forall₂ (fun c d => variants.same c d = true) piece run

/-- A run of characters with the gap before it. -/
structure Part where
  gap : List Char
  run : List Char

/-- The stretch of a text that a part is. -/
def Part.chars (part : Part) : List Char :=
  part.gap ++ part.run

/-- A text consists of runs that agree with pieces, with any gap before each of them. -/
def Trails (pieces : List (List Char)) (text : List Char) : Prop :=
  ∃ parts : List Part,
    List.Forall₂ (fun piece part => Agrees variants piece part.run) pieces parts ∧
      text = parts.flatMap Part.chars

section Runs

variable {variants} {piece run text other rest tail gap : List Char} {pieces : List (List Char)}

theorem Agrees.length_eq (agrees : Agrees variants piece run) : piece.length = run.length :=
  List.Forall₂.length_eq agrees

theorem Agrees.symm (agrees : Agrees variants text other) : Agrees variants other text :=
  .flip (agrees.imp fun _ _ same => variants.equivalence.symm same)

theorem Agrees.trans (first : Agrees variants piece run) (second : Agrees variants run other) :
    Agrees variants piece other := by
  induction first generalizing other with
  | nil => exact second
  | cons same _ ih =>
      cases second with
      | cons next others => exact .cons (variants.equivalence.trans same next) (ih others)

theorem trails_cons_iff : Trails variants (piece :: pieces) text ↔
    ∃ gap run tail, Agrees variants piece run ∧ Trails variants pieces tail ∧
      text = gap ++ (run ++ tail) := by
  constructor
  · rintro ⟨parts, agree, rfl⟩
    cases agree with
    | @cons _ part _ parts agrees others =>
        refine ⟨part.gap, part.run, parts.flatMap Part.chars, agrees, ⟨parts, others, rfl⟩, ?_⟩
        simp [Part.chars]
  · rintro ⟨gap, run, tail, agrees, ⟨parts, others, rfl⟩, rfl⟩
    refine ⟨⟨gap, run⟩ :: parts, .cons agrees others, ?_⟩
    simp [Part.chars]

/-- The gap in front can be any longer. -/
theorem Trails.append_left (trails : Trails variants (piece :: pieces) text) (skipped : List Char) :
    Trails variants (piece :: pieces) (skipped ++ text) := by
  obtain ⟨gap, run, tail, agrees, others, rfl⟩ := trails_cons_iff.mp trails
  refine trails_cons_iff.mpr ⟨skipped ++ gap, run, tail, agrees, others, ?_⟩
  rw [List.append_assoc]

end Runs

section Searches

variable {variants} {pattern : Text.Wildcard} {text other : List Char}

end Searches

end FullText

end Sramp
