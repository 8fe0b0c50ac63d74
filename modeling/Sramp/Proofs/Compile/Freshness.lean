import Mathlib.Order.Defs.PartialOrder
import Mathlib.Data.List.Nodup
import Sramp.Compile.Alias

/-!
# Fresh aliases

An alias determines its stem and its number, and numbers only grow.  So an alias
given later differs from every alias given before, whatever kinds of nodes the two
stand for.  Lists of selectors that were given between two states of the counters
therefore concatenate without repeating an alias.
-/

namespace Sramp.Compile

namespace Stem

/-- The text of an alias determines its stem: already the first two letters of
stems differ. -/
theorem eq_of_text_append {left right : Stem} {first second : String}
    (equal : left.text ++ first = right.text ++ second) : left = right := by
  have characters := congrArg String.toList equal
  cases left <;> cases right <;> simp [text] at characters ⊢

/-- The text of an alias determines its number. -/
theorem number_eq_of_text {stem : Stem} {first second : Nat}
    (equal : stem.text ++ toString first = stem.text ++ toString second) :
    first = second := by
  have characters := congrArg String.toList equal
  simp only [String.toList_append, List.append_cancel_left_eq, Nat.toString_eq_repr,
    Nat.toList_repr] at characters
  have read := congrArg (fun digits => Nat.ofDigitChars 10 digits 0) characters
  simpa using read

end Stem

namespace Aliases

/-- One state of the counters comes before another if no counter is ahead. -/
instance : Preorder Aliases where
  le before after := ∀ stem, before.count stem ≤ after.count stem
  le_refl _ _ := Nat.le_refl _
  le_trans _ _ _ first second stem := Nat.le_trans (first stem) (second stem)

theorem le_bump (aliases : Aliases) (stem : Stem) : aliases ≤ aliases.bump stem := by
  intro other
  rw [count_bump]
  exact Nat.le_add_right _ _

/-- A selector bears an alias that was given between two states of the counters. -/
def Gives (before after : Aliases) (selector : Selector) : Prop :=
  ∃ number, before.count (.ofKind selector.kind) < number ∧
    number ≤ after.count (.ofKind selector.kind) ∧
    selector.aliasName = (Stem.ofKind selector.kind).text ++ toString number

theorem gives_next (aliases : Aliases) (kind : NodeKind) :
    aliases.Gives (aliases.bump (.ofKind kind)) (aliases.next kind) := by
  refine ⟨aliases.count (.ofKind kind) + 1, ?_, ?_, rfl⟩
  · simp
  · simp [count_bump]

variable {before between after : Aliases}

theorem Gives.mono {start finish : Aliases} {selector : Selector}
    (given : before.Gives after selector) (starts : start ≤ before)
    (finishes : after ≤ finish) : start.Gives finish selector := by
  rcases given with ⟨number, above, below, text⟩
  exact ⟨number, Nat.lt_of_le_of_lt (starts _) above, Nat.le_trans below (finishes _), text⟩

/-- What is given later bears another alias. -/
theorem Gives.alias_ne {early late : Selector} (first : before.Gives between early)
    (second : between.Gives after late) : early.aliasName ≠ late.aliasName := by
  rcases first with ⟨low, -, below, lowText⟩
  rcases second with ⟨high, above, -, highText⟩
  intro same
  rw [lowText, highText] at same
  have stems := Stem.eq_of_text_append same
  rw [stems] at same below
  have numbers := Stem.number_eq_of_text same
  omega

/-- Between two states of the counters the aliases of some selectors were given,
each of them once. -/
structure Allocates (before after : Aliases) (selectors : List Selector) : Prop where
  le : before ≤ after
  given : ∀ selector ∈ selectors, before.Gives after selector
  distinct : (selectors.map Selector.aliasName).Nodup

/-- Between any two states of the counters, at least no alias was given. -/
theorem allocates_of_le (le : before ≤ after) : before.Allocates after [] where
  le := le
  given := by simp
  distinct := by simp

theorem allocates_nil (aliases : Aliases) : aliases.Allocates aliases [] :=
  allocates_of_le (le_refl aliases)

theorem allocates_next (aliases : Aliases) (kind : NodeKind) :
    aliases.Allocates (aliases.bump (.ofKind kind)) [aliases.next kind] where
  le := aliases.le_bump _
  given := by simpa using aliases.gives_next kind
  distinct := by simp

namespace Allocates

variable {early late : List Selector}

/-- Selectors given in two successive phases. -/
theorem append (first : before.Allocates between early)
    (second : between.Allocates after late) : before.Allocates after (early ++ late) where
  le := le_trans first.le second.le
  given := by
    intro selector member
    rcases List.mem_append.mp member with inEarly | inLate
    · exact (first.given selector inEarly).mono (le_refl before) second.le
    · exact (second.given selector inLate).mono first.le (le_refl after)
  distinct := by
    rw [List.map_append, List.nodup_append']
    refine ⟨first.distinct, second.distinct, ?_⟩
    intro name inEarly inLate
    rcases List.mem_map.mp inEarly with ⟨one, oneMem, rfl⟩
    rcases List.mem_map.mp inLate with ⟨other, otherMem, same⟩
    exact (first.given one oneMem).alias_ne (second.given other otherMem) same.symm

/-- The order of the selectors does not matter. -/
theorem perm {selectors others : List Selector} (allocates : before.Allocates after selectors)
    (same : selectors.Perm others) : before.Allocates after others where
  le := allocates.le
  given selector member := allocates.given selector (same.mem_iff.mpr member)
  distinct := (same.map _).nodup_iff.mp allocates.distinct

end Allocates

end Aliases

end Sramp.Compile
