import Sramp.Proofs.Compile.Scoping
import Sramp.Proofs.Plan.Mentioned

/-!
# Aliases of compiled plans

Every alias that stands anywhere in a compiled plan was given by a counter: it is a
stem with a number.  So an alias has letters and digits only, whatever texts the query
holds, and no character of it means anything in the language of a store.
-/

namespace Sramp.Query

open Compile

variable {env : Environment} {query : Query} {order : Option OrderBy} {plan : Plan}

/-- Every selector of a compiled plan bears the stem of its kind and a number. -/
theorem numbered_of_plan (compiled : query.plan env order = .ok plan) {selector : Selector}
    (mentioned : selector ∈ plan.mentioned) :
    ∃ number : Nat, selector.aliasName = (Stem.ofKind selector.kind).text ++ toString number := by
  rcases plan_eq_ok_iff.mp compiled with ⟨-, level, finish, sorting, run, sorted, rfl⟩
  have holds := wellScoped_of_level (yields_fresh.mpr ⟨rfl, rfl⟩) run
  have introduced := (holds.plan sorted).mentioned_subset mentioned
  rw [Level.introduced_plan] at introduced
  rcases holds.allocates.given selector introduced with ⟨number, -, -, named⟩
  exact ⟨number, named⟩

/-- The aliases of a compiled plan consist of letters and digits. -/
theorem isAlphanum_of_plan (compiled : query.plan env order = .ok plan) {selector : Selector}
    (mentioned : selector ∈ plan.mentioned) :
    ∀ c ∈ selector.aliasName.toList, c.isAlphanum = true := by
  rcases numbered_of_plan compiled mentioned with ⟨number, named⟩
  intro c member
  rw [named, String.toList_append, List.mem_append] at member
  rcases member with inStem | inNumber
  · have alphanumeric : (Stem.ofKind selector.kind).text.toList.all Char.isAlphanum = true := by
      cases Stem.ofKind selector.kind <;> decide
    exact List.all_eq_true.mp alphanumeric c inStem
  · rw [Nat.toString_eq_repr, Nat.toList_repr] at inNumber
    have digit := Nat.isDigit_of_mem_toDigits (by decide) (by decide) inNumber
    simp [Char.isAlphanum, digit]

end Sramp.Query
