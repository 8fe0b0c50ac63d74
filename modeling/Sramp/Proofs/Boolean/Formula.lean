import Mathlib.Data.List.Forall2
import Sramp.Connective

/-!
# Boolean formulas

Formulas over atoms of any type.  Truth values are given to the places of atoms, so
what is said of formulas holds whatever their atoms mean.  Formulas agree if they
differ only in how chains of one connective are grouped.
-/

namespace Sramp.Boolean

variable {α β : Type}

/-- A Boolean combination of atoms. -/
inductive Formula (α : Type) where
  | atom (content : α)
  | not (inner : Formula α)
  | and (left right : Formula α)
  | or (left right : Formula α)

namespace Formula

/-- The atoms from left to right. -/
def atoms : Formula α → List α
  | .atom content => [content]
  | .not inner => inner.atoms
  | .and left right | .or left right => left.atoms ++ right.atoms

/-- The truth of a formula whose first atom has the number `start`.  Truth values
are given to the places of atoms, so two atoms with one content may differ. -/
def HoldsAt (values : Nat → Prop) (start : Nat) : Formula α → Prop
  | .atom _ => values start
  | .not inner => ¬inner.HoldsAt values start
  | .and left right =>
      left.HoldsAt values start ∧ right.HoldsAt values (start + left.atoms.length)
  | .or left right =>
      left.HoldsAt values start ∨ right.HoldsAt values (start + left.atoms.length)

/-- The connective of a formula that has one. -/
def connective : Formula α → Option Connective
  | .and .. => some .and
  | .or .. => some .or
  | _ => none

/-- Two formulas with the same atoms in the same order that are true together. -/
structure Agrees (first second : Formula α) : Prop where
  atoms : first.atoms = second.atoms
  holdsAt : ∀ values start, first.HoldsAt values start ↔ second.HoldsAt values start

/-- Two formulas are built in the same way from related atoms. -/
inductive Matches (Related : α → β → Prop) : Formula α → Formula β → Prop where
  | atom {content : α} {other : β} :
      Related content other → Matches Related (.atom content) (.atom other)
  | not {inner : Formula α} {other : Formula β} :
      Matches Related inner other → Matches Related (.not inner) (.not other)
  | and {left right : Formula α} {left' right' : Formula β} :
      Matches Related left left' → Matches Related right right' →
      Matches Related (.and left right) (.and left' right')
  | or {left right : Formula α} {left' right' : Formula β} :
      Matches Related left left' → Matches Related right right' →
      Matches Related (.or left right) (.or left' right')

namespace Agrees

variable {first second third left right left' right' : Formula α}

theorem refl (formula : Formula α) : formula.Agrees formula :=
  ⟨rfl, fun _ _ => Iff.rfl⟩

theorem trans (one : first.Agrees second) (other : second.Agrees third) :
    first.Agrees third where
  atoms := one.atoms.trans other.atoms
  holdsAt values start := (one.holdsAt values start).trans (other.holdsAt values start)

theorem not (agrees : first.Agrees second) : (Formula.not first).Agrees (.not second) where
  atoms := agrees.atoms
  holdsAt values start := not_congr (agrees.holdsAt values start)

theorem and (one : left.Agrees left') (other : right.Agrees right') :
    (Formula.and left right).Agrees (.and left' right') where
  atoms := by
    simp only [Formula.atoms, one.atoms, other.atoms]
  holdsAt values start := by
    simp only [HoldsAt, one.atoms]
    exact and_congr (one.holdsAt values _) (other.holdsAt values _)

theorem or (one : left.Agrees left') (other : right.Agrees right') :
    (Formula.or left right).Agrees (.or left' right') where
  atoms := by
    simp only [Formula.atoms, one.atoms, other.atoms]
  holdsAt values start := by
    simp only [HoldsAt, one.atoms]
    exact or_congr (one.holdsAt values _) (other.holdsAt values _)

/-- How conjuncts are grouped does not matter. -/
theorem and_regroup (first second third : Formula α) :
    (Formula.and first (.and second third)).Agrees (.and (.and first second) third) where
  atoms := by simp [Formula.atoms]
  holdsAt values start := by
    simp only [HoldsAt, Formula.atoms, List.length_append, Nat.add_assoc]
    exact and_assoc.symm

/-- How alternatives are grouped does not matter. -/
theorem or_regroup (first second third : Formula α) :
    (Formula.or first (.or second third)).Agrees (.or (.or first second) third) where
  atoms := by simp [Formula.atoms]
  holdsAt values start := by
    simp only [HoldsAt, Formula.atoms, List.length_append, Nat.add_assoc]
    exact or_assoc.symm

end Agrees

namespace Matches

variable {Related : α → β → Prop} {formula : Formula α} {other : Formula β}

/-- The atoms of matching formulas are related one by one. -/
theorem atoms (same : Matches Related formula other) :
    List.Forall₂ Related formula.atoms other.atoms := by
  induction same with
  | atom related => exact .cons related .nil
  | not _ ih => exact ih
  | and _ _ leftIH rightIH => exact List.rel_append leftIH rightIH
  | or _ _ leftIH rightIH => exact List.rel_append leftIH rightIH

/-- Matching formulas are true together. -/
theorem holdsAt (same : Matches Related formula other) (values : Nat → Prop) (start : Nat) :
    formula.HoldsAt values start ↔ other.HoldsAt values start := by
  induction same generalizing start with
  | atom => exact Iff.rfl
  | not _ ih => exact not_congr (ih start)
  | and left _ leftIH rightIH =>
      simp only [HoldsAt, left.atoms.length_eq]
      exact and_congr (leftIH _) (rightIH _)
  | or left _ leftIH rightIH =>
      simp only [HoldsAt, left.atoms.length_eq]
      exact or_congr (leftIH _) (rightIH _)

end Matches

/-- A formula demands a content: it is true only if an atom with that content is,
whatever its other atoms are. -/
def Demands (formula : Formula α) (content : α) : Prop :=
  ∃ place, formula.atoms[place]? = some content ∧
    ∀ values start, formula.HoldsAt values start → values (start + place)

theorem demands_atom (content : α) : (atom content).Demands content :=
  ⟨0, rfl, fun _ _ holds => holds⟩

namespace Demands

variable {left right : Formula α} {content : α}

/-- A conjunction demands what its first part demands. -/
theorem and_left (demands : left.Demands content) : (and left right).Demands content := by
  rcases demands with ⟨place, found, needed⟩
  refine ⟨place, ?_, fun values start holds => needed values start holds.1⟩
  rcases List.getElem?_eq_some_iff.mp found with ⟨inside, -⟩
  rw [← found]
  exact List.getElem?_append_left inside

/-- A conjunction demands what its second part demands. -/
theorem and_right (demands : right.Demands content) : (and left right).Demands content := by
  rcases demands with ⟨place, found, needed⟩
  refine ⟨left.atoms.length + place, ?_, ?_⟩
  · simp only [atoms]
    rw [List.getElem?_append_right (Nat.le_add_right _ _), Nat.add_sub_cancel_left, found]
  · intro values start holds
    rw [← Nat.add_assoc]
    exact needed values _ holds.2

end Demands

end Formula

end Sramp.Boolean
