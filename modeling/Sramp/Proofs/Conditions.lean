import Sramp.Proofs.Hierarchical.Reading
import Sramp.Proofs.Relational.Reading

/-!
# What conditions say

The texts of conditions, read with the usual precedence, say the constraints that
they were stated for.
-/

namespace Sramp

/-- Whatever condition a store states for a constraint, its text can be read in one
way only, and says the constraint; the same holds in all its subqueries. -/
theorem Constraint.says_conditions (constraint : Constraint) :
    (∀ root count next condition,
      Relational.Answers ((Relational.backend root).constraint constraint) count condition
        next →
      ∃ tokens, condition.Spells root tokens constraint) ∧
    (∀ condition, Hierarchical.backend.constraint constraint = .ok condition →
      ∃ tokens, condition.Spells tokens constraint) := by
  constructor
  · intro root count next condition answered
    exact Relational.spells_of_answers answered
  · intro condition stated
    exact Hierarchical.spells_of_eq_ok stated

/-- An artifact has a name or a description, and no relationship of which the type or
the name of its owner is known. -/
theorem Constraint.says_conditions_of_mixed :
    let document : Selector := ⟨.artifact, "artifact1"⟩
    let owner : Selector := ⟨.artifact, "artifact2"⟩
    let relationship : Selector := ⟨.relationship, "relationship1"⟩
    let rows : Correlation :=
      ⟨(Source.single relationship).joinParent owner relationship, owner.operand .id,
        document.operand .id⟩
    let constraint : Constraint :=
      .and
        (.or (.present (document.operand (.core .name)))
          (.present (document.operand (.core .description))))
        (.not (.existsRowWith rows
          (.or (.present (relationship.operand .relationshipType))
            (.present (owner.operand (.core .name))))))
    (∃ condition,
      Relational.Answers ((Relational.backend "/s-ramp").constraint constraint) 0 condition 0 ∧
      ∃ tokens, condition.Spells "/s-ramp" tokens constraint) ∧
    (∃ condition, Hierarchical.backend.constraint constraint = .ok condition ∧
      ∃ tokens, condition.Spells tokens constraint) := by
  intro document owner relationship rows constraint
  constructor
  · exact ⟨_, rfl, constraint.says_conditions.1 "/s-ramp" 0 0 _ rfl⟩
  · exact ⟨_, rfl, constraint.says_conditions.2 _ rfl⟩

end Sramp
