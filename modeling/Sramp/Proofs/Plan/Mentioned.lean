import Sramp.Proofs.Plan.Scoping

/-!
# Selectors that plans mention

Every place of a plan at which a selector stands, not only those that introduce
one.  A well-scoped plan mentions nothing that it does not introduce, so what is
known of the aliases it introduces is known of all aliases in it.
-/

namespace Sramp

/-- The selectors of a source and of its join conditions. -/
def Source.mentioned : Source → List Selector
  | .single selector => [selector]
  | .join left right _ condition => left.mentioned ++ right :: condition.selectors

/-- The selectors of the rows of a subquery and of the operands that tie them. -/
def Correlation.mentioned (rows : Correlation) : List Selector :=
  rows.source.mentioned ++ [rows.correlated.selector, rows.outer.selector]

/-- The selectors that stand anywhere in a constraint. -/
def Constraint.mentioned : Constraint → List Selector
  | .and left right | .or left right => left.mentioned ++ right.mentioned
  | .not inner => inner.mentioned
  | .comparison operand _ _ | .present operand | .oneOf operand _ => [operand.selector]
  | .descendant selector _ => [selector]
  | .existsRow rows => rows.mentioned
  | .existsRowWith rows condition => rows.mentioned ++ condition.mentioned

/-- The selectors that stand anywhere in a plan. -/
def Plan.mentioned (plan : Plan) : List Selector :=
  plan.source.mentioned ++ (plan.constraint.map Constraint.mentioned).getD [] ++
    plan.column :: plan.ordering.toList.map fun order => order.operand.selector

/-- A chained source mentions only its own selectors. -/
theorem Source.Chained.mentioned_subset {source : Source} (chained : source.Chained) :
    source.mentioned ⊆ source.selectors := by
  induction source with
  | single selector => exact List.Subset.refl _
  | join left right kind condition ih =>
      rcases chained with ⟨before, refers⟩
      intro selector member
      rw [selectors_join, List.mem_append, List.mem_singleton]
      rcases List.mem_append.mp member with inLeft | member
      · exact .inl (ih before inLeft)
      · rcases List.mem_cons.mp member with same | inCondition
        · exact .inr same
        · exact (refers selector inCondition).symm

variable {level : List Selector}

/-- A scoped subquery mentions its own selectors and those of the level around it. -/
theorem Correlation.Scoped.mentioned_subset {rows : Correlation} (stands : rows.Scoped level) :
    rows.mentioned ⊆ level ++ rows.source.selectors := by
  rcases stands.tied with ⟨owner, own, outer, around, left, right, -⟩
  intro selector member
  rw [List.mem_append]
  rcases List.mem_append.mp member with inSource | tied
  · exact .inr (stands.chained.mentioned_subset inSource)
  · simp only [left, right, Selector.operand, List.mem_cons, List.not_mem_nil, or_false] at tied
    rcases tied with rfl | rfl
    · exact .inr own
    · exact .inl around

/-- A scoped constraint mentions selectors of its level and those it introduces. -/
theorem Constraint.Scoped.mentioned_subset {constraint : Constraint}
    (stands : constraint.Scoped level) :
    constraint.mentioned ⊆ level ++ constraint.introduced := by
  induction constraint generalizing level with
  | and left right leftIH rightIH | or left right leftIH rightIH =>
      intro selector member
      simp only [introduced, List.mem_append]
      rcases List.mem_append.mp member with inLeft | inRight
      · rcases List.mem_append.mp (leftIH stands.1 inLeft) with around | own
        · exact .inl around
        · exact .inr (.inl own)
      · rcases List.mem_append.mp (rightIH stands.2 inRight) with around | own
        · exact .inl around
        · exact .inr (.inr own)
  | not inner ih => exact ih stands
  | comparison | present | oneOf | descendant =>
      intro selector member
      cases List.mem_singleton.mp member
      exact List.mem_append_left _ stands
  | existsRow rows => exact Correlation.Scoped.mentioned_subset stands
  | existsRowWith rows condition ih =>
      intro selector member
      simp only [introduced, List.mem_append]
      rcases List.mem_append.mp member with tied | inside
      · rcases List.mem_append.mp (stands.1.mentioned_subset tied) with around | own
        · exact .inl around
        · exact .inr (.inl own)
      · exact .inr (List.mem_append.mp (ih stands.2 inside))

/-- A well-scoped plan mentions only selectors that it introduces. -/
theorem Plan.WellScoped.mentioned_subset {plan : Plan} (closed : plan.WellScoped) :
    plan.mentioned ⊆
      plan.source.selectors ++ (plan.constraint.map Constraint.introduced).getD [] := by
  intro selector member
  simp only [Plan.mentioned, List.mem_append, List.mem_cons, List.mem_map] at member
  rcases member with (inSource | inConstraint) | same | ⟨order, ordered, rfl⟩
  · exact List.mem_append_left _ (closed.chained.mentioned_subset inSource)
  · cases constrained : plan.constraint with
    | none => simp [constrained] at inConstraint
    | some constraint =>
        rw [constrained] at inConstraint
        exact (closed.stands constraint constrained).mentioned_subset inConstraint
  · exact List.mem_append_left _ (same ▸ closed.column)
  · exact List.mem_append_left _ (closed.ordering order (Option.mem_toList.mp ordered))

end Sramp
