import Sramp.Plan.Constraint

/-!
# Scoping of plans

Each source of a plan, that of the plan itself and those of its subqueries, opens a
level with selectors of its own.  A plan is well scoped if everything that stands at
a level refers to the selectors of that level.  Only the correlation of a subquery
reaches out, and no further than to the level around it.
-/

namespace Sramp

namespace JoinCondition

/-- The selectors that a join condition mentions. -/
def selectors : JoinCondition → List Selector
  | .equal left right => [left.selector, right.selector]
  | .child lower upper => [lower, upper]

end JoinCondition

namespace Source

/-- Every join condition mentions only the selector that is joined and selectors
before it. -/
def Chained : Source → Prop
  | .single _ => True
  | .join left right _ condition =>
      left.Chained ∧ ∀ selector ∈ condition.selectors,
        selector = right ∨ selector ∈ left.selectors

namespace Chained

variable {source : Source}

theorem joinChild {child parent : Selector} (chained : source.Chained)
    (inside : parent ∈ source.selectors) : (source.joinChild child parent).Chained := by
  refine ⟨chained, ?_⟩
  simp [JoinCondition.selectors, inside]

theorem joinParent {parent child : Selector} (chained : source.Chained)
    (inside : child ∈ source.selectors) : (source.joinParent parent child).Chained := by
  refine ⟨chained, ?_⟩
  simp [JoinCondition.selectors, inside]

theorem joinEqual {right : Selector} {left : Operand} {property : Property}
    (chained : source.Chained) (inside : left.selector ∈ source.selectors) :
    (source.joinEqual right left (right.operand property)).Chained := by
  refine ⟨chained, ?_⟩
  simp [JoinCondition.selectors, Selector.operand, inside]

end Chained

end Source

/-- A subquery is tied, by the identities of nodes of one kind, to its own source
and to the level around it. -/
structure Correlation.Scoped (level : List Selector) (rows : Correlation) : Prop where
  chained : rows.source.Chained
  tied : ∃ owner ∈ rows.source.selectors, ∃ outer ∈ level,
    rows.correlated = owner.operand .id ∧ rows.outer = outer.operand .id ∧
      owner.kind = outer.kind

namespace Correlation

/-- A subquery stays scoped when the level around it grows. -/
theorem Scoped.mono {level larger : List Selector} {rows : Correlation}
    (stands : rows.Scoped level) (sub : level ⊆ larger) : rows.Scoped larger where
  chained := stands.chained
  tied := by
    rcases stands.tied with ⟨owner, own, outer, around, ties⟩
    exact ⟨owner, own, outer, sub around, ties⟩

end Correlation

namespace Constraint

/-- The selectors that the sources of all subqueries introduce. -/
def introduced : Constraint → List Selector
  | .and left right | .or left right => left.introduced ++ right.introduced
  | .not inner => inner.introduced
  | .existsRow rows => rows.source.selectors
  | .existsRowWith rows condition => rows.source.selectors ++ condition.introduced
  | .comparison .. | .present _ | .oneOf .. | .descendant .. => []

/-- What stands at a level refers to its selectors; what stands in a subquery, to
those of the source of the subquery. -/
def Scoped (level : List Selector) : Constraint → Prop
  | .and left right | .or left right => left.Scoped level ∧ right.Scoped level
  | .not inner => inner.Scoped level
  | .comparison operand _ _ | .present operand | .oneOf operand _ => operand.selector ∈ level
  | .descendant selector _ => selector ∈ level
  | .existsRow rows => rows.Scoped level
  | .existsRowWith rows condition =>
      rows.Scoped level ∧ condition.Scoped rows.source.selectors

theorem Scoped.mono {level larger : List Selector} {constraint : Constraint}
    (stands : constraint.Scoped level) (sub : level ⊆ larger) : constraint.Scoped larger := by
  induction constraint with
  | and left right leftIH rightIH => exact ⟨leftIH stands.1, rightIH stands.2⟩
  | or left right leftIH rightIH => exact ⟨leftIH stands.1, rightIH stands.2⟩
  | not inner ih => exact ih stands
  | comparison | present | oneOf | descendant => exact sub stands
  | existsRow rows => exact Correlation.Scoped.mono stands sub
  | existsRowWith rows condition => exact ⟨stands.1.mono sub, stands.2⟩

/-- A conjunction introduces what its parts do. -/
theorem introduced_all {parts : List Constraint} {whole : Constraint}
    (made : all parts = some whole) : whole.introduced = parts.flatMap introduced := by
  apply joinAll_induction _ _ made
  · intro part
    simp
  · intro first rest others same
    simp [introduced, same]

/-- A conjunction stands where its parts do. -/
theorem scoped_all {level : List Selector} {parts : List Constraint} {whole : Constraint}
    (stands : ∀ part ∈ parts, part.Scoped level) (made : all parts = some whole) :
    whole.Scoped level :=
  joinAll_closed (fun _ _ left right => ⟨left, right⟩) stands made

end Constraint

/-- Every alias of a plan is introduced once, and everything in it refers to the
selectors of its own level. -/
structure Plan.WellScoped (plan : Plan) : Prop where
  distinct : ((plan.source.selectors ++
    (plan.constraint.map Constraint.introduced).getD []).map Selector.aliasName).Nodup
  chained : plan.source.Chained
  stands : ∀ constraint ∈ plan.constraint, constraint.Scoped plan.source.selectors
  column : plan.column ∈ plan.source.selectors
  ordering : ∀ order ∈ plan.ordering, order.operand.selector ∈ plan.source.selectors

end Sramp
