import Sramp.Proofs.Compile.Freshness
import Sramp.Proofs.Compile.Run
import Sramp.Proofs.Meaning.Reading

/-!
# Rows of compiled sources

Which rows the sources of compiled steps and probes have.  A source is unfolded join
by join; as the aliases in it differ, each of its selectors stands for the node it was
joined with.  A subquery is tied to the row outside by the identifier of a node, so
the selector that ties it stands for the node outside.
-/

namespace Sramp

open Compile

namespace Row

variable {store : Store}

/-- A selector stands for a node of its kind. -/
structure Stands (row : Row store) (selector : Selector) (node : store.Node) : Prop where
  node_eq : row.node selector = some node
  kind_eq : store.kind node = selector.kind

/-- A selector keeps what it stands for when another one is bound. -/
theorem Stands.bind {row : Row store} {selector other : Selector} {node bound : store.Node}
    (stands : row.Stands selector node) (different : selector.aliasName ≠ other.aliasName) :
    (row.bind other bound).Stands selector node where
  node_eq := by rw [node_bind_of_ne different, stands.node_eq]
  kind_eq := stands.kind_eq

/-- A selector stands for the node bound to it. -/
theorem stands_bind {row : Row store} {selector : Selector} {node : store.Node}
    (kind : store.kind node = selector.kind) : (row.bind selector node).Stands selector node :=
  ⟨node_bind_self _ _ _, kind⟩

/-- Tying two selectors of one kind makes them stand for one node. -/
theorem Stands.joins_id_iff {left right : Row store} {owner outer : Selector}
    {node other : store.Node} (owns : left.Stands owner node)
    (stands : right.Stands outer other) (same : owner.kind = outer.kind) :
    left.Joins (owner.operand .id) right (outer.operand .id) ↔ node = other := by
  apply Row.joins_id_iff owns.node_eq stands.node_eq
  rw [owns.kind_eq, stands.kind_eq, same]

end Row

namespace Source

variable {store : Store} {left : Source} {right : Selector} {condition : JoinCondition}
variable {begun : Row store} {node : store.Node} {Holds : Row store → Prop}

/-- Some row of a single selector satisfies a property if some node of its kind does. -/
theorem exists_binds_single {selector : Selector} :
    (∃ row : Row store, (single selector).Binds row ∧ Holds row) ↔
      ∃ node, store.kind node = selector.kind ∧ Holds (Row.empty.bind selector node) := by
  simp only [Binds]
  constructor
  · intro bound
    rcases bound with ⟨_, ⟨node, kind, rfl⟩, holds⟩
    exact ⟨node, kind, holds⟩
  · intro begun
    rcases begun with ⟨node, kind, holds⟩
    exact ⟨_, ⟨node, kind, rfl⟩, holds⟩

/-- Some row of a join satisfies a property if some row has a partner with which it
does. -/
theorem exists_binds_join :
    (∃ row : Row store, (left.join right .inner condition).Binds row ∧ Holds row) ↔
      ∃ begun : Row store, left.Binds begun ∧
        ∃ node, Partner begun right condition node ∧ Holds (begun.bind right node) := by
  simp only [Binds]
  constructor
  · intro joined
    rcases joined with ⟨_, ⟨begun, first, node, partner, rfl⟩, holds⟩
    exact ⟨begun, first, node, partner, holds⟩
  · intro extended
    rcases extended with ⟨begun, first, node, partner, holds⟩
    exact ⟨_, ⟨begun, first, node, partner, rfl⟩, holds⟩

/-- The partners beneath a node. -/
theorem partner_child_iff {upper : Selector} (different : upper.aliasName ≠ right.aliasName) :
    Partner begun right (.child right upper) node ↔
      store.kind node = right.kind ∧
        ∃ above, begun.node upper = some above ∧ store.Beneath node above := by
  simp [Partner, JoinCondition.Holds, Row.node_bind_of_ne different]

/-- The partners above a node. -/
theorem partner_parent_iff {lower : Selector} (different : lower.aliasName ≠ right.aliasName) :
    Partner begun right (.child lower right) node ↔
      store.kind node = right.kind ∧
        ∃ below, begun.node lower = some below ∧ store.Beneath below node := by
  simp [Partner, JoinCondition.Holds, Row.node_bind_of_ne different]

/-- The partners that a target points at. -/
theorem partner_target_iff {target : Selector} (different : target.aliasName ≠ right.aliasName) :
    Partner begun right
        (.equal (target.operand .targetArtifact) (right.operand .id)) node ↔
      store.kind node = right.kind ∧ ∃ pointer, begun.node target = some pointer ∧
        store.field pointer .targetArtifact = some (store.id node) := by
  simp only [Partner, JoinCondition.Holds, Row.Joins, Row.key, Selector.operand,
    Row.node_bind_of_ne different, Row.node_bind_self, Option.bind_some, store.field_id]
  cases begun.node target with
  | none => simp
  | some pointer => simp [eq_comm]

/-- Joining the artifacts that relationships lead to adds a target and an artifact to
a row. -/
theorem exists_binds_joinFar {source : Source} {edge : Edge} {far : Selector}
    (kinds : edge.target.kind = .target ∧ far.kind = .artifact)
    (target : edge.relationship.aliasName ≠ edge.target.aliasName)
    (artifact : edge.target.aliasName ≠ far.aliasName) :
    (∃ row : Row store, (joinFar source edge far).Binds row ∧ Holds row) ↔
      ∃ begun : Row store, source.Binds begun ∧
        ∃ relationship, begun.node edge.relationship = some relationship ∧
        ∃ pointer other, Query.Targets ⟨relationship, pointer⟩ other ∧
          Holds ((begun.bind edge.target pointer).bind far other) := by
  rw [joinFar, joinChild, joinEqual, exists_binds_join, exists_binds_join]
  simp only [partner_child_iff target, partner_target_iff artifact, Row.node_bind_self,
    Option.some.injEq, exists_eq_left', kinds, Query.Targets]
  constructor
  · intro joined
    rcases joined with
      ⟨begun, first, pointer, ⟨kind, relationship, stands, beneath⟩, other, ⟨otherKind, points⟩,
        holds⟩
    exact ⟨begun, first, relationship, stands, pointer, other,
      ⟨kind, beneath, otherKind, points⟩, holds⟩
  · intro extended
    rcases extended with
      ⟨begun, first, relationship, stands, pointer, other, ⟨kind, beneath, otherKind, points⟩,
        holds⟩
    exact ⟨begun, first, pointer, ⟨kind, relationship, stands, beneath⟩, other,
      ⟨otherKind, points⟩, holds⟩

end Source

section Subqueries

variable {store : Store} {row : Row store} {node : store.Node} {Holds : Row store → Prop}

/-- In the rows of a subquery that belong to a row, the selector that ties them stands
for the node outside. -/
theorem exists_tied_iff {source : Source} {owner outer : Selector}
    (owns : ∀ inner : Row store, source.Binds inner → ∃ own, inner.Stands owner own)
    (same : owner.kind = outer.kind) (stands : row.Stands outer node) :
    (∃ inner : Row store, source.Binds inner ∧
        inner.Joins (owner.operand .id) row (outer.operand .id) ∧ Holds inner) ↔
      ∃ inner : Row store, source.Binds inner ∧
        inner.node owner = some node ∧ Holds inner := by
  apply exists_congr
  intro inner
  apply and_congr_right
  intro binds
  apply and_congr_left'
  rcases owns inner binds with ⟨own, owned⟩
  rw [owned.joins_id_iff stands same, owned.node_eq, Option.some.injEq]

/-- The selector that is joined last stands for a node. -/
theorem stands_of_join {left : Source} {right : Selector} {condition : JoinCondition}
    (binds : (left.join right .inner condition).Binds row) :
    ∃ own, row.Stands right own := by
  rcases binds with ⟨begun, -, own, partner, rfl⟩
  exact ⟨own, Row.node_bind_self _ _ _, partner.1⟩

/-- The rows of a probe bind an entry of the node outside. -/
theorem exists_row_of_probe {found : Probe}
    (different : found.owner.aliasName ≠ found.entry.aliasName)
    (same : found.owner.kind = found.outer.kind) (stands : row.Stands found.outer node) :
    (∃ inner : Row store, found.rows.source.Binds inner ∧
        inner.Joins found.rows.correlated row found.rows.outer ∧ Holds inner) ↔
      ∃ entry, store.kind entry = found.entry.kind ∧ store.Beneath entry node ∧
        Holds ((Row.empty.bind found.owner node).bind found.entry entry) := by
  have owns (inner : Row store) (binds : found.rows.source.Binds inner) :
      ∃ own, inner.Stands found.owner own := by
    rcases binds with ⟨_, ⟨own, kind, rfl⟩, entry, -, rfl⟩
    refine ⟨own, ?_, kind⟩
    rw [Row.node_bind_of_ne different, Row.node_bind_self]
  apply (exists_tied_iff owns same stands).trans
  rw [Probe.rows, Source.joinChild, Source.exists_binds_join, Source.exists_binds_single]
  simp only [Source.partner_child_iff different, Row.node_bind_of_ne different,
    Row.node_bind_self, Option.some.injEq, exists_eq_left']
  constructor
  · intro bound
    rcases bound with ⟨_, -, entry, ⟨kind, beneath⟩, rfl, holds⟩
    exact ⟨entry, kind, beneath, holds⟩
  · intro entered
    rcases entered with ⟨entry, kind, beneath, holds⟩
    exact ⟨node, stands.kind_eq.trans same.symm, entry, ⟨kind, beneath⟩, rfl, holds⟩

/-- The rows of a step towards documents bind a document of the artifact outside. -/
theorem exists_row_of_documentsOf {document owner outer : Selector}
    (different : document.aliasName ≠ owner.aliasName)
    (kind : document.kind = .artifact) (same : owner.kind = outer.kind)
    (stands : row.Stands outer node) :
    (∃ inner : Row store, (documentsOf document owner outer).source.Binds inner ∧
        inner.Joins (documentsOf document owner outer).correlated row
          (documentsOf document owner outer).outer ∧ Holds inner) ↔
      ∃ other, store.kind other = .artifact ∧ store.Beneath node other ∧
        Holds ((Row.empty.bind document other).bind owner node) := by
  apply (exists_tied_iff (fun _ => stands_of_join) same stands).trans
  rw [Source.exists_binds_join, Source.exists_binds_single]
  simp only [Source.partner_child_iff different, Row.node_bind_self, Option.some.injEq,
    exists_eq_left', kind]
  constructor
  · intro bound
    rcases bound with ⟨other, otherKind, _, ⟨-, beneath⟩, rfl, holds⟩
    exact ⟨other, otherKind, beneath, holds⟩
  · intro found
    rcases found with ⟨other, otherKind, beneath, holds⟩
    exact ⟨other, otherKind, node, ⟨stands.kind_eq.trans same.symm, beneath⟩, rfl, holds⟩

/-- The rows of a step over relationships extend rows in which the artifact outside has
a relationship. -/
theorem exists_row_of_ownedBy {source : Source} {child owner outer : Selector}
    (different : child.aliasName ≠ owner.aliasName) (same : owner.kind = outer.kind)
    (stands : row.Stands outer node) :
    (∃ inner : Row store, (ownedBy source child owner outer).source.Binds inner ∧
        inner.Joins (ownedBy source child owner outer).correlated row
          (ownedBy source child owner outer).outer ∧ Holds inner) ↔
      ∃ begun : Row store, source.Binds begun ∧
        ∃ below, begun.node child = some below ∧ store.Beneath below node ∧
          Holds (begun.bind owner node) := by
  apply (exists_tied_iff (fun _ => stands_of_join) same stands).trans
  rw [Source.exists_binds_join]
  simp only [Source.partner_parent_iff different, Row.node_bind_self, Option.some.injEq]
  constructor
  · intro bound
    rcases bound with ⟨begun, first, _, ⟨-, below, bound, beneath⟩, rfl, holds⟩
    exact ⟨begun, first, below, bound, beneath, holds⟩
  · intro extended
    rcases extended with ⟨begun, first, below, bound, beneath, holds⟩
    exact ⟨begun, first, node, ⟨stands.kind_eq.trans same.symm, below, bound, beneath⟩, rfl,
      holds⟩

end Subqueries

end Sramp
