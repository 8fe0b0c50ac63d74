import Sramp.Proofs.Backend.Keeps
import Sramp.Proofs.Relational.Needs

/-!
# What the relational store can state

The relational backend fails with nothing but the error that something cannot be expressed.
The store has everything that compiled predicates take from it; so a compiled plan is refused
only for the path under which live artifacts lie, if that is not the path the store was set
up with.
-/

namespace Sramp.Relational

open Compile

variable {root path : String}

/-- The store has all that is needed. -/
def Met (root : String) (needs : List Need) : Prop :=
  ∀ need ∈ needs, need.refusal? root = none

@[simp] theorem met_singleton {need : Need} :
    Met root [need] ↔ need.refusal? root = none :=
  List.forall_mem_singleton

@[simp] theorem met_append {needs others : List Need} :
    Met root (needs ++ others) ↔ Met root needs ∧ Met root others :=
  List.forall_mem_append

theorem ne_classifier_of_single {kind : NodeKind} {property : Property}
    (single : Property.Single kind property) (normalized : Bool) :
    property ≠ .classifier normalized := by
  rintro rfl
  cases single

/-- Properties with single values have a column. -/
theorem refusal?_of_single {operand : Operand}
    (single : Property.Single operand.selector.kind operand.property) :
    (Need.column operand).refusal? root = none :=
  Need.refusal?_column_iff.mpr ⟨.single single, ne_classifier_of_single single⟩

/-- So have the keys and values of entries. -/
theorem refusal?_of_entry {entry : Selector} (isEntry : entry.kind.isEntry = true)
    {property : Property} (part : property = .entryKey ∨ property = .entryValue) :
    (Need.column (entry.operand property)).refusal? root = none := by
  rw [Need.refusal?_column_iff]
  rcases part with rfl | rfl
  · exact ⟨.entryKey isEntry, nofun⟩
  · exact ⟨.entryValue isEntry, nofun⟩

/-- Nodes point at those they are stored beneath, and entries at those they belong to. -/
theorem parentKey?_isSome {lower upper : NodeKind}
    (below : lower.Beneath upper ∨ lower.EntryOf upper) :
    (parentKey? lower upper).isSome = true := by
  rcases below with beneath | belongs
  · cases beneath <;> rfl
  · cases belongs <;> rfl

theorem met_child {lower upper : Selector}
    (below : lower.kind.Beneath upper.kind ∨ lower.kind.EntryOf upper.kind) :
    Met root (JoinCondition.child lower upper).needs := by
  rw [JoinCondition.needs, met_singleton, Need.refusal?, if_pos (parentKey?_isSome below)]

theorem met_of_links {condition : JoinCondition} (links : condition.Links) :
    Met root condition.needs := by
  cases links with
  | child beneath => exact met_child (.inl beneath)
  | @target target far kind =>
      have pointer : Property.Single target.kind .targetArtifact := by
        rw [kind]
        exact .targetArtifact
      exact List.forall_mem_cons.mpr
        ⟨refusal?_of_single pointer, met_singleton.mpr (refusal?_of_single .id)⟩

theorem met_of_linked {source : Source} (linked : source.Linked) : Met root source.needs := by
  induction source with
  | single selector => exact fun _ => List.not_mem_nil.elim
  | join left right kind condition ih =>
      exact met_append.mpr ⟨ih linked.1, met_of_links linked.2.2⟩

/-- Nodes tie the rows of a subquery to the row outside. -/
theorem met_of_byId {rows : Correlation} (tied : rows.ById) (joined : Met root rows.source.needs) :
    Met root rows.needs := by
  have place {operand : Operand} (isId : operand.property = .id) :
      (Need.column operand).refusal? root = none := by
    apply refusal?_of_single
    rw [isId]
    exact .id
  refine met_append.mpr ⟨joined, List.forall_mem_cons.mpr ⟨place tied.1, ?_⟩⟩
  exact met_singleton.mpr (place tied.2)

/-- Whatever has a column may be compared. -/
theorem met_comparison {operand : Operand}
    (placed : (Need.column operand).refusal? root = none) (operator : Operator) (value : Value) :
    Met root (Constraint.comparison operand operator value).needs := by
  rw [Constraint.needs, need_of_ne_classifier (Need.refusal?_column_iff.mp placed).2,
    met_singleton]
  exact placed

/-- What a probe asks of an entry is a comparison of its columns. -/
theorem met_condition {probe : Probe} (isEntry : probe.entry.kind.isEntry = true)
    (asked : Option (Operator × Value)) : Met root (probe.condition asked).needs := by
  have key : Met root probe.keyTest.needs :=
    met_comparison (refusal?_of_entry isEntry (.inl rfl)) .eq (.string probe.key)
  match asked with
  | none => exact key
  | some (operator, value) =>
      exact met_append.mpr
        ⟨key, met_comparison (refusal?_of_entry isEntry (.inr rfl)) operator value⟩

/-- The store has whatever compiled predicates ask for. -/
theorem met_of_expressible {constraint : Constraint} (asked : Expressible constraint) :
    Met root constraint.needs := by
  induction asked with
  | present single => exact met_singleton.mpr (refusal?_of_single single)
  | comparison single => exact met_comparison (refusal?_of_single single) _ _
  | @oneOf operand values single =>
      rw [Constraint.needs, met_singleton]
      split
      · rfl
      · exact refusal?_of_single single
  | classifier => exact met_singleton.mpr rfl
  | probe belongs =>
      refine met_append.mpr ⟨met_of_byId ⟨rfl, rfl⟩ ?_, met_condition belongs.isEntry _⟩
      apply met_append.mpr
      exact ⟨fun _ => List.not_mem_nil.elim, met_child (.inr belongs)⟩
  | step step => exact met_of_byId step.byId (met_of_linked step.linked)
  | stepWith step _ ih =>
      exact met_append.mpr ⟨met_of_byId step.byId (met_of_linked step.linked), ih⟩
  | and _ _ leftIH rightIH | or _ _ leftIH rightIH => exact met_append.mpr ⟨leftIH, rightIH⟩
  | not _ ih => exact ih

/-- The store knows of one path only. -/
theorem met_guarded_iff {constraint : Constraint} (guarded : Guarded path constraint) :
    Met root constraint.needs ↔ root = path := by
  induction guarded with
  | located kind =>
      rw [Constraint.needs, met_singleton, Need.refusal?, ite_eq_left_iff]
      simp [kind, eq_comm]
  | both _ _ leftIH rightIH => rw [Constraint.needs, met_append, leftIH, rightIH, and_self]
  | after asked _ ih =>
      rw [Constraint.needs, met_append, ih, and_iff_right (met_of_expressible asked)]

theorem met_plan_iff {plan : Plan} (asks : plan.Expressible path) :
    Met root plan.needs ↔ root = path := by
  rcases asks.guarded with ⟨constraint, constrained, guarded⟩
  have ordered : Met root (plan.ordering.toList.map (.column ·.operand)) := by
    intro need needed
    rcases List.mem_map.mp needed with ⟨order, sorted, rfl⟩
    exact refusal?_of_single (asks.ordering order (Option.mem_toList.mp sorted))
  rw [Plan.needs, met_append, met_append, constrained, Option.map_some, Option.getD_some,
    met_guarded_iff guarded, and_iff_left ordered, and_iff_right (met_of_linked asks.linked)]

/-- A plan that asks for no more than compiled plans do is stated if and only if it speaks of
the path of the store. -/
theorem realize_ok_iff {plan : Plan} (asks : plan.Expressible path) (count : Nat) :
    (∃ statement next, realize root plan count = (.ok statement, next)) ↔ root = path := by
  rw [← met_plan_iff asks, Met, ← List.findSome?_eq_none_iff]
  constructor
  · intro stated
    rcases stated with ⟨statement, next, stated⟩
    exact met_of_realize stated
  · intro met
    exact exists_realize_of_met met count

/-- A plan is refused only because something cannot be expressed. -/
theorem onlyGaps_realize (root : String) (plan : Plan) (count : Nat) :
    OnlyGaps backendName (realize root plan count).1 := by
  cases refused : plan.needs.findSome? (Need.refusal? root) with
  | none =>
      rcases exists_realize_of_met refused count with ⟨statement, next, stated⟩
      rw [stated]
      exact onlyGaps_ok statement
  | some capability =>
      rcases realize_of_refusal refused count with ⟨next, failed⟩
      rw [failed]
      exact onlyGaps_gap capability

end Sramp.Relational
