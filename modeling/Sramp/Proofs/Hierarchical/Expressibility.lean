import Sramp.Proofs.Backend.Keeps
import Sramp.Proofs.Compile.Expressible
import Sramp.Proofs.Hierarchical.EntryTest
import Sramp.Proofs.Hierarchical.Reading

/-!
# What the hierarchical store can state

The hierarchical backend fails with nothing but the error that something cannot be
expressed.  It states whatever compiled predicates ask for, as long as no key of an entry
holds a closing bracket: every probe is recognized as a test of an entry, and no step is.
-/

namespace Sramp.Hierarchical

open Compile

theorem onlyGaps_propertyName (property : Property) :
    OnlyGaps backendName (propertyName property) := by
  unfold propertyName
  split <;> first | exact onlyGaps_ok _ | exact onlyGaps_gap _

theorem onlyGaps_nodeProperty (operand : Operand) :
    OnlyGaps backendName (nodeProperty operand) := by
  apply onlyGaps_bind (onlyGaps_propertyName operand.property)
  intro name
  exact onlyGaps_ok _

theorem onlyGaps_selector (selector : Selector) :
    OnlyGaps backendName (backend.selector selector) := by
  have typed : OnlyGaps backendName (nodeType selector.kind) := by
    unfold nodeType
    split <;> first | exact onlyGaps_ok _ | exact onlyGaps_gap _
  apply onlyGaps_bind typed
  intro type
  exact onlyGaps_ok _

theorem onlyGaps_link (condition : JoinCondition) : OnlyGaps backendName (link condition) := by
  unfold link
  cases condition with
  | equal left right =>
      apply onlyGaps_bind (onlyGaps_nodeProperty left)
      intro first
      apply onlyGaps_bind (onlyGaps_nodeProperty right)
      intro second
      exact onlyGaps_ok _
  | child lower upper => exact onlyGaps_ok _

theorem onlyGaps_state (test : EntryTest) (aliasName : String) :
    OnlyGaps backendName (test.state aliasName) := by
  unfold EntryTest.state
  split
  · exact onlyGaps_gap _
  · dsimp only
    split <;> exact onlyGaps_ok _

/-- Every action of the backend fails so. -/
theorem keeps_onlyGaps : backend.Keeps (OnlyGaps backendName) where
  pure := onlyGaps_ok
  bind := onlyGaps_bind
  selector := onlyGaps_selector
  join left right kind condition := by
    apply onlyGaps_bind (onlyGaps_link condition)
    intro tie
    exact onlyGaps_ok _
  comparison operand operator value := by
    apply onlyGaps_bind (onlyGaps_nodeProperty operand)
    intro property
    exact onlyGaps_ok _
  present operand := by
    apply onlyGaps_bind (onlyGaps_nodeProperty operand)
    intro property
    exact onlyGaps_ok _
  oneOf operand values := by
    show OnlyGaps backendName (oneOf operand values)
    unfold oneOf
    split
    · exact onlyGaps_ok _
    · apply onlyGaps_bind (onlyGaps_nodeProperty operand)
      intro property
      exact onlyGaps_ok _
  existence subquery rows condition rowsGaps conditionGaps := by
    show OnlyGaps backendName (existence subquery rows condition)
    unfold existence
    split
    · exact onlyGaps_state _ _
    · apply onlyGaps_bind rowsGaps
      intro joined
      apply onlyGaps_bind (onlyGaps_nodeProperty subquery.rows.outer)
      intro outer
      apply onlyGaps_bind (onlyGaps_nodeProperty subquery.rows.correlated)
      intro selected
      apply onlyGaps_bind conditionGaps
      intro inner
      exact onlyGaps_ok _
  descendant selector path := onlyGaps_ok _
  negation inner := onlyGaps_ok _
  conjunction left right := onlyGaps_ok _
  disjunction left right := onlyGaps_ok _
  statement rows condition result sorting := by
    have ordered : OnlyGaps backendName (order sorting) := by
      cases sorting with
      | none => exact onlyGaps_ok _
      | some request =>
          apply onlyGaps_bind (onlyGaps_nodeProperty request.operand)
          intro property
          exact onlyGaps_ok _
    apply onlyGaps_bind ordered
    intro stated
    exact onlyGaps_ok _

theorem exists_entryLabel {kind : NodeKind} (isEntry : kind.isEntry = true) :
    ∃ label, entryLabel? kind = some label := by
  cases kind <;> first | exact ⟨_, rfl⟩ | contradiction

/-- Every probe is recognized, with its key and what it compares. -/
theorem EntryTest.ofSubquery?_probe {probe : Probe}
    (belongs : probe.entry.kind.EntryOf probe.owner.kind) (asked : Option (Operator × Value)) :
    ∃ label, entryLabel? probe.entry.kind = some label ∧
      EntryTest.ofSubquery? (probe.subquery asked) = some ⟨label, probe.key, asked⟩ := by
  rcases exists_entryLabel belongs.isEntry with ⟨label, labelled⟩
  refine ⟨label, labelled, EntryTest.ofSubquery?_eq_some_iff.mpr ?_⟩
  refine ⟨probe.owner, probe.entry, rfl, rfl, labelled, ?_⟩
  cases asked <;> rfl

/-- No subquery that joins other nodes than entries is recognized. -/
theorem EntryTest.ofSubquery?_linked {rows : Correlation} (linked : rows.source.Linked)
    (condition : Option Constraint) : EntryTest.ofSubquery? ⟨rows, condition⟩ = none := by
  cases recognized : EntryTest.ofSubquery? ⟨rows, condition⟩ with
  | none => rfl
  | some test =>
      rcases EntryTest.ofSubquery?_eq_some_iff.mp recognized with
        ⟨owner, entry, joined, -, labelled, -⟩
      rw [joined] at linked
      have noEntry := linked.2.1
      cases kind : entry.kind <;> simp [kind, NodeKind.isEntry, entryLabel?] at noEntry labelled

/-! ## What can be stated -/

theorem exists_nodeProperty {operand : Operand}
    (single : Property.Single operand.selector.kind operand.property) :
    ∃ property, nodeProperty operand = .ok property := by
  rcases operand with ⟨⟨kind, aliasName⟩, property⟩
  cases single <;> exact ⟨_, rfl⟩

theorem exists_idProperty {operand : Operand} (isId : operand.property = .id) :
    ∃ property, nodeProperty operand = .ok property := by
  apply exists_nodeProperty
  rw [isId]
  exact .id

theorem exists_link {condition : JoinCondition} (links : condition.Links) :
    ∃ tie, link condition = .ok tie := by
  cases links <;> exact ⟨_, rfl⟩

theorem exists_selector {selector : Selector} (node : selector.kind.isEntry = false) :
    ∃ rows, backend.selector selector = .ok rows := by
  rcases selector with ⟨kind, aliasName⟩
  cases kind <;> first | exact ⟨_, rfl⟩ | contradiction

theorem exists_source {source : Source} (linked : source.Linked) :
    ∃ rows, backend.source source = .ok rows := by
  induction source with
  | single selector => exact exists_selector linked
  | join left right kind condition ih =>
      rcases ih linked.1 with ⟨before, leftStated⟩
      rcases exists_selector linked.2.1 with ⟨joined, rightStated⟩
      rcases exists_link linked.2.2 with ⟨tie, tied⟩
      refine ⟨.join before joined kind tie, ?_⟩
      simp only [Backend.source, exceptBind_eq_ok]
      exact ⟨before, leftStated, joined, rightStated, exceptBind_eq_ok.mpr ⟨tie, tied, rfl⟩⟩

/-- No key that a constraint asks entries for holds a closing bracket. -/
def Bracketable (constraint : Constraint) : Prop :=
  ∀ key ∈ constraint.keys, ']' ∉ key.toList

theorem bracketable_and {left right : Constraint} :
    Bracketable (.and left right) ↔ Bracketable left ∧ Bracketable right :=
  List.forall_mem_append

theorem bracketable_or {left right : Constraint} :
    Bracketable (.or left right) ↔ Bracketable left ∧ Bracketable right :=
  List.forall_mem_append

theorem bracketable_of_keys_eq_nil {constraint : Constraint} (keyless : constraint.keys = []) :
    Bracketable constraint := by
  simp [Bracketable, keyless]

/-- Properties with single values are no keys. -/
theorem bracketable_comparison {operand : Operand}
    (single : Property.Single operand.selector.kind operand.property) (operator : Operator)
    (value : Value) : Bracketable (.comparison operand operator value) := by
  have other := single.ne_entryKey
  cases value <;> simp [Bracketable, Constraint.keys, other]

/-- A probe asks for its key only. -/
theorem keys_condition (probe : Probe) (asked : Option (Operator × Value)) :
    (probe.condition asked).keys = [probe.key] := by
  match asked with
  | none => rfl
  | some (operator, value) => cases value <;> rfl

/-- A test of an entry is stated if and only if its key can stand between brackets. -/
theorem exists_state_iff {test : EntryTest} {aliasName : String} :
    (∃ condition, test.state aliasName = .ok condition) ↔ ']' ∉ test.key.toList := by
  simp only [EntryTest.state_eq_ok, exists_and_left, exists_eq, and_true]

/-- A subquery that is no test of an entry is stated if its condition is. -/
theorem exists_existence_iff {subquery : Subquery} (linked : subquery.rows.source.Linked)
    (tied : subquery.rows.ById) {inner : Except Error (Option Condition)} :
    (∃ condition, existence subquery (backend.source subquery.rows.source) inner =
      .ok condition) ↔ ∃ stated, inner = .ok stated := by
  have other := EntryTest.ofSubquery?_linked linked subquery.condition
  rcases exists_source linked with ⟨rows, sourceStated⟩
  rcases exists_idProperty tied.2 with ⟨outer, left⟩
  rcases exists_idProperty tied.1 with ⟨selected, right⟩
  constructor
  · intro stated
    rcases stated with ⟨condition, stated⟩
    rcases (existence_eq_ok other).mp stated with ⟨_, -, _, -, _, -, inner, innerStated, -⟩
    exact ⟨inner, innerStated⟩
  · intro stated
    rcases stated with ⟨inner, innerStated⟩
    exact ⟨_, (existence_eq_ok other).mpr
      ⟨rows, sourceStated, outer, left, selected, right, inner, innerStated, rfl⟩⟩

/-- Two conditions are stated and connected if and only if both can be stated. -/
theorem exists_connected_iff (connect : Condition → Condition → Condition)
    {first second : Except Error Condition} :
    (∃ condition, (do
      let left ← first
      let right ← second
      return connect left right) = .ok condition) ↔
      (∃ left, first = .ok left) ∧ ∃ right, second = .ok right := by
  simp only [connected_eq_ok]
  constructor
  · intro stated
    rcases stated with ⟨_, left, right, leftStated, rightStated, rfl⟩
    exact ⟨⟨left, leftStated⟩, right, rightStated⟩
  · intro parts
    rcases parts with ⟨⟨left, leftStated⟩, right, rightStated⟩
    exact ⟨_, left, right, leftStated, rightStated, rfl⟩

/-- What compiled predicates ask for is stated if and only if the keys can stand between
brackets. -/
theorem exists_constraint_iff {constraint : Constraint} (asked : Expressible constraint) :
    (∃ condition, backend.constraint constraint = .ok condition) ↔ Bracketable constraint := by
  induction asked with
  | present single =>
      rcases exists_nodeProperty single with ⟨property, placed⟩
      exact iff_of_true ⟨_, exceptBind_eq_ok.mpr ⟨property, placed, rfl⟩⟩
        (bracketable_of_keys_eq_nil rfl)
  | comparison single =>
      rcases exists_nodeProperty single with ⟨property, placed⟩
      exact iff_of_true ⟨_, exceptBind_eq_ok.mpr ⟨property, placed, rfl⟩⟩
        (bracketable_comparison single _ _)
  | @oneOf operand values single =>
      rcases exists_nodeProperty single with ⟨property, placed⟩
      have stated : ∃ condition, oneOf operand values = .ok condition := by
        unfold oneOf
        split
        · exact ⟨_, rfl⟩
        · exact ⟨_, exceptBind_eq_ok.mpr ⟨property, placed, rfl⟩⟩
      exact iff_of_true stated (bracketable_of_keys_eq_nil rfl)
  | @classifier artifact normalized value =>
      have stated : ∃ name, propertyName (.classifier normalized) = .ok name := by
        cases normalized <;> exact ⟨_, rfl⟩
      rcases stated with ⟨name, named⟩
      have placed : nodeProperty (artifact.operand (.classifier normalized)) =
          .ok ⟨artifact.aliasName, name⟩ := exceptBind_eq_ok.mpr ⟨name, named, rfl⟩
      have free : Bracketable (.equals artifact (.classifier normalized) value) := by
        cases value <;> simp [Bracketable, Constraint.equals, Constraint.keys, Selector.operand]
      exact iff_of_true ⟨_, exceptBind_eq_ok.mpr ⟨_, placed, rfl⟩⟩ free
  | @probe probe asked belongs =>
      rcases EntryTest.ofSubquery?_probe belongs asked with ⟨label, -, recognized⟩
      have flattened : backend.constraint (.existsRowWith probe.rows (probe.condition asked)) =
          EntryTest.state ⟨label, probe.key, asked⟩ probe.outer.aliasName := by
        unfold Probe.subquery at recognized
        simp only [Backend.constraint, backend, existence, recognized]
        rfl
      rw [flattened, exists_state_iff, Bracketable, Constraint.keys, keys_condition]
      simp
  | step step =>
      exact iff_of_true ((exists_existence_iff step.linked step.byId).mpr ⟨none, rfl⟩)
        (bracketable_of_keys_eq_nil rfl)
  | @stepWith rows condition step _ ih =>
      have same : Bracketable (.existsRowWith rows condition) ↔ Bracketable condition := Iff.rfl
      rw [same, ← ih]
      apply (exists_existence_iff step.linked step.byId).trans
      cases backend.constraint condition <;> simp [Functor.map, Except.map]
  | and _ _ leftIH rightIH =>
      rw [bracketable_and, ← leftIH, ← rightIH]
      exact exists_connected_iff .and
  | or _ _ leftIH rightIH =>
      rw [bracketable_or, ← leftIH, ← rightIH]
      exact exists_connected_iff .or
  | @not inner _ ih =>
      have same : Bracketable (.not inner) ↔ Bracketable inner := Iff.rfl
      rw [same, ← ih]
      simp only [not_eq_ok]
      constructor
      · intro stated
        rcases stated with ⟨_, negated, stated, rfl⟩
        exact ⟨negated, stated⟩
      · intro stated
        rcases stated with ⟨negated, stated⟩
        exact ⟨_, negated, stated, rfl⟩

theorem exists_guarded_iff {path : String} {constraint : Constraint}
    (guarded : Guarded path constraint) :
    (∃ condition, backend.constraint constraint = .ok condition) ↔ Bracketable constraint := by
  induction guarded with
  | located => exact iff_of_true ⟨_, rfl⟩ (bracketable_of_keys_eq_nil rfl)
  | both _ _ leftIH rightIH =>
      rw [bracketable_and, ← leftIH, ← rightIH]
      exact exists_connected_iff .and
  | after asked _ ih =>
      rw [bracketable_and, ← exists_constraint_iff asked, ← ih]
      exact exists_connected_iff .and

/-- A plan that asks for no more than compiled plans do is stated if and only if no key that it
asks entries for holds a closing bracket. -/
theorem exists_realize_iff {plan : Plan} {path : String} (asks : plan.Expressible path) :
    (∃ statement, realize plan = .ok statement) ↔ ∀ key ∈ plan.keys, ']' ∉ key.toList := by
  rcases asks.guarded with ⟨constraint, constrained, guarded⟩
  have sameKeys : plan.keys = constraint.keys := by simp [Plan.keys, constrained]
  rw [sameKeys]
  apply Iff.trans _ (exists_guarded_iff guarded)
  constructor
  · intro stated
    rcases stated with ⟨statement, stated⟩
    rcases realize_eq_ok.mp stated with ⟨rows, condition, ordered, -, conditionStated, -, -⟩
    rw [constrained] at conditionStated
    rcases exceptMap_eq_ok.mp conditionStated with ⟨condition, stated, -⟩
    exact ⟨condition, stated⟩
  · intro stated
    rcases stated with ⟨condition, stated⟩
    rcases exists_source asks.linked with ⟨rows, sourceStated⟩
    have ordered : ∃ ordered, order plan.ordering = .ok ordered := by
      cases sorting : plan.ordering with
      | none => exact ⟨none, rfl⟩
      | some request =>
          rcases exists_nodeProperty (asks.ordering request sorting) with ⟨property, placed⟩
          exact ⟨_, exceptBind_eq_ok.mpr ⟨property, placed, rfl⟩⟩
    rcases ordered with ⟨ordered, sorted⟩
    refine ⟨_, realize_eq_ok.mpr ⟨rows, some condition, ordered, sourceStated, ?_, sorted, rfl⟩⟩
    rw [constrained]
    exact exceptMap_eq_ok.mpr ⟨condition, stated, rfl⟩

/-- A plan is refused only because something cannot be expressed. -/
theorem onlyGaps_realize (plan : Plan) : OnlyGaps backendName (realize plan) :=
  keeps_onlyGaps.realize plan

/-- How a subquery of a compiled plan is taken: that of a probe as the test of an entry with
the same key, operator and value, and that of a step as no such test. -/
inductive Taken : Subquery → Prop where
  | probe {probe : Probe} {asked : Option (Operator × Value)} {label : String} :
      entryLabel? probe.entry.kind = some label →
      EntryTest.ofSubquery? (probe.subquery asked) = some ⟨label, probe.key, asked⟩ →
      Taken (probe.subquery asked)
  | step {rows : Correlation} {condition : Option Constraint} :
      Step rows → EntryTest.ofSubquery? ⟨rows, condition⟩ = none → Taken ⟨rows, condition⟩

theorem subqueries_condition (probe : Probe) (asked : Option (Operator × Value)) :
    (probe.condition asked).subqueries = [] := by
  match asked with
  | none => rfl
  | some (operator, value) => rfl

theorem taken_of_expressible {constraint : Constraint} (asked : Expressible constraint) :
    ∀ subquery ∈ constraint.subqueries, Taken subquery := by
  induction asked with
  | present | comparison | oneOf | classifier =>
      intro subquery member
      exact absurd member List.not_mem_nil
  | @probe probe asked belongs =>
      rcases EntryTest.ofSubquery?_probe belongs asked with ⟨label, labelled, recognized⟩
      intro subquery member
      rw [Constraint.subqueries, subqueries_condition, List.mem_singleton] at member
      rw [member]
      exact .probe labelled recognized
  | step step =>
      intro subquery member
      cases List.mem_singleton.mp member
      exact .step step (EntryTest.ofSubquery?_linked step.linked none)
  | stepWith step _ ih =>
      intro subquery member
      rcases List.mem_cons.mp member with rfl | inside
      · exact .step step (EntryTest.ofSubquery?_linked step.linked _)
      · exact ih subquery inside
  | and _ _ leftIH rightIH | or _ _ leftIH rightIH =>
      intro subquery member
      rcases List.mem_append.mp member with inLeft | inRight
      · exact leftIH subquery inLeft
      · exact rightIH subquery inRight
  | not _ ih => exact ih

theorem taken_of_guarded {path : String} {constraint : Constraint}
    (guarded : Guarded path constraint) : ∀ subquery ∈ constraint.subqueries, Taken subquery := by
  induction guarded with
  | located =>
      intro subquery member
      exact absurd member List.not_mem_nil
  | both _ _ leftIH rightIH =>
      intro subquery member
      rcases List.mem_append.mp member with inLeft | inRight
      · exact leftIH subquery inLeft
      · exact rightIH subquery inRight
  | after asked _ ih =>
      intro subquery member
      rcases List.mem_append.mp member with inBody | inTrash
      · exact taken_of_expressible asked subquery inBody
      · exact ih subquery inTrash

end Sramp.Hierarchical
