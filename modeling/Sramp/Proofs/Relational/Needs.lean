import Sramp.Proofs.Compile.Expressible
import Sramp.Proofs.Relational.Reading

/-!
# What plans take from the relational store

A plan is stated if and only if the store has everything that the plan takes from it, and
otherwise refused for the first thing that the store does not have.  Operands are taken from
columns, which only the nodes of some kinds have.  Two operands are stated without looking
for a column: one whose classifiers are looked up, and one that is to be among no values.
-/

namespace Sramp

/-- The properties that nodes of a kind have. -/
inductive Property.InSchema : NodeKind → Property → Prop where
  | single {kind : NodeKind} {property : Property} :
      Single kind property → InSchema kind property
  | classifier (normalized : Bool) : InSchema .artifact (.classifier normalized)
  | entryKey {kind : NodeKind} : kind.isEntry = true → InSchema kind .entryKey
  | entryValue {kind : NodeKind} : kind.isEntry = true → InSchema kind .entryValue

/-- An operand names a property that the nodes of its selector have. -/
def Operand.InSchema (operand : Operand) : Prop :=
  Property.InSchema operand.selector.kind operand.property

namespace Relational

/-- Something that a part of a plan takes from the store.  Where classifiers are compared, or
an operand with no values, the operand has no part in it. -/
inductive Need where
  | column (operand : Operand)
  | classifiers (operand : Operand) (operator : Operator)
  | nothing (operand : Operand)
  | key (child parent : Selector)
  | liveness (selector : Selector) (path : String)

/-- Why the store does not have what is needed. -/
def Need.refusal? (root : String) : Need → Option Capability
  | .column operand =>
      if (columnName? operand.selector.kind operand.property).isSome then none
      else some (.propertyOf operand.property operand.selector.kind)
  | .classifiers _ operator =>
      if operator = .eq then none else some (.classifierComparison operator)
  | .nothing _ => none
  | .key child parent =>
      if (parentKey? child.kind parent.kind).isSome then none
      else some (.storedBeneath child.kind parent.kind)
  | .liveness selector path =>
      if selector.kind = .artifact ∧ path = root then none
      else some (.locatedUnder selector.kind path)

end Relational

open Relational

/-- What a join condition takes from the store. -/
def JoinCondition.needs : JoinCondition → List Need
  | .equal left right => [.column left, .column right]
  | .child lower upper => [.key lower upper]

/-- What a source takes from the store. -/
def Source.needs : Source → List Need
  | .single _ => []
  | .join left _ _ condition => left.needs ++ condition.needs

/-- What the rows of a subquery take from the store. -/
def Correlation.needs (rows : Correlation) : List Need :=
  rows.source.needs ++ [.column rows.correlated, .column rows.outer]

/-- What the comparison of an operand takes from the store. -/
def Operand.need (operand : Operand) (operator : Operator) : Need :=
  match operand.property with
  | .classifier _ => .classifiers operand operator
  | _ => .column operand

/-- What a constraint takes from the store, in the order of its parts. -/
def Constraint.needs : Constraint → List Need
  | .and left right | .or left right => left.needs ++ right.needs
  | .not inner => inner.needs
  | .comparison operand operator _ => [operand.need operator]
  | .present operand => [.column operand]
  | .oneOf operand values => [if values.isEmpty then .nothing operand else .column operand]
  | .descendant selector path => [.liveness selector path]
  | .existsRow rows => rows.needs
  | .existsRowWith rows condition => rows.needs ++ condition.needs

/-- What a plan takes from the store. -/
def Plan.needs (plan : Plan) : List Need :=
  plan.source.needs ++ (plan.constraint.map Constraint.needs).getD [] ++
    plan.ordering.toList.map (.column ·.operand)

namespace Relational

open Compile

variable {α β : Type} {root : String} {operand : Operand}

/-- A column holds a property that the nodes of the kind have. -/
theorem inSchema_of_columnName? {kind : NodeKind} {property : Property}
    (named : (columnName? kind property).isSome = true) : Property.InSchema kind property := by
  cases property with
  | classifier normalized => contradiction
  | id => exact .single .id
  | core _ | artifactType | artifactModel =>
      cases kind with
      | artifact => exact .single (by constructor)
      | _ => contradiction
  | relationshipType =>
      cases kind with
      | relationship => exact .single .relationshipType
      | _ => contradiction
  | targetArtifact =>
      cases kind with
      | target => exact .single .targetArtifact
      | _ => contradiction
  | entryKey =>
      cases entry : kind.isEntry with
      | true => exact .entryKey entry
      | false => simp [columnName?, entry] at named
  | entryValue =>
      cases entry : kind.isEntry with
      | true => exact .entryValue entry
      | false => simp [columnName?, entry] at named

/-- Every property that the nodes of a kind have is held by a column, unless it is their
classifiers, which are kept apart. -/
theorem columnName?_isSome_iff {kind : NodeKind} {property : Property} :
    (columnName? kind property).isSome = true ↔
      Property.InSchema kind property ∧ ∀ normalized, property ≠ .classifier normalized := by
  constructor
  · intro named
    refine ⟨inSchema_of_columnName? named, ?_⟩
    rintro normalized rfl
    contradiction
  · intro has
    rcases has with ⟨inSchema, single⟩
    cases inSchema with
    | single single => cases single <;> rfl
    | classifier normalized => exact absurd rfl (single normalized)
    | entryKey entry | entryValue entry => simp [columnName?, entry]

/-- The store has a column for an operand exactly if the operand is in the schema and is not
about classifiers. -/
theorem Need.refusal?_column_iff {operand : Operand} :
    (Need.column operand).refusal? root = none ↔
      operand.InSchema ∧ ∀ normalized, operand.property ≠ .classifier normalized := by
  rw [refusal?, Operand.InSchema, ← columnName?_isSome_iff]
  split
  next named => exact iff_of_true rfl named
  next unnamed => exact iff_of_false nofun unnamed

theorem need_of_classifier {normalized : Bool}
    (classified : operand.property = .classifier normalized) (operator : Operator) :
    operand.need operator = .classifiers operand operator := by
  rw [Operand.need, classified]

theorem need_of_ne_classifier
    (single : ∀ normalized, operand.property ≠ .classifier normalized) (operator : Operator) :
    operand.need operator = .column operand := by
  unfold Operand.need
  split
  next normalized classified => exact absurd classified (single normalized)
  next => rfl

/-- An action succeeds if the store has all that is needed, and otherwise fails for the first
thing that it does not have. -/
def Decides (root : String) (action : Numbered α) (needs : List Need) : Prop :=
  ∀ count, match needs.findSome? (Need.refusal? root) with
    | none => ∃ value next, Answers action count value next
    | some capability => ∃ next, outcome action count = (.error (gap capability), next)

theorem decides_pure (value : α) : Decides root (pure value) [] :=
  fun count => ⟨value, count, answers_pure.mpr ⟨rfl, rfl⟩⟩

/-- A sequence needs what its parts do, in their order. -/
theorem decides_bind {first : Numbered α} {following : α → Numbered β} {needs others : List Need}
    (begins : Decides root first needs) (follows : ∀ value, Decides root (following value) others) :
    Decides root (first >>= following) (needs ++ others) := by
  intro count
  have decided := begins count
  rw [List.findSome?_append]
  cases refused : needs.findSome? (Need.refusal? root) with
  | some capability =>
      rw [refused] at decided
      obtain ⟨next, failed⟩ := decided
      exact ⟨next, by rw [outcome_bind, failed]⟩
  | none =>
      rw [refused] at decided
      obtain ⟨value, between, answered⟩ := decided
      have rest : outcome (first >>= following) count = outcome (following value) between := by
        rw [outcome_bind, answered]
      have ends := follows value between
      simp only [Answers] at ends ⊢
      rw [Option.none_or, rest]
      exact ends

theorem decides_map {action : Numbered α} {needs : List Need} (image : α → β)
    (decides : Decides root action needs) : Decides root (image <$> action) needs := by
  rw [← bind_pure_comp, ← List.append_nil needs]
  exact decides_bind decides fun value => decides_pure (image value)

theorem decides_column (operand : Operand) :
    Decides root (liftM (column operand)) [.column operand] := by
  intro count
  rw [List.findSome?_singleton, Need.refusal?, column]
  cases columnName? operand.selector.kind operand.property with
  | none => exact ⟨count, rfl⟩
  | some name => exact ⟨_, count, rfl⟩

/-- What is looked up in a sequence is looked up one after the other. -/
theorem liftM_bind (result : Except Error α) (following : α → Except Error β) :
    (liftM (result >>= following) : Numbered β) =
      liftM result >>= fun value => liftM (following value) := by
  cases result <;> rfl

theorem decides_joinColumns (condition : JoinCondition) :
    Decides root (liftM (joinColumns condition)) condition.needs := by
  cases condition with
  | equal left right =>
      rw [joinColumns, liftM_bind]
      apply decides_bind (decides_column left)
      intro first
      rw [liftM_bind]
      apply decides_bind (decides_column right)
      intro second
      exact decides_pure _
  | child lower upper =>
      intro count
      rw [JoinCondition.needs, List.findSome?_singleton, Need.refusal?, joinColumns]
      cases parentKey? lower.kind upper.kind with
      | none => exact ⟨count, rfl⟩
      | some key => exact ⟨_, count, rfl⟩

theorem decides_source (source : Source) :
    Decides root ((backend root).source source) source.needs := by
  induction source with
  | single selector => exact decides_pure _
  | join left right kind condition ih =>
      apply decides_bind ih
      intro rows
      apply decides_bind (decides_pure _)
      intro joined
      exact decides_map _ (decides_joinColumns condition)

theorem decides_comparison (operand : Operand) (operator : Operator) (value : Value) :
    Decides root (comparison operand operator value) [operand.need operator] := by
  unfold comparison
  split
  next normalized classified =>
      intro count
      rw [need_of_classifier classified, List.findSome?_singleton, Need.refusal?]
      by_cases equality : operator = .eq
      · rw [if_pos equality, if_pos equality]
        exact ⟨_, _, rfl⟩
      · rw [if_neg equality, if_neg equality]
        exact ⟨count, rfl⟩
  next single =>
      rw [need_of_ne_classifier single]
      exact decides_map _ (decides_column operand)

theorem decides_oneOf (operand : Operand) (values : List Value) :
    Decides root (liftM (oneOf operand values))
      [if values.isEmpty then .nothing operand else .column operand] := by
  unfold oneOf
  split
  · exact fun count => ⟨.never, count, rfl⟩
  · rw [liftM_bind]
    apply decides_bind (decides_column operand)
    intro place
    exact decides_pure _

theorem decides_existence {subquery : Subquery} {rows : Numbered Rows}
    {condition : Numbered (Option Condition)} {needs others : List Need}
    (joined : Decides root rows needs) (inner : Decides root condition others) :
    Decides root ((backend root).existence subquery rows condition)
      (needs ++ .column subquery.rows.correlated :: .column subquery.rows.outer :: others) := by
  apply decides_bind joined
  intro rows
  apply decides_bind (decides_column _)
  intro correlated
  apply decides_bind (decides_column _)
  intro outer
  exact decides_map _ inner

theorem decides_descendant (selector : Selector) (path : String) :
    Decides root (liftM (descendant root selector path)) [.liveness selector path] := by
  intro count
  rw [List.findSome?_singleton, Need.refusal?, descendant]
  by_cases live : selector.kind = .artifact ∧ path = root
  · rw [if_pos live, if_pos live]
    exact ⟨_, count, rfl⟩
  · rw [if_neg live, if_neg live]
    exact ⟨count, rfl⟩

/-- Two conditions need what each of them needs. -/
theorem decides_connected {first second : Numbered Condition} {needs others : List Need}
    (left : Decides root first needs) (right : Decides root second others)
    (connect : Condition → Condition → Condition) :
    Decides root (do
      let left ← first
      let right ← second
      return connect left right) (needs ++ others) := by
  apply decides_bind left
  intro left
  exact decides_map _ right

theorem decides_constraint (constraint : Constraint) :
    Decides root ((backend root).constraint constraint) constraint.needs := by
  induction constraint with
  | and left right leftIH rightIH => exact decides_connected leftIH rightIH .and
  | or left right leftIH rightIH => exact decides_connected leftIH rightIH .or
  | not inner ih => exact decides_map _ ih
  | comparison operand operator value => exact decides_comparison operand operator value
  | present operand => exact decides_map _ (decides_column operand)
  | oneOf operand values => exact decides_oneOf operand values
  | descendant selector path => exact decides_descendant selector path
  | existsRow rows => exact decides_existence (decides_source rows.source) (decides_pure none)
  | existsRowWith rows condition ih =>
      rw [Constraint.needs, Correlation.needs, List.append_assoc]
      exact decides_existence (decides_source rows.source) (decides_map some ih)

theorem decides_order (sorting : Option SortOrder) :
    Decides root (liftM (order sorting)) (sorting.toList.map (.column ·.operand)) := by
  cases sorting with
  | none => exact decides_pure none
  | some request =>
      rw [order, liftM_bind]
      apply decides_bind (decides_column request.operand)
      intro place
      exact decides_pure _

/-- A plan is stated if the store has all that it needs, and otherwise refused for the first
thing that the store does not have. -/
theorem decides_realize (plan : Plan) : Decides root ((backend root).realize plan) plan.needs := by
  rcases plan with ⟨source, constraint, result, ordering⟩
  rw [Plan.needs, List.append_assoc]
  apply decides_bind (decides_source source)
  intro rows
  have finishes (condition : Option Condition) :
      Decides root ((backend root).statement rows condition result ordering)
        (ordering.toList.map (.column ·.operand)) :=
    decides_map _ (decides_order ordering)
  cases constraint with
  | none => exact decides_bind (decides_pure none) finishes
  | some constraint =>
      exact decides_bind (decides_map some (decides_constraint constraint)) finishes

variable {plan : Plan}

theorem realize_of_refusal {capability : Capability}
    (refused : plan.needs.findSome? (Need.refusal? root) = some capability) (count : Nat) :
    ∃ next, realize root plan count = (.error (gap capability), next) := by
  have decided : Decides root ((backend root).realize plan) plan.needs := decides_realize plan
  have outcome := decided count
  rwa [refused] at outcome

theorem exists_realize_of_met (met : plan.needs.findSome? (Need.refusal? root) = none)
    (count : Nat) : ∃ statement next, realize root plan count = (.ok statement, next) := by
  have decided : Decides root ((backend root).realize plan) plan.needs := decides_realize plan
  have outcome := decided count
  rwa [met] at outcome

/-- Only what the store has is stated. -/
theorem met_of_realize {count next : Nat} {statement : Statement}
    (stated : realize root plan count = (.ok statement, next)) :
    plan.needs.findSome? (Need.refusal? root) = none := by
  cases refused : plan.needs.findSome? (Need.refusal? root) with
  | none => rfl
  | some capability =>
      rcases realize_of_refusal refused count with ⟨_, failed⟩
      cases stated.symm.trans failed

end Relational

end Sramp
