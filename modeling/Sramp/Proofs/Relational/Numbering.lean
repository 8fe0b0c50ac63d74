import Sramp.Proofs.Relational.Needs

/-!
# Numbers of look-ups

Every classifier look-up in a relational statement bears a number, the next one after those that
were given before.  Stating a plan looks at the number nowhere else: after more look-ups the
statement is the same with larger numbers, or the refusal is the same.  The numbers in one
statement follow each other without a gap, and there are as many as classifiers were compared,
also where the plan is refused half-way.
-/

namespace Sramp.Relational

namespace Condition

/-- The numbers of the look-ups in a condition, from left to right. -/
def lookUps : Condition → List Nat
  | .classified number _ _ _ => [number]
  | .existsRowWith _ _ _ inner | .not inner => inner.lookUps
  | .and left right | .or left right => left.lookUps ++ right.lookUps
  | .comparison .. | .present _ | .never | .oneOf .. | .live _ | .existsRow .. => []

/-- The condition with larger numbers. -/
def renumbered (shift : Nat) : Condition → Condition
  | .classified number normalized artifact classifier =>
      .classified (number + shift) normalized artifact classifier
  | .existsRowWith rows correlated outer inner =>
      .existsRowWith rows correlated outer (inner.renumbered shift)
  | .not inner => .not (inner.renumbered shift)
  | .and left right => .and (left.renumbered shift) (right.renumbered shift)
  | .or left right => .or (left.renumbered shift) (right.renumbered shift)
  | .comparison column operator value => .comparison column operator value
  | .present column => .present column
  | .never => .never
  | .oneOf column values => .oneOf column values
  | .live aliasName => .live aliasName
  | .existsRow rows correlated outer => .existsRow rows correlated outer

@[simp] theorem connective_renumbered (shift : Nat) (condition : Condition) :
    (condition.renumbered shift).connective = condition.connective := by
  cases condition <;> rfl

/-- Numbers are not among the values that a condition binds. -/
@[simp] theorem parameters_renumbered (shift : Nat) (condition : Condition) :
    (condition.renumbered shift).parameters = condition.parameters := by
  induction condition with
  | not inner ih => exact ih
  | existsRowWith rows correlated outer inner ih => exact ih
  | and left right leftIH rightIH | or left right leftIH rightIH =>
      simp only [renumbered, parameters, leftIH, rightIH]
  | comparison | present | never | oneOf | live | classified | existsRow => rfl

end Condition

namespace Statement

/-- The numbers of the look-ups in a statement. -/
def lookUps (statement : Statement) : List Nat :=
  (statement.condition.map Condition.lookUps).getD []

/-- The statement with larger numbers. -/
def renumbered (shift : Nat) (statement : Statement) : Statement :=
  { statement with condition := statement.condition.map (Condition.renumbered shift) }

@[simp] theorem parameters_renumbered (shift : Nat) (statement : Statement) :
    (statement.renumbered shift).parameters = statement.parameters := by
  rcases statement with ⟨result, rows, _ | condition, order⟩
  · rfl
  · exact condition.parameters_renumbered shift

end Statement

variable {α β γ δ : Type} {root : String} {shift : Nat}

/-- After `shift` more look-ups the second action answers what the first does, up to the given
change, and has the same number of look-ups. -/
def Shifted (shift : Nat) (change : α → β) (first : Numbered α) (second : Numbered β) : Prop :=
  ∀ count, outcome second (count + shift) =
    ((outcome first count).1.map change, (outcome first count).2 + shift)

theorem shifted_pure {change : α → β} (value : α) :
    Shifted shift change (pure value) (pure (change value)) :=
  fun _ => rfl

/-- What is no matter of look-ups is answered in the same way, if the answer has no numbers. -/
theorem shifted_lift_of_fixed {change : α → α} {result : Except Error α}
    (fixed : ∀ value, result = .ok value → change value = value) :
    Shifted shift change (liftM result) (liftM result) := by
  intro count
  cases result with
  | error cause => rfl
  | ok value =>
      change (Except.ok value, count + shift) = (Except.ok (change value), count + shift)
      rw [fixed value rfl]

theorem shifted_lift (result : Except Error α) :
    Shifted shift id (liftM result) (liftM result) :=
  shifted_lift_of_fixed fun _ _ => rfl

/-- Sequences are shifted if what follows is, for each value and the changed one. -/
theorem Shifted.bind {change : α → β} {result : γ → δ} {first : Numbered α} {second : Numbered β}
    {next : α → Numbered γ} {after : β → Numbered δ} (begins : Shifted shift change first second)
    (follows : ∀ value, Shifted shift result (next value) (after (change value))) :
    Shifted shift result (first >>= next) (second >>= after) := by
  intro count
  have begun := begins count
  rw [outcome_bind, outcome_bind, begun]
  cases outcome first count with
  | mk answer between =>
      cases answer with
      | error cause => rfl
      | ok value => exact follows value between

/-- Sequences that begin with the same action are shifted if that action is. -/
theorem Shifted.bind_same {result : γ → δ} {first : Numbered α} {next : α → Numbered γ}
    {after : α → Numbered δ} (begins : Shifted shift id first first)
    (follows : ∀ value, Shifted shift result (next value) (after value)) :
    Shifted shift result (first >>= next) (first >>= after) :=
  begins.bind follows

theorem Shifted.map {change : α → β} {result : γ → δ} {first : Numbered α} {second : Numbered β}
    {make : α → γ} {remake : β → δ} (begins : Shifted shift change first second)
    (commutes : ∀ value, remake (change value) = result (make value)) :
    Shifted shift result (make <$> first) (remake <$> second) := by
  rw [← bind_pure_comp, ← bind_pure_comp]
  apply begins.bind
  intro value
  rw [commutes]
  exact shifted_pure _

/-- Two conditions stated one after the other are shifted if both are. -/
theorem Shifted.connected {first second : Numbered Condition}
    {connect : Condition → Condition → Condition}
    (commutes : ∀ left right, connect (left.renumbered shift) (right.renumbered shift) =
      (connect left right).renumbered shift)
    (left : Shifted shift (Condition.renumbered shift) first first)
    (right : Shifted shift (Condition.renumbered shift) second second) :
    Shifted shift (Condition.renumbered shift)
      (do return connect (← first) (← second)) (do return connect (← first) (← second)) := by
  apply left.bind
  intro one
  exact right.map fun other => commutes one other

theorem shifted_source (source : Source) :
    Shifted shift id ((backend root).source source) ((backend root).source source) := by
  induction source with
  | single selector => exact shifted_pure _
  | join left right kind condition ih =>
      apply ih.bind_same
      intro rows
      apply (shifted_pure _).bind_same
      intro joined
      exact (shifted_lift _).map fun _ => rfl

/-- The next look-up bears the next number. -/
theorem shifted_number :
    Shifted shift (· + shift) (modifyGet fun count => (count + 1, count + 1))
      (modifyGet fun count => (count + 1, count + 1)) := by
  intro count
  have ahead : count + shift + 1 = count + 1 + shift := Nat.add_right_comm count shift 1
  change (Except.ok (count + shift + 1), count + shift + 1) =
    (Except.ok (count + 1 + shift), count + 1 + shift)
  rw [ahead]

theorem shifted_comparison (operand : Operand) (operator : Operator) (value : Value) :
    Shifted shift (Condition.renumbered shift) (comparison operand operator value)
      (comparison operand operator value) := by
  unfold comparison
  split
  next normalized classified =>
      split
      next =>
          apply shifted_number.bind
          intro number
          exact shifted_pure (Condition.classified number normalized _ value)
      next => exact fun _ => rfl
  next =>
      apply (shifted_lift _).bind_same
      intro place
      exact shifted_pure (Condition.comparison place operator value)

theorem renumbered_of_oneOf {operand : Operand} {values : List Value} {condition : Condition}
    (stated : oneOf operand values = .ok condition) : condition.renumbered shift = condition := by
  rw [oneOf] at stated
  split at stated
  next =>
      cases stated
      rfl
  next =>
      obtain ⟨place, -, made⟩ := Compile.exceptBind_eq_ok.mp stated
      cases made
      rfl

theorem shifted_existence {subquery : Subquery} {rows : Numbered Rows}
    {condition : Numbered (Option Condition)} (joined : Shifted shift id rows rows)
    (inner : Shifted shift (Option.map (Condition.renumbered shift)) condition condition) :
    Shifted shift (Condition.renumbered shift) ((backend root).existence subquery rows condition)
      ((backend root).existence subquery rows condition) := by
  apply joined.bind_same
  intro rows
  apply (shifted_lift _).bind_same
  intro correlated
  apply (shifted_lift _).bind_same
  intro outer
  apply inner.map
  intro stated
  cases stated <;> rfl

/-- After more look-ups a constraint is stated as the same condition with larger numbers. -/
theorem shifted_constraint (constraint : Constraint) :
    Shifted shift (Condition.renumbered shift) ((backend root).constraint constraint)
      ((backend root).constraint constraint) := by
  induction constraint with
  | and left right leftIH rightIH => exact leftIH.connected (fun _ _ => rfl) rightIH
  | or left right leftIH rightIH => exact leftIH.connected (fun _ _ => rfl) rightIH
  | not inner ih => exact ih.map fun _ => rfl
  | comparison operand operator value => exact shifted_comparison operand operator value
  | present operand =>
      apply (shifted_lift _).bind_same
      intro place
      exact shifted_pure (Condition.present place)
  | oneOf operand values => exact shifted_lift_of_fixed fun _ => renumbered_of_oneOf
  | descendant selector path =>
      apply shifted_lift_of_fixed
      intro condition stated
      rw [formula_of_descendant stated]
      rfl
  | existsRow rows => exact shifted_existence (shifted_source rows.source) (shifted_pure none)
  | existsRowWith rows condition ih =>
      exact shifted_existence (shifted_source rows.source) (ih.map fun _ => rfl)

/-- After more look-ups a plan is stated as the same statement with larger numbers, or refused
with the same error. -/
theorem shifted_realize (plan : Plan) :
    Shifted shift (Statement.renumbered shift) ((backend root).realize plan)
      ((backend root).realize plan) := by
  rcases plan with ⟨source, constraint, result, ordering⟩
  have finishes (rows : Rows) (condition : Option Condition) :
      Shifted shift (Statement.renumbered shift)
        ((backend root).statement rows condition result ordering)
        ((backend root).statement rows (condition.map (Condition.renumbered shift)) result
          ordering) :=
    (shifted_lift _).map fun _ => rfl
  apply (shifted_source source).bind_same
  intro rows
  cases constraint with
  | none =>
      have absent : Shifted shift (Option.map (Condition.renumbered shift)) (pure none)
          (pure none) := shifted_pure none
      exact absent.bind (finishes rows)
  | some constraint =>
      have inside : Shifted shift (Option.map (Condition.renumbered shift))
          (some <$> (backend root).constraint constraint)
          (some <$> (backend root).constraint constraint) :=
        (shifted_constraint constraint).map fun _ => rfl
      exact inside.bind (finishes rows)

theorem realize_add (plan : Plan) (count : Nat) :
    realize root plan (count + shift) =
      ((realize root plan count).1.map (Statement.renumbered shift),
        (realize root plan count).2 + shift) :=
  shifted_realize plan count

/-! ## Numbers that are given -/

/-- Whether something is taken from the store by a look-up. -/
def Need.isLookUp : Need → Bool
  | .classifiers .. => true
  | .column _ | .nothing _ | .key .. | .liveness .. => false

/-- The number of classifier comparisons that are stated: those before the first thing that the
store does not have. -/
def lookUpCount (root : String) (needs : List Need) : Nat :=
  (needs.takeWhile fun need => (need.refusal? root).isNone).countP Need.isLookUp

/-- Whether it succeeds or fails, an action carries out the look-ups before the first thing that
the store does not have. -/
def Counts (root : String) (action : Numbered α) (needs : List Need) : Prop :=
  ∀ count, (outcome action count).2 = count + lookUpCount root needs

theorem lookUpCount_append_of_met {needs : List Need}
    (met : needs.findSome? (Need.refusal? root) = none) (others : List Need) :
    lookUpCount root (needs ++ others) = lookUpCount root needs + lookUpCount root others := by
  have each : ∀ need ∈ needs, (need.refusal? root).isNone = true := by
    intro need member
    exact Option.isNone_iff_eq_none.mpr (List.findSome?_eq_none_iff.mp met need member)
  have whole := @List.takeWhile_append_of_pos _ _ _ [] each
  rw [List.takeWhile_nil, List.append_nil] at whole
  rw [lookUpCount, List.takeWhile_append_of_pos each, List.countP_append, lookUpCount, whole,
    lookUpCount]

theorem lookUpCount_append_of_refused {needs : List Need} {capability : Capability}
    (refused : needs.findSome? (Need.refusal? root) = some capability) (others : List Need) :
    lookUpCount root (needs ++ others) = lookUpCount root needs := by
  obtain ⟨before, need, after, rfl, here, met⟩ := List.findSome?_eq_some_iff.mp refused
  have each : ∀ need ∈ before, (need.refusal? root).isNone = true := by
    intro need member
    exact Option.isNone_iff_eq_none.mpr (met need member)
  have stops : ¬(need.refusal? root).isNone = true := by simp [here]
  simp only [lookUpCount, List.append_assoc, List.cons_append, List.takeWhile_append_of_pos each,
    List.takeWhile_cons, if_neg stops]

theorem counts_pure (value : α) : Counts root (pure value) [] :=
  fun _ => rfl

/-- Needs that are no look-ups are not counted. -/
theorem counts_lift {needs : List Need} (plain : ∀ need ∈ needs, need.isLookUp = false)
    (result : Except Error α) : Counts root (liftM result) needs := by
  intro count
  have none : lookUpCount root needs = 0 := by
    rw [lookUpCount, List.countP_eq_zero]
    intro need member
    rw [plain need ((List.takeWhile_subset _) member)]
    exact Bool.false_ne_true
  rw [none]
  rfl

/-- A sequence carries out the look-ups of what follows only if it comes to that. -/
theorem counts_bind {first : Numbered α} {following : α → Numbered β} {needs others : List Need}
    (decides : Decides root first needs) (begins : Counts root first needs)
    (follows : ∀ value, Counts root (following value) others) :
    Counts root (first >>= following) (needs ++ others) := by
  intro count
  have decided := decides count
  have counted := begins count
  rw [outcome_bind]
  cases refused : needs.findSome? (Need.refusal? root) with
  | some capability =>
      rw [refused] at decided
      obtain ⟨next, failed⟩ := decided
      rw [failed] at counted ⊢
      rw [lookUpCount_append_of_refused refused]
      exact counted
  | none =>
      rw [refused] at decided
      obtain ⟨value, between, answered⟩ := decided
      rw [answered] at counted ⊢
      rw [lookUpCount_append_of_met refused, ← Nat.add_assoc, ← counted]
      exact follows value between

theorem counts_map {action : Numbered α} {needs : List Need} (image : α → β)
    (decides : Decides root action needs) (counts : Counts root action needs) :
    Counts root (image <$> action) needs := by
  rw [← bind_pure_comp, ← List.append_nil needs]
  exact counts_bind decides counts fun value => counts_pure (image value)

theorem counts_source (source : Source) :
    Counts root ((backend root).source source) source.needs := by
  induction source with
  | single selector => exact counts_pure _
  | join left right kind condition ih =>
      have plain : ∀ need ∈ condition.needs, need.isLookUp = false := by
        cases condition <;> simp [JoinCondition.needs, Need.isLookUp]
      apply counts_bind (decides_source left) ih
      intro rows
      apply counts_bind (decides_pure _) (counts_pure _)
      intro joined
      exact counts_map _ (decides_joinColumns condition) (counts_lift plain _)

theorem counts_column (operand : Operand) :
    Counts root (liftM (column operand)) [.column operand] :=
  counts_lift (by simp [Need.isLookUp]) _

theorem counts_comparison (operand : Operand) (operator : Operator) (value : Value) :
    Counts root (comparison operand operator value) [operand.need operator] := by
  unfold comparison
  split
  next normalized classified =>
      intro count
      rw [need_of_classifier classified]
      by_cases equality : operator = .eq
      · rw [if_pos equality, equality]
        rfl
      · have refused : (Need.classifiers operand operator).refusal? root =
            some (.classifierComparison operator) := if_neg equality
        rw [if_neg equality, lookUpCount, List.takeWhile_cons, refused]
        rfl
  next single =>
      rw [need_of_ne_classifier single]
      exact counts_map _ (decides_column operand) (counts_column operand)

theorem counts_existence {subquery : Subquery} {rows : Numbered Rows}
    {condition : Numbered (Option Condition)} {needs others : List Need}
    (met : Decides root rows needs) (joined : Counts root rows needs)
    (decides : Decides root condition others) (inner : Counts root condition others) :
    Counts root ((backend root).existence subquery rows condition)
      (needs ++ .column subquery.rows.correlated :: .column subquery.rows.outer :: others) := by
  apply counts_bind met joined
  intro rows
  apply counts_bind (decides_column _) (counts_column _)
  intro correlated
  apply counts_bind (decides_column _) (counts_column _)
  intro outer
  exact counts_map _ decides inner

theorem counts_connected {first second : Constraint}
    (left : Counts root ((backend root).constraint first) first.needs)
    (right : Counts root ((backend root).constraint second) second.needs)
    (connect : Condition → Condition → Condition) :
    Counts root (do
      let left ← (backend root).constraint first
      let right ← (backend root).constraint second
      return connect left right) (first.needs ++ second.needs) := by
  apply counts_bind (decides_constraint first) left
  intro left
  exact counts_map _ (decides_constraint second) right

theorem counts_constraint (constraint : Constraint) :
    Counts root ((backend root).constraint constraint) constraint.needs := by
  induction constraint with
  | and left right leftIH rightIH => exact counts_connected leftIH rightIH .and
  | or left right leftIH rightIH => exact counts_connected leftIH rightIH .or
  | not inner ih => exact counts_map _ (decides_constraint inner) ih
  | comparison operand operator value => exact counts_comparison operand operator value
  | present operand => exact counts_map _ (decides_column operand) (counts_column operand)
  | oneOf operand values =>
      apply counts_lift
      simp only [Constraint.needs, List.mem_singleton, forall_eq]
      split <;> rfl
  | descendant selector path => exact counts_lift (by simp [Constraint.needs, Need.isLookUp]) _
  | existsRow rows =>
      exact counts_existence (decides_source rows.source) (counts_source rows.source)
        (decides_pure none) (counts_pure none)
  | existsRowWith rows condition ih =>
      rw [Constraint.needs, Correlation.needs, List.append_assoc]
      exact counts_existence (decides_source rows.source) (counts_source rows.source)
        (decides_map some (decides_constraint condition))
        (counts_map some (decides_constraint condition) ih)

/-- Stating a plan gives as many numbers as classifiers were compared, also if it fails. -/
theorem counts_realize (plan : Plan) : Counts root ((backend root).realize plan) plan.needs := by
  rcases plan with ⟨source, constraint, result, ordering⟩
  have finishes {rows : Rows} {condition : Option Condition} :
      Counts root ((backend root).statement rows condition result ordering)
        (ordering.toList.map (.column ·.operand)) := by
    apply counts_map _ (decides_order ordering)
    apply counts_lift
    simp [Need.isLookUp]
  rw [Plan.needs, List.append_assoc]
  apply counts_bind (decides_source source) (counts_source source)
  intro rows
  cases constraint with
  | none => exact counts_bind (decides_pure none) (counts_pure none) fun _ => finishes
  | some constraint =>
      exact counts_bind (decides_map some (decides_constraint constraint))
        (counts_map some (decides_constraint constraint) (counts_constraint constraint))
        fun _ => finishes

/-- All the numbers after one count up to another, in their order. -/
def Given (count next : Nat) (numbers : List Nat) : Prop :=
  ∃ given, next = count + given ∧ numbers = List.range' (count + 1) given

theorem Given.none (count : Nat) : Given count count [] :=
  ⟨0, rfl, rfl⟩

theorem Given.append {count between next : Nat} {numbers others : List Nat}
    (first : Given count between numbers) (second : Given between next others) :
    Given count next (numbers ++ others) := by
  obtain ⟨given, rfl, rfl⟩ := first
  obtain ⟨more, rfl, rfl⟩ := second
  refine ⟨given + more, Nat.add_assoc count given more, ?_⟩
  rw [Nat.add_right_comm count given 1, List.range'_append_1]

variable {count next : Nat} {condition : Condition}

theorem given_of_comparison {operand : Operand} {operator : Operator} {value : Value}
    (answered : Answers (comparison operand operator value) count condition next) :
    Given count next condition.lookUps := by
  rw [comparison] at answered
  split at answered
  next =>
      split at answered
      next =>
          cases answered
          exact ⟨1, rfl, rfl⟩
      next => exact absurd answered not_answers_throw
  next =>
      simp only [bind_pure_comp, answers_map, answers_lift] at answered
      obtain ⟨place, ⟨-, rfl⟩, rfl⟩ := answered
      exact .none next

theorem lookUps_of_oneOf {operand : Operand} {values : List Value}
    (stated : oneOf operand values = .ok condition) : condition.lookUps = [] := by
  rw [oneOf] at stated
  split at stated
  next =>
      cases stated
      rfl
  next =>
      obtain ⟨place, -, made⟩ := Compile.exceptBind_eq_ok.mp stated
      cases made
      rfl

/-- Stating a source gives no numbers. -/
theorem next_of_source {source : Source} {rows : Rows}
    (answered : Answers ((backend root).source source) count rows next) : next = count := by
  induction source generalizing rows with
  | single selector => exact (answers_pure.mp answered).2
  | join left right kind condition ih =>
      obtain ⟨before, leftRun, -⟩ := answers_join.mp answered
      exact ih leftRun

/-- The numbers in a condition are those given while it was stated, in their order. -/
theorem given_of_answers (constraint : Constraint)
    (answered : Answers ((backend root).constraint constraint) count condition next) :
    Given count next condition.lookUps := by
  induction constraint generalizing count condition next with
  | and left right leftIH rightIH =>
      obtain ⟨first, between, second, leftRun, rightRun, rfl⟩ := answers_and.mp answered
      exact (leftIH leftRun).append (rightIH rightRun)
  | or left right leftIH rightIH =>
      obtain ⟨first, between, second, leftRun, rightRun, rfl⟩ := answers_or.mp answered
      exact (leftIH leftRun).append (rightIH rightRun)
  | not inner ih =>
      obtain ⟨negated, run, rfl⟩ := answers_not.mp answered
      rw [Condition.lookUps]
      exact ih run
  | comparison operand operator value => exact given_of_comparison answered
  | present operand =>
      simp only [Backend.constraint, backend, bind_pure_comp, answers_map, answers_lift]
        at answered
      obtain ⟨place, ⟨-, rfl⟩, rfl⟩ := answered
      exact .none next
  | oneOf operand values =>
      obtain ⟨stated, rfl⟩ := answers_lift.mp answered
      rw [lookUps_of_oneOf stated]
      exact .none next
  | descendant selector path =>
      obtain ⟨stated, rfl⟩ := answers_lift.mp answered
      rw [formula_of_descendant stated]
      exact .none next
  | existsRow rows =>
      obtain ⟨joined, first, rowsRun, correlated, -, outer, -, stated, run, rfl⟩ :=
        answers_existence.mp answered
      obtain ⟨rfl, rfl⟩ := answers_pure.mp run
      rw [next_of_source rowsRun]
      exact .none count
  | existsRowWith rows inner ih =>
      obtain ⟨joined, first, rowsRun, correlated, -, outer, -, stated, run, rfl⟩ :=
        answers_existence.mp answered
      obtain ⟨condition, innerRun, rfl⟩ := answers_map.mp run
      rw [next_of_source rowsRun] at innerRun
      rw [existence, Condition.lookUps]
      exact ih innerRun

theorem given_of_realize {plan : Plan} {statement : Statement}
    (stated : realize root plan count = (.ok statement, next)) :
    Given count next statement.lookUps := by
  obtain ⟨rows, first, condition, ordered, rowsRun, run, -, rfl⟩ := answers_realize.mp stated
  rw [next_of_source rowsRun] at run
  cases constrained : plan.constraint with
  | none =>
      rw [constrained] at run
      obtain ⟨rfl, rfl⟩ := answers_pure.mp run
      exact .none next
  | some constraint =>
      rw [constrained] at run
      obtain ⟨condition, answered, rfl⟩ := answers_map.mp run
      exact given_of_answers constraint answered

end Sramp.Relational
