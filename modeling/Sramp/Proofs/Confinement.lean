import Sramp.Proofs.Compile.Scoping
import Sramp.Proofs.Hierarchical.Reading
import Sramp.Proofs.Relational.Reading

/-!
# The trash cannot be reached

A compiled plan asks last that the root, and the results if they lie elsewhere, are
not in the trash, and nothing else in it asks where a node is stored.  In the
conditions of both stores these tests are conjuncts: whatever the other tests say, a
row is found only if they hold.
-/

namespace Sramp

open Boolean Compile

namespace Constraint

/-- A constraint asks nowhere, in no subquery either, where a node is stored. -/
def Unlocated : Constraint → Prop
  | .and left right | .or left right => left.Unlocated ∧ right.Unlocated
  | .not inner => inner.Unlocated
  | .existsRowWith _ condition => condition.Unlocated
  | .descendant .. => False
  | .comparison .. | .present _ | .oneOf .. | .existsRow _ => True

end Constraint

namespace Compile

variable {env : Environment} {scope : Scope} {nested : Bool} {start finish : Aliases}
variable {constraint : Constraint}

theorem Tests.unlocated {tested : Tested} (tests : Tests env tested constraint) :
    constraint.Unlocated := by
  cases tested with
  | direct operand => cases tests <;> exact trivial
  | entries found =>
      cases tests with
      | present => exact trivial
      | compared => exact ⟨trivial, trivial⟩
      | matched => exact ⟨trivial, trivial⟩

/-- Predicates cannot ask where a node is stored. -/
theorem Built.unlocated (built : Built env scope nested start constraint finish) :
    constraint.Unlocated := by
  induction built with
  | test _ tests => exact tests.unlocated
  | classifier | hits | documents | relationships => exact trivial
  | and _ _ leftIH rightIH => exact ⟨leftIH, rightIH⟩
  | or _ _ leftIH rightIH => exact ⟨leftIH, rightIH⟩
  | not _ ih => exact ih
  | documentsWith _ _ _ ih => exact ih
  | relationshipsWith _ _ _ _ _ ih => exact ⟨trivial, ih⟩

/-- Location paths do not ask for it either. -/
theorem pathTests_unlocated {root : Selector} {path : Query.LocationPath} :
    ∀ test ∈ pathTests env root path, test.Unlocated := by
  intro test member
  rcases equals_of_pathTests member with ⟨property, value, same⟩
  subst same
  exact trivial

/-- No test of the outermost level asks where a node is stored. -/
theorem unlocated_of_level {root : Selector} {query : Query} {level : Level}
    (run : Yields (Compile.level env root query) start level finish) :
    ∀ test ∈ level.tests, test.Unlocated := by
  apply level_invariant (fun level _ => ∀ test ∈ level.tests, test.Unlocated) run
  · intro test member
    exact pathTests_unlocated test (by simpa [Level.ofRoot, Level.add] using member)
  · intro current _ _ _ built holds test member
    rcases List.mem_append.mp member with earlier | added
    · exact holds test earlier
    · cases List.mem_singleton.mp added
      exact built.unlocated
  · intro current _ _ _ _ holds
    exact holds
  · intro current _ _ _ _ _ _ _ _ _ _ holds test member
    rcases List.mem_append.mp member with earlier | added
    · exact holds test earlier
    · cases List.mem_singleton.mp added
      exact trivial

/-- The results lie elsewhere than the root exactly if a step leads away from it. -/
theorem column_of_traversed {settings : Settings} {root column : Selector}
    {set : Option Query.SubartifactSet} {source : Source}
    (traversed : Traversed settings root set source column)
    (distinct : (source.selectors.map Selector.aliasName).Nodup) :
    column = root ↔ set = none := by
  cases traversed with
  | stays => simp
  | derived =>
      simp only [reduceCtorEq, iff_false]
      intro same
      subst same
      simp at distinct
  | related =>
      simp only [reduceCtorEq, iff_false]
      intro same
      subst same
      simp at distinct

end Compile

/-- The test with which the plan of a query ends: the root is not in the trash, and
neither are the results if a step leads to them. -/
def Query.trashTest (settings : Settings) (query : Query) (plan : Plan) : Constraint :=
  match query.subartifacts with
  | none => .descendant plan.source.root settings.artifactRoot
  | some _ =>
      .and (.descendant plan.source.root settings.artifactRoot)
        (.descendant plan.column settings.artifactRoot)

/-- A plan asks where nodes are stored in one test only, at its end. -/
inductive Plan.EndsWith (plan : Plan) (trash : Constraint) : Prop where
  | alone : plan.constraint = some trash → plan.EndsWith trash
  | after {body : Constraint} :
      plan.constraint = some (.and body trash) → body.Unlocated → plan.EndsWith trash

section Plans

variable {env : Environment} {query : Query} {order : Option OrderBy} {plan : Plan}

/-- The results of a plan lie elsewhere than its root exactly if a step leads away. -/
theorem column_eq_root_iff (compiled : query.plan env order = .ok plan) :
    plan.column = plan.source.root ↔ query.subartifacts = none := by
  rcases plan_eq_ok_iff.mp compiled with ⟨-, level, finish, sorting, run, -, rfl⟩
  have traversed := traversed_of_level run
  have allocates := (wellScoped_of_level (yields_fresh.mpr ⟨rfl, rfl⟩) run).allocates
  have distinct := (List.nodup_append.mp (List.map_append ▸ allocates.distinct)).1
  have moved := column_of_traversed traversed distinct
  rw [← traversed.root_eq] at moved
  exact moved

/-- A compiled plan ends with the test for the trash. -/
theorem endsWith_trashTest (compiled : query.plan env order = .ok plan) :
    plan.EndsWith (query.trashTest env.settings plan) := by
  have moved := column_eq_root_iff compiled
  rcases plan_eq_ok_iff.mp compiled with ⟨-, level, finish, sorting, run, -, rfl⟩
  have root := (traversed_of_level run).root_eq
  have live : liveTest env.settings (Aliases.next {} .artifact) level.scope.artifact =
      query.trashTest env.settings (level.plan env.settings (Aliases.next {} .artifact)
        sorting) := by
    have moved' : level.scope.artifact = Aliases.next {} .artifact ↔
        query.subartifacts = none := root ▸ moved
    simp only [liveTest, Query.trashTest, Level.plan, root]
    cases steps : query.subartifacts with
    | none => rw [if_pos (moved'.mpr steps)]
    | some step => rw [if_neg (fun stays => by simp [moved'.mp stays] at steps)]
  cases made : Constraint.all level.tests with
  | none =>
      apply Plan.EndsWith.alone
      rw [← live]
      simp [Level.plan, made]
  | some body =>
      refine .after ?_ (Constraint.joinAll_closed ?_ (unlocated_of_level run) made)
      · rw [← live]
        simp [Level.plan, made]
      · exact fun _ _ left right => ⟨left, right⟩

/-- The constraint of a compiled plan demands that neither the root nor the results
are in the trash. -/
theorem demands_of_plan (compiled : query.plan env order = .ok plan) :
    ∃ constraint, plan.constraint = some constraint ∧
      ∀ selector, selector = plan.source.root ∨ selector = plan.column →
        constraint.formula.Demands
          (.test (.descendant selector env.settings.artifactRoot)) := by
  have tested : ∀ selector, selector = plan.source.root ∨ selector = plan.column →
      (query.trashTest env.settings plan).formula.Demands
        (.test (.descendant selector env.settings.artifactRoot)) := by
    have moved := column_eq_root_iff compiled
    intro selector either
    rw [Query.trashTest]
    cases steps : query.subartifacts with
    | none =>
        rw [moved.mpr steps, or_self] at either
        subst either
        exact Formula.demands_atom _
    | some step =>
        rcases either with rfl | rfl
        · exact (Formula.demands_atom _).and_left
        · exact (Formula.demands_atom _).and_right
  cases endsWith_trashTest compiled with
  | alone whole => exact ⟨_, whole, tested⟩
  | after whole _ => exact ⟨_, whole, fun selector either => (tested selector either).and_right⟩

end Plans

/-- The condition of a relational statement is what the constraint of its plan is
stated as. -/
theorem Relational.condition_of_realize {root : String} {plan : Plan} {count next : Nat}
    {statement : Relational.Statement} {constraint : Constraint}
    (realized : Relational.realize root plan count = (.ok statement, next))
    (constrained : plan.constraint = some constraint) :
    ∃ condition begun ended, statement.condition = some condition ∧
      Relational.Answers ((Relational.backend root).constraint constraint) begun condition
        ended := by
  rcases Relational.answers_realize.mp realized with
    ⟨rows, begun, condition, ordered, -, answered, -, rfl⟩
  rw [constrained] at answered
  rcases Relational.answers_map.mp answered with ⟨condition, stated, rfl⟩
  exact ⟨condition, begun, next, rfl, stated⟩

/-- The condition of a hierarchical statement is what the constraint of its plan is
stated as. -/
theorem Hierarchical.condition_of_realize {plan : Plan} {statement : Hierarchical.Statement}
    {constraint : Constraint} (realized : Hierarchical.realize plan = .ok statement)
    (constrained : plan.constraint = some constraint) :
    ∃ condition, statement.condition = some condition ∧
      Hierarchical.backend.constraint constraint = .ok condition := by
  rcases Hierarchical.realize_eq_ok.mp realized with
    ⟨rows, condition, ordered, -, answered, -, rfl⟩
  rw [constrained] at answered
  rcases exceptMap_eq_ok.mp answered with ⟨condition, stated, rfl⟩
  exact ⟨condition, rfl, stated⟩

/-- A test for the trash that a constraint demands is demanded by the relational
condition, however that is read. -/
theorem Relational.demands_of_spells {root path : String} {condition : Relational.Condition}
    {tokens : List Token} {constraint : Constraint} {selector : Selector}
    (spells : condition.Spells root tokens constraint)
    (demands : constraint.formula.Demands (.test (.descendant selector path)))
    {read : Formula String} (reads : Reads .alternatives tokens read) :
    read.Demands (selector.aliasName ++ ".trashed = FALSE") := by
  rcases spells with ⟨-, texts, said, related⟩
  rcases said.demands related demands with ⟨text, stated, needed⟩
  cases stated with
  | test _ answered =>
      obtain rfl := Relational.formula_of_descendant (Relational.answers_lift.mp answered).1
      exact needed read reads

/-- A test for the trash that a constraint demands is demanded by the hierarchical
condition, however that is read. -/
theorem Hierarchical.demands_of_spells {path : String} {condition : Hierarchical.Condition}
    {tokens : List Token} {constraint : Constraint} {selector : Selector}
    (spells : condition.Spells tokens constraint)
    (demands : constraint.formula.Demands (.test (.descendant selector path)))
    {read : Formula String} (reads : Reads .alternatives tokens read) :
    read.Demands
      ("ISDESCENDANTNODE(" ++ selector.aliasName ++ ", " ++ Text.quoted path ++ ")") := by
  rcases spells with ⟨-, texts, said, related⟩
  rcases said.demands related demands with ⟨text, stated, needed⟩
  cases stated with
  | test _ stated =>
      cases stated
      exact needed read reads

/-- The trash cannot be reached: a compiled plan ends with the test for it, the rest
asks nowhere where a node is stored, and the conditions of both stores demand, however
they are read, that neither the root nor the results are in the trash. -/
theorem Query.plan_confined {env : Environment} {query : Query} {order : Option OrderBy}
    {plan : Plan} (compiled : query.plan env order = .ok plan) :
    plan.EndsWith (query.trashTest env.settings plan) ∧
    (plan.column = plan.source.root ↔ query.subartifacts = none) ∧
    (∀ root count next statement,
      Relational.realize root plan count = (.ok statement, next) →
      ∃ constraint condition tokens, plan.constraint = some constraint ∧
        statement.condition = some condition ∧ condition.Spells root tokens constraint ∧
        ∀ read, Reads .alternatives tokens read →
          read.Demands (plan.source.root.aliasName ++ ".trashed = FALSE") ∧
          read.Demands (plan.column.aliasName ++ ".trashed = FALSE")) ∧
    (∀ statement, Hierarchical.realize plan = .ok statement →
      ∃ constraint condition tokens, plan.constraint = some constraint ∧
        statement.condition = some condition ∧ condition.Spells tokens constraint ∧
        ∀ read, Reads .alternatives tokens read →
          read.Demands ("ISDESCENDANTNODE(" ++ plan.source.root.aliasName ++ ", " ++
            Text.quoted env.settings.artifactRoot ++ ")") ∧
          read.Demands ("ISDESCENDANTNODE(" ++ plan.column.aliasName ++ ", " ++
            Text.quoted env.settings.artifactRoot ++ ")")) := by
  rcases demands_of_plan compiled with ⟨constraint, constrained, demands⟩
  have root := demands plan.source.root (.inl rfl)
  have column := demands plan.column (.inr rfl)
  refine ⟨endsWith_trashTest compiled, column_eq_root_iff compiled, ?_, ?_⟩
  · intro storeRoot count next statement realized
    rcases Relational.condition_of_realize realized constrained with
      ⟨condition, _, _, whole, answered⟩
    rcases Relational.spells_of_answers answered with ⟨tokens, spells⟩
    refine ⟨constraint, condition, tokens, constrained, whole, spells, ?_⟩
    intro read reads
    exact ⟨Relational.demands_of_spells spells root reads,
      Relational.demands_of_spells spells column reads⟩
  · intro statement realized
    rcases Hierarchical.condition_of_realize realized constrained with ⟨condition, whole, stated⟩
    rcases Hierarchical.spells_of_eq_ok stated with ⟨tokens, spells⟩
    refine ⟨constraint, condition, tokens, constrained, whole, spells, ?_⟩
    intro read reads
    exact ⟨Hierarchical.demands_of_spells spells root reads,
      Hierarchical.demands_of_spells spells column reads⟩

theorem Query.plan_confined_of_sample :
    ∃ plan statement, sampleQuery.plan .bare none = .ok plan ∧
      Hierarchical.realize plan = .ok statement ∧
      ∃ condition tokens, statement.condition = some condition ∧
        textOf tokens = condition.text ∧
        ∀ read, Reads .alternatives tokens read →
          read.Demands ("ISDESCENDANTNODE(" ++ plan.column.aliasName ++ ", " ++
            Text.quoted "/s-ramp" ++ ")") := by
  have succeeds :
      (sampleQuery.plan .bare none >>= Hierarchical.realize).toOption.isSome = true := by
    decide +kernel
  rcases exists_ok_bind_of_isSome succeeds with ⟨plan, statement, compiled, realized⟩
  rcases (Query.plan_confined compiled).2.2.2 statement realized with
    ⟨_, condition, tokens, -, whole, ⟨spelled, -⟩, demands⟩
  exact ⟨plan, statement, compiled, realized, condition, tokens, whole, spelled,
    fun read reads => (demands read reads).2⟩

end Sramp
