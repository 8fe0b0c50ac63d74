import Sramp.Proofs.Compile.Scoping
import Sramp.Proofs.Walk.Agreement

/-!
# The states of a walk

A walk over a query starts in the frame of the root, opens frames for the parts of expressions,
and moves the frame of the root to the artifacts of the step after the artifact set.  Whenever
it comes to visit an expression, no test is at hand, and the selectors of the innermost frame
bear aliases given before.
-/

namespace Sramp.Compile

open Query

variable {env : Environment} {walk after : Walk} {start finish : Aliases}

namespace Walk

/-- The walk in the predicate of a step that leads to a scope. -/
def enter (walk : Walk) (scope : Scope) : Walk :=
  { walk with depth := walk.depth + 1 }.push (.ofScope scope)

/-- The outermost level that a walk has reached. -/
def level (walk : Walk) : Level :=
  ⟨walk.source, walk.scope, walk.top.constraints⟩

/-- The states in which a walk visits expressions. -/
inductive Reachable (env : Environment) : Walk → Prop where
  | start (path : LocationPath) :
      Reachable env (Walk.start.collect (pathTests env Walk.start.root path))
  | visited {walk after : Walk} (expr : Expr) :
      Reachable env walk → expr.visit env walk = .ok ((), after) → Reachable env after
  | isolated {walk : Walk} : Reachable env walk → Reachable env walk.isolated
  | documents {walk : Walk} {relationshipType : String} {document : Selector}
      {aliases : Aliases} :
      Reachable env walk → walk.depth = 0 → env.settings.isDerived relationshipType = true →
      Yields (fresh .artifact) walk.aliases document aliases →
      Reachable env ((walk.withAliases aliases).enter ⟨document, none⟩)
  | relationships {walk : Walk} {relationshipType : String} {relationship target far : Selector}
      {first second aliases : Aliases} :
      Reachable env walk → walk.depth = 0 → env.settings.isDerived relationshipType = false →
      Yields (fresh .relationship) walk.aliases relationship first →
      Yields (fresh .target) first target second →
      Yields (fresh .artifact) second far aliases →
      Reachable env ((walk.withAliases aliases).enter ⟨far, some ⟨relationship, target⟩⟩)
  | traversed {walk after : Walk} {relationshipType : String} :
      Reachable env walk → walk.depth = 0 → walk.stack.scopes = [] →
      Visit.traverse env relationshipType walk = .ok ((), after) → Reachable env after

/-- A walk with all scopes above the outermost level closed has reached nothing but that
level. -/
theorem ofLevel_level (ready : walk.Ready) (outermost : walk.stack.scopes = [])
    (flat : walk.depth = 0) : (Walk.ofLevel walk.level walk).2 = walk := by
  obtain ⟨aliases, ⟨⟨artifact, relationship, target, constraints, tested, value⟩, scopes⟩, source,
    root, depth⟩ := walk
  have untested := ready.tested
  have unvalued := ready.value
  have edge := ready.edge
  cases outermost
  cases flat
  cases untested
  cases unvalued
  cases relationship <;> cases target <;> first | rfl | cases edge

end Walk

/-- A traversal reaches the level that is compiled, and gives the same aliases. -/
theorem ofLevel_of_traverse {relationshipType : String} (ready : walk.Ready)
    (outermost : walk.stack.scopes = []) (flat : walk.depth = 0)
    (done : Visit.traverse env relationshipType walk = .ok ((), after)) :
    ∃ level aliases, Yields (traverse env walk.level relationshipType) walk.aliases level aliases ∧
      after = (Walk.ofLevel level (walk.withAliases aliases)).2 := by
  rw [← Walk.ofLevel_level ready outermost flat, traverse_eq, Walk.follow_eq_ok_iff] at done
  obtain ⟨level, aliases, run, same⟩ := done
  exact ⟨level, aliases, run, (congrArg Prod.snd same).symm⟩

/-- A walk comes to no expression with a test at hand. -/
theorem Walk.Reachable.ready (valid : env.settings.Valid) (reachable : walk.Reachable env) :
    walk.Ready := by
  induction reachable with
  | start path => exact ⟨rfl, rfl, rfl⟩
  | visited expr _ done ih =>
      obtain ⟨constraint, aliases, -, rfl⟩ := ((expr.adds valid).eq_ok_iff ih).mp done
      exact (ih.withAliases aliases).collect [constraint]
  | isolated _ ih => exact ih.isolated
  | documents _ _ _ _ _ => exact Walk.Ready.push _ _
  | relationships _ _ _ _ _ _ _ => exact Walk.Ready.push _ _
  | traversed _ flat outermost done ih =>
      obtain ⟨level, aliases, -, rfl⟩ := ofLevel_of_traverse ih outermost flat done
      exact Level.ready_ofLevel level _

/-- A selector of some kind that bears an alias given before. -/
structure Aliases.Names (aliases : Aliases) (kind : NodeKind) (selector : Selector) : Prop where
  kind_eq : selector.kind = kind
  given : Aliases.Gives {} aliases selector

/-- The selectors of a scope bear aliases given before. -/
structure Scope.Named (scope : Scope) (aliases : Aliases) : Prop where
  artifact : aliases.Names .artifact scope.artifact
  relationship : ∀ edge ∈ scope.edge, aliases.Names .relationship edge.relationship
  target : ∀ edge ∈ scope.edge, aliases.Names .target edge.target

/-- Before anything else, no alias was given. -/
theorem Aliases.empty_le (aliases : Aliases) : ({} : Aliases) ≤ aliases := by
  intro stem
  cases stem <;> exact Nat.zero_le _

theorem Aliases.Names.mono {kind : NodeKind} {selector : Selector}
    (named : start.Names kind selector) (le : start ≤ finish) : finish.Names kind selector :=
  ⟨named.kind_eq, named.given.mono (le_refl _) le⟩

theorem Scope.Named.mono {scope : Scope} (named : scope.Named start) (le : start ≤ finish) :
    scope.Named finish where
  artifact := named.artifact.mono le
  relationship edge member := (named.relationship edge member).mono le
  target edge member := (named.target edge member).mono le

theorem names_of_fresh {kind : NodeKind} {selector : Selector}
    (given : Yields (fresh kind) start selector finish) : finish.Names kind selector where
  kind_eq := kind_of_fresh given
  given := (gives_of_fresh given).mono start.empty_le (le_refl _)

theorem named_of_document {document : Selector}
    (given : Yields (fresh .artifact) start document finish) :
    (Scope.mk document none).Named finish where
  artifact := names_of_fresh given
  relationship _ member := by cases member
  target _ member := by cases member

theorem named_of_far {relationship target far : Selector} {first second : Aliases}
    (relationshipGiven : Yields (fresh .relationship) start relationship first)
    (targetGiven : Yields (fresh .target) first target second)
    (farGiven : Yields (fresh .artifact) second far finish) :
    (Scope.mk far (some ⟨relationship, target⟩)).Named finish where
  artifact := names_of_fresh farGiven
  relationship edge member := by
    cases member
    exact (names_of_fresh relationshipGiven).mono
      (le_trans (allocates_of_fresh targetGiven).le (allocates_of_fresh farGiven).le)
  target edge member := by
    cases member
    exact (names_of_fresh targetGiven).mono (allocates_of_fresh farGiven).le

/-- A traversal leads to a scope of new selectors. -/
theorem named_of_traverse {relationshipType : String} {before after : Level}
    (run : Yields (traverse env before relationshipType) start after finish) :
    after.scope.Named finish := by
  have moved := yields_traverse.mp run
  split at moved
  next =>
      obtain ⟨document, rfl, given⟩ := moved
      exact named_of_document given
  next =>
      obtain ⟨edge, far, first, second, rfl, relationship, target, farGiven⟩ := moved
      exact named_of_far relationship target farGiven

/-- The selectors of the innermost frame bear aliases given before. -/
theorem Walk.Reachable.named (valid : env.settings.Valid) (reachable : walk.Reachable env) :
    walk.scope.Named walk.aliases := by
  induction reachable with
  | start path =>
      have given : Yields (fresh .artifact) {} Walk.start.root Walk.start.aliases := rfl
      exact named_of_document given
  | visited expr before done ih =>
      obtain ⟨constraint, aliases, run, rfl⟩ :=
        ((expr.adds valid).eq_ok_iff (before.ready valid)).mp done
      rw [Walk.scope_collect]
      exact ih.mono (expr.built run).allocates.le
  | isolated _ ih => exact ih
  | documents _ _ _ given _ => exact named_of_document given
  | relationships _ _ _ relationship target far _ => exact named_of_far relationship target far
  | traversed before flat outermost done _ =>
      obtain ⟨level, aliases, run, rfl⟩ :=
        ofLevel_of_traverse (before.ready valid) outermost flat done
      rw [Level.scope_ofLevel]
      exact named_of_traverse run

end Sramp.Compile
