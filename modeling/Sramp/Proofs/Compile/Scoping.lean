import Sramp.Proofs.Compile.Freshness
import Sramp.Proofs.Compile.Level
import Sramp.Proofs.Plan.Scoping

/-!
# Compiled plans are well scoped

A compiled predicate introduces only aliases given while it was compiled, each of
them once, and refers only to the selectors of the scopes it was compiled in.  Both
are proved by induction on the shape of the predicate and then as invariants of the
outermost level.
-/

namespace Sramp.Compile

variable {env : Environment} {scope : Scope} {nested : Bool} {start finish : Aliases}
variable {constraint : Constraint}

theorem allocates_of_fresh {kind : NodeKind} {selector : Selector}
    (given : Yields (fresh kind) start selector finish) :
    start.Allocates finish [selector] := by
  rcases yields_fresh.mp given with ⟨rfl, rfl⟩
  exact start.allocates_next kind

theorem gives_of_fresh {kind : NodeKind} {selector : Selector}
    (given : Yields (fresh kind) start selector finish) : start.Gives finish selector := by
  rcases yields_fresh.mp given with ⟨rfl, rfl⟩
  exact start.gives_next kind

theorem kind_of_fresh {kind : NodeKind} {selector : Selector}
    (given : Yields (fresh kind) start selector finish) : selector.kind = kind := by
  rcases yields_fresh.mp given with ⟨rfl, -⟩
  rfl

/-- A probe introduces its owner and its entry. -/
theorem allocates_of_probe {outer : Selector} {kind : NodeKind} {key : String} {found : Probe}
    (probed : Yields (probe outer kind key) start found finish) :
    start.Allocates finish found.rows.source.selectors := by
  rcases yields_probe.mp probed with ⟨rfl, rfl⟩
  exact (start.allocates_next outer.kind).append (Aliases.allocates_next _ kind)

/-- A test introduces what its subject does. -/
theorem Tests.introduced {tested : Tested} (tests : Tests env tested constraint) :
    constraint.introduced =
      match tested with
      | .direct _ => []
      | .entries found => found.rows.source.selectors := by
  cases tested with
  | direct operand => cases tests <;> rfl
  | entries found =>
      cases tests <;>
        simp [Tested.exists?, Tested.compare, Probe.exists?, Probe.compare, Probe.keyTest,
          Constraint.introduced, Constraint.equals]

@[simp] theorem introduced_typeTest (relationship : Selector) (relationshipType : String) :
    (typeTest relationship relationshipType).introduced = [] := rfl

namespace Built

/-- What a compiled constraint introduces was given while it was compiled. -/
theorem allocates (built : Built env scope nested start constraint finish) :
    start.Allocates finish constraint.introduced := by
  induction built with
  | test testable tests =>
      rw [tests.introduced]
      cases testable with
      | direct property => exact Aliases.allocates_nil _
      | entries owner probed => exact allocates_of_probe probed
  | classifier | hits => exact Aliases.allocates_nil _
  | and _ _ leftIH rightIH => exact leftIH.append rightIH
  | or _ _ leftIH rightIH => exact leftIH.append rightIH
  | not _ ih => exact ih
  | documents document owner =>
      exact (allocates_of_fresh document).append (allocates_of_fresh owner)
  | documentsWith document _ owner ih =>
      -- The owner is given after the inner predicate, but listed before it.
      have given := (allocates_of_fresh document).append (ih.append (allocates_of_fresh owner))
      apply given.perm
      simp only [Constraint.introduced, selectors_documentsOf, List.cons_append,
        List.nil_append]
      exact (List.perm_append_singleton _ _).cons _
  | relationships relationship owner =>
      have given := (allocates_of_fresh relationship).append (allocates_of_fresh owner)
      simpa [Constraint.introduced] using given
  | relationshipsWith relationship target far _ owner ih =>
      have edge := (allocates_of_fresh relationship).append (allocates_of_fresh target)
      have given := (edge.append (allocates_of_fresh far)).append
        (ih.append (allocates_of_fresh owner))
      apply given.perm
      simp only [Constraint.introduced, introduced_typeTest, selectors_ownedBy,
        selectors_joinFar, Source.selectors_single, List.cons_append, List.nil_append]
      exact (((List.perm_append_singleton _ _).cons _).cons _).cons _

end Built

/-- The selectors of a scope stand at a level, and its artifact is an artifact. -/
structure Scope.Within (scope : Scope) (level : List Selector) : Prop where
  artifact : scope.artifact ∈ level
  kind : scope.artifact.kind = .artifact
  edge : ∀ edge ∈ scope.edge, edge.relationship ∈ level ∧ edge.target ∈ level

/-- What has entries in a scope stands at its level. -/
theorem Scope.Within.mem_of_hasEntries {level : List Selector} {outer : Selector}
    {kind : NodeKind} (within : scope.Within level) (owner : HasEntries scope outer kind) :
    outer ∈ level := by
  cases owner with
  | artifact => exact within.artifact
  | edge part leads =>
      cases part with
      | relationship => exact (within.edge _ leads).1
      | target => exact (within.edge _ leads).2

/-- The rows of a probe are tied to the node whose entries it looks up. -/
theorem scoped_of_probe {level : List Selector} {outer : Selector} {kind : NodeKind}
    {key : String} {found : Probe} (member : outer ∈ level)
    (probed : Yields (probe outer kind key) start found finish) :
    found.rows.Scoped level := by
  rcases yields_probe.mp probed with ⟨rfl, -⟩
  constructor
  · exact Source.Chained.joinChild trivial (List.mem_singleton_self _)
  · exact ⟨_, List.mem_cons_self, outer, member, rfl, rfl, rfl⟩

theorem entry_mem_selectors (found : Probe) : found.entry ∈ found.rows.source.selectors := by
  simp [Probe.rows, Source.joinChild]

/-- A test stands at the level of its scope. -/
theorem Tests.stands {level : List Selector} {tested : Tested}
    (tests : Tests env tested constraint) (within : scope.Within level)
    (testable : Testable scope start tested finish) : constraint.Scoped level := by
  cases testable with
  | direct property =>
      cases tests <;> exact within.artifact
  | entries owner probed =>
      have rows := scoped_of_probe (within.mem_of_hasEntries owner) probed
      cases tests with
      | present => exact ⟨rows, entry_mem_selectors _⟩
      | compared => exact ⟨rows, entry_mem_selectors _, entry_mem_selectors _⟩
      | matched => exact ⟨rows, entry_mem_selectors _, entry_mem_selectors _⟩

/-- The rows of a step towards documents are tied to the artifact it starts from. -/
theorem scoped_of_documentsOf {level : List Selector} {document owner outer : Selector}
    (member : outer ∈ level) (same : owner.kind = outer.kind) :
    (documentsOf document owner outer).Scoped level where
  chained := Source.Chained.joinChild trivial (List.mem_singleton_self document)
  tied := ⟨owner, by simp, outer, member, rfl, rfl, same⟩

/-- The rows of a step over relationships are tied to the artifact it starts from. -/
theorem scoped_of_ownedBy {level : List Selector} {source : Source}
    {child owner outer : Selector} (chained : source.Chained)
    (inSource : child ∈ source.selectors) (member : outer ∈ level)
    (same : owner.kind = outer.kind) : (ownedBy source child owner outer).Scoped level where
  chained := chained.joinParent inSource
  tied := ⟨owner, by simp, outer, member, rfl, rfl, same⟩

/-- A test of the type of a relationship stands wherever the relationship does. -/
theorem scoped_typeTest {level : List Selector} {relationship : Selector}
    {relationshipType : String} (member : relationship ∈ level) :
    (typeTest relationship relationshipType).Scoped level :=
  member

/-- Joining the artifacts that relationships lead to keeps a source chained. -/
theorem chained_joinFar {source : Source} {edge : Edge} {far : Selector}
    (chained : source.Chained) (leads : edge.relationship ∈ source.selectors) :
    (joinFar source edge far).Chained := by
  apply Source.Chained.joinEqual
  · exact chained.joinChild leads
  · simp [Selector.operand]

namespace Built

/-- A compiled constraint stands at the level of its scope. -/
theorem stands {level : List Selector}
    (built : Built env scope nested start constraint finish) (within : scope.Within level) :
    constraint.Scoped level := by
  induction built generalizing level with
  | test testable tests => exact tests.stands within testable
  | classifier | hits => exact within.artifact
  | and _ _ leftIH rightIH => exact ⟨leftIH within, rightIH within⟩
  | or _ _ leftIH rightIH => exact ⟨leftIH within, rightIH within⟩
  | not _ ih => exact ih within
  | documents document owner =>
      exact scoped_of_documentsOf within.artifact ((kind_of_fresh owner).trans within.kind.symm)
  | documentsWith document _ owner ih =>
      constructor
      · exact scoped_of_documentsOf within.artifact
          ((kind_of_fresh owner).trans within.kind.symm)
      · refine ih ⟨?_, kind_of_fresh document, by simp⟩
        simp
  | relationships relationship owner =>
      constructor
      · exact scoped_of_ownedBy trivial (by simp) within.artifact
          ((kind_of_fresh owner).trans within.kind.symm)
      · exact scoped_typeTest (by simp)
  | relationshipsWith relationship target far _ owner ih =>
      constructor
      · apply scoped_of_ownedBy _ _ within.artifact
          ((kind_of_fresh owner).trans within.kind.symm)
        · exact chained_joinFar trivial (by simp)
        · simp
      · constructor
        · exact scoped_typeTest (by simp)
        · refine ih ⟨?_, kind_of_fresh far, ?_⟩
          · simp
          · simp

end Built

/-- What holds of the outermost level while it grows. -/
structure Level.WellScoped (root : Selector) (level : Level) (aliases : Aliases) : Prop where
  chained : level.source.Chained
  root : root ∈ level.source.selectors
  within : level.scope.Within level.source.selectors
  stands : ∀ test ∈ level.tests, test.Scoped level.source.selectors
  allocates : Aliases.Allocates {} aliases
    (level.source.selectors ++ level.tests.flatMap Constraint.introduced)

/-- The tests of a location path are about the root, and introduce nothing. -/
theorem pathTests_stand {root : Selector} {path : Query.LocationPath} :
    ∀ test ∈ pathTests env root path, test.Scoped [root] ∧ test.introduced = [] := by
  intro test member
  rcases equals_of_pathTests member with ⟨property, value, same⟩
  subst same
  exact ⟨List.mem_singleton_self root, rfl⟩

namespace Level.WellScoped

variable {root : Selector} {level : Level} {aliases next : Aliases}

/-- The level of the root and its location path. -/
theorem begins {path : Query.LocationPath} (given : Yields (fresh .artifact) {} root aliases) :
    ((Level.ofRoot root).add (pathTests env root path)).WellScoped root aliases where
  chained := trivial
  root := List.mem_singleton_self root
  within := ⟨List.mem_singleton_self root, kind_of_fresh given, by simp [add, ofRoot]⟩
  stands test member := (pathTests_stand test member).1
  allocates := by
    have none : (pathTests env root path).flatMap Constraint.introduced = [] := by
      rw [List.flatMap_eq_nil_iff]
      exact fun test member => (pathTests_stand test member).2
    simpa [add, ofRoot, none] using allocates_of_fresh given

/-- Restriction by a predicate on the artifact of the level. -/
theorem restricts (holds : level.WellScoped root aliases)
    (built : Built env level.scope nested aliases constraint next) :
    (level.add [constraint]).WellScoped root next where
  chained := holds.chained
  root := holds.root
  within := holds.within
  stands := by
    intro test member
    rcases List.mem_append.mp member with earlier | added
    · exact holds.stands test earlier
    · cases List.mem_singleton.mp added
      exact built.stands holds.within
  allocates := by
    have given := holds.allocates.append built.allocates
    simpa [add] using given

/-- The move to the document that the artifact of the level was derived from. -/
theorem derives {document : Selector} (holds : level.WellScoped root aliases)
    (given : Yields (fresh .artifact) aliases document next) :
    (level.toDocument document).WellScoped root next where
  chained := holds.chained.joinParent holds.within.artifact
  root := List.mem_append_left _ holds.root
  within := by
    refine ⟨?_, kind_of_fresh given, by simp [toDocument]⟩
    simp [toDocument]
  stands test member := (holds.stands test member).mono (List.subset_append_left _ _)
  allocates := by
    apply (holds.allocates.append (allocates_of_fresh given)).perm
    simp only [toDocument, Source.selectors_joinParent, List.append_assoc]
    exact List.perm_append_comm.append_left _

/-- The move to an artifact that a relationship leads to. -/
theorem leads {edge : Edge} {far : Selector} {relationshipType : String}
    {first second : Aliases} (holds : level.WellScoped root aliases)
    (relationship : Yields (fresh .relationship) aliases edge.relationship first)
    (target : Yields (fresh .target) first edge.target second)
    (given : Yields (fresh .artifact) second far next) :
    (level.toFar relationshipType edge far).WellScoped root next where
  chained := by
    apply chained_joinFar
    · exact holds.chained.joinChild holds.within.artifact
    · simp
  root := by
    simp [toFar, holds.root]
  within := by
    refine ⟨?_, kind_of_fresh given, ?_⟩
    · simp [toFar]
    · simp [toFar]
  stands := by
    intro test member
    rcases List.mem_append.mp member with earlier | added
    · apply (holds.stands test earlier).mono
      intro selector inside
      simp [toFar, inside]
    · cases List.mem_singleton.mp added
      exact scoped_typeTest (by simp [toFar])
  allocates := by
    have edges := (allocates_of_fresh relationship).append (allocates_of_fresh target)
    apply (holds.allocates.append (edges.append (allocates_of_fresh given))).perm
    simp only [toFar, selectors_joinFar, Source.selectors_joinChild, introduced_typeTest,
      List.flatMap_append, List.flatMap_cons, List.flatMap_nil, List.append_nil,
      List.append_assoc]
    exact List.perm_append_comm.append_left _

end Level.WellScoped

/-- The outermost level is well scoped whenever it is finished. -/
theorem wellScoped_of_level {query : Query} {root : Selector} {level : Level}
    {aliases : Aliases} (given : Yields (fresh .artifact) {} root aliases)
    (run : Yields (Compile.level env root query) aliases level finish) :
    level.WellScoped root finish := by
  apply level_invariant (Level.WellScoped root) run (Level.WellScoped.begins given)
  · intro current _ _ _ built holds
    exact holds.restricts built
  · intro current _ _ _ given holds
    exact holds.derives given
  · intro current _ _ _ _ _ _ _ relationship target given holds
    exact holds.leads relationship target given

/-- The test for the trash stands wherever the root and the results do. -/
theorem liveTest_stands {settings : Settings} {root column : Selector}
    {level : List Selector} (rootMem : root ∈ level) (columnMem : column ∈ level) :
    (liveTest settings root column).Scoped level := by
  rw [liveTest]
  dsimp only
  split
  · exact rootMem
  · exact ⟨rootMem, columnMem⟩

@[simp] theorem introduced_liveTest (settings : Settings) (root column : Selector) :
    (liveTest settings root column).introduced = [] := by
  rw [liveTest]
  dsimp only
  split <;> rfl

/-- An ordering refers to the column of the results. -/
theorem mem_of_sortOrder {column : Selector} {order : Option OrderBy}
    {sorting : Option SortOrder} (sorted : sortOrder column order = .ok sorting) :
    ∀ ordering ∈ sorting, ordering.operand.selector = column := by
  cases order with
  | none =>
      cases sorted
      simp
  | some order =>
      simp only [sortOrder, exceptBind_eq_ok] at sorted
      rcases sorted with ⟨property, -, made⟩
      cases made
      simp [Selector.operand]

/-- The plan of a level introduces what its source and its tests do. -/
theorem Level.introduced_plan (level : Level) (settings : Settings) (root : Selector)
    (sorting : Option SortOrder) :
    ((level.plan settings root sorting).constraint.map Constraint.introduced).getD [] =
      level.tests.flatMap Constraint.introduced := by
  cases made : Constraint.all level.tests with
  | none =>
      simp only [Constraint.all, Constraint.joinAll_eq_none_iff] at made
      simp [Level.plan, made, Constraint.all]
  | some body =>
      rw [← Constraint.introduced_all made]
      simp [Level.plan, made, Constraint.introduced]

/-- A well-scoped level gives a well-scoped plan. -/
theorem Level.WellScoped.plan {root : Selector} {level : Level} {aliases : Aliases}
    {settings : Settings} {order : Option OrderBy} {sorting : Option SortOrder}
    (holds : level.WellScoped root aliases)
    (sorted : sortOrder level.scope.artifact order = .ok sorting) :
    (level.plan settings root sorting).WellScoped where
  distinct := by
    rw [Level.introduced_plan]
    exact holds.allocates.distinct
  chained := holds.chained
  stands := by
    have live : (liveTest settings root level.scope.artifact).Scoped level.source.selectors :=
      liveTest_stands holds.root holds.within.artifact
    intro constraint member
    cases made : Constraint.all level.tests with
    | none =>
        simp only [Level.plan, made, Option.mem_def, Option.some.injEq] at member
        subst member
        exact live
    | some body =>
        simp only [Level.plan, made, Option.mem_def, Option.some.injEq] at member
        subst member
        exact ⟨Constraint.scoped_all holds.stands made, live⟩
  column := holds.within.artifact
  ordering := by
    intro ordering member
    rw [mem_of_sortOrder sorted ordering member]
    exact holds.within.artifact

end Sramp.Compile

namespace Sramp.Query

open Compile

/-- A compiled plan introduces every alias once and refers, at each level, to the
selectors of that level only; and the root is joined to nothing but the step that
leads away from it. -/
theorem plan_wellScoped {env : Environment} {query : Query} {order : Option OrderBy}
    {plan : Plan} (compiled : query.plan env order = .ok plan) :
    plan.WellScoped ∧
      Traversed env.settings plan.source.root query.subartifacts plan.source plan.column := by
  rcases plan_eq_ok_iff.mp compiled with ⟨-, level, finish, sorting, run, sorted, rfl⟩
  constructor
  · exact (wellScoped_of_level (yields_fresh.mpr ⟨rfl, rfl⟩) run).plan sorted
  · have traversed := traversed_of_level run
    have root := traversed.root_eq
    exact root ▸ traversed

theorem plan_wellScoped_of_sample :
    ∃ plan, sampleQuery.plan .bare none = .ok plan ∧ plan.WellScoped := by
  have succeeds : (sampleQuery.plan .bare none).toOption.isSome = true := by
    decide +kernel
  rcases exists_ok_of_isSome succeeds with ⟨plan, compiled⟩
  exact ⟨plan, compiled, (plan_wellScoped compiled).1⟩

end Sramp.Query
