import Sramp.Proofs.Meaning.Predicate

/-!
# Plans keep the meaning of queries

The artifacts that a compiled plan selects are exactly those that its query selects.
The tests of the root and those of the results are evaluated in one row, which binds
the root and the selectors of the step that leads away from it.
-/

namespace Sramp

open Compile Query

variable {store : Store} {row : Row store} {env : Environment} {start finish : Aliases}

/-- The tests of a location path keep its meaning. -/
theorem holds_pathTests {root : Selector} {path : LocationPath} {node : store.Node}
    (stands : row.Stands root node) :
    (∀ test ∈ pathTests env root path, test.Holds row) ↔ path.Holds env node := by
  have equals_iff (property : Property) (value : Value) :
      (Constraint.equals root property value).Holds row ↔
        store.Compares node property .eq value :=
    Constraint.holds_comparison stands.node_eq
  rcases path with ⟨model, artifactType⟩
  rw [pathTests, LocationPath.Holds]
  cases artifactType with
  | some artifactType =>
      dsimp only
      split <;> simp [equals_iff]
  | none =>
      cases model with
      | some model => simp [equals_iff]
      | none => simp

/-- A predicate adds its meaning to the tests of a level. -/
theorem holds_restrict {before after : Level} {predicate : Option Expr} {focus : Focus store}
    (stands : before.scope.Stands row focus)
    (run : Yields (restrict env before predicate) start after finish) :
    (∀ test ∈ after.tests, test.Holds row) ↔
      (∀ test ∈ before.tests, test.Holds row) ∧ ∀ expr ∈ predicate, expr.Holds env focus := by
  rw [yields_restrict] at run
  cases predicate with
  | none =>
      rcases run with ⟨rfl, -⟩
      simp
  | some predicate =>
      rcases run with ⟨constraint, rfl, compiled⟩
      have same := predicate.holds_iff stands compiled
      simp only [Level.add, List.forall_mem_append]
      apply and_congr_right'
      simp [same]

/-- The tests that a level makes of its root keep their meaning. -/
theorem holds_rootTests {root : Selector} {query : Query} {level : Level} {node : store.Node}
    (kind : root.kind = .artifact) (stands : row.Stands root node)
    (run : Yields (restrict env ((Level.ofRoot root).add (pathTests env root query.path))
      query.predicate) start level finish) :
    (∀ test ∈ level.tests, test.Holds row) ↔
      query.path.Holds env node ∧ ∀ expr ∈ query.predicate, expr.Holds env ⟨node, none⟩ := by
  have stands' : Scope.Stands row ⟨root, none⟩ ⟨node, none⟩ := ⟨kind, stands, by simp⟩
  apply (holds_restrict stands' run).trans
  apply and_congr_left'
  simpa [Level.add, Level.ofRoot] using holds_pathTests stands

/-- The constraint of a plan holds if the tests of its level and the test for the trash
do. -/
theorem holds_plan {settings : Settings} {root : Selector} {level : Level}
    {sorting : Option SortOrder} :
    (∀ constraint ∈ (level.plan settings root sorting).constraint, constraint.Holds row) ↔
      (∀ test ∈ level.tests, test.Holds row) ∧
        (liveTest settings root level.scope.artifact).Holds row := by
  cases made : Constraint.all level.tests with
  | none =>
      have empty := Constraint.joinAll_eq_none_iff.mp made
      simp only [Level.plan, made]
      simp [empty]
  | some body =>
      rw [← Constraint.holds_all made]
      simp [Level.plan, made, Constraint.Holds]

/-- Without a step the test for the trash is about the root. -/
theorem holds_liveTest_self {settings : Settings} {root : Selector} {node : store.Node}
    (stands : row.Stands root node) :
    (liveTest settings root root).Holds row ↔ store.Under node settings.artifactRoot := by
  simp only [liveTest, if_true]
  exact Constraint.holds_descendant stands.node_eq

/-- Where the results lie elsewhere, the test for the trash is about both. -/
theorem holds_liveTest_of_ne {settings : Settings} {root column : Selector}
    {node result : store.Node} (different : root.aliasName ≠ column.aliasName)
    (stands : row.Stands root node) (stands' : row.Stands column result) :
    (liveTest settings root column).Holds row ↔
      store.Under node settings.artifactRoot ∧ store.Under result settings.artifactRoot := by
  have moved : column ≠ root := by
    intro same
    subst same
    exact different rfl
  simp only [liveTest, if_neg moved]
  exact and_congr (Constraint.holds_descendant stands.node_eq)
    (Constraint.holds_descendant stands'.node_eq)

section Levels

variable {settings : Settings} {root : Selector} {query : Query} {middle level : Level}
variable {between : Aliases} {sorting : Option SortOrder} {result : store.Node}

/-- Without a step the results are the artifacts at which the query starts. -/
theorem selects_of_stays (kind : root.kind = .artifact)
    (run : Yields (restrict env ((Level.ofRoot root).add (pathTests env root query.path))
      query.predicate) start level finish) :
    (level.plan env.settings root sorting).Selects store result ↔
      ∃ node : store.Node, store.kind node = .artifact ∧ query.path.Holds env node ∧
        (∀ expr ∈ query.predicate, expr.Holds env ⟨node, none⟩) ∧
        store.Under node env.settings.artifactRoot ∧ result = node := by
  rcases sameSource_of_restrict run with ⟨sameSource, sameScope⟩
  have source : level.source = .single root := sameSource
  have column : level.scope.artifact = root := congrArg Scope.artifact sameScope
  simp only [Plan.Selects, holds_plan, column]
  simp only [Level.plan, source, column]
  rw [Source.exists_binds_single, kind]
  apply exists_congr
  intro node
  apply and_congr_right
  intro nodeKind
  have stands : (Row.empty.bind root node).Stands root node :=
    Row.stands_bind (nodeKind.trans kind.symm)
  rw [holds_rootTests kind stands run, holds_liveTest_self stands, stands.node_eq,
    Option.some.injEq, and_assoc, and_assoc, eq_comm]

/-- The tests of a level that was moved are those of the root, those of the edge that
was crossed, and those of the results. -/
theorem holds_moved {moved : Level} {predicate : Option Expr} {given : Aliases}
    {node : store.Node} {focus : Focus store} {Crossed : Prop} (kind : root.kind = .artifact)
    (different : root.aliasName ≠ moved.scope.artifact.aliasName)
    (stands : row.Stands root node) (reached : moved.scope.Stands row focus)
    (first : Yields (restrict env ((Level.ofRoot root).add (pathTests env root query.path))
      query.predicate) start middle between)
    (crossed : (∀ test ∈ moved.tests, test.Holds row) ↔
      (∀ test ∈ middle.tests, test.Holds row) ∧ Crossed)
    (last : Yields (restrict env moved predicate) given level finish) :
    (∀ test ∈ level.tests, test.Holds row) ∧
        (liveTest env.settings root level.scope.artifact).Holds row ↔
      (query.path.Holds env node ∧ ∀ expr ∈ query.predicate, expr.Holds env ⟨node, none⟩) ∧
        store.Under node env.settings.artifactRoot ∧ Crossed ∧
        (∀ expr ∈ predicate, expr.Holds env focus) ∧
        store.Under focus.artifact env.settings.artifactRoot := by
  rcases sameSource_of_restrict last with ⟨-, sameScope⟩
  rw [sameScope, holds_liveTest_of_ne different stands reached.artifact,
    holds_restrict reached last, crossed, holds_rootTests kind stands first]
  constructor
  · intro holds
    rcases holds with ⟨⟨⟨restricted, crosses⟩, tested⟩, live, liveResult⟩
    exact ⟨restricted, live, crosses, tested, liveResult⟩
  · intro reads
    rcases reads with ⟨restricted, live, crosses, tested, liveResult⟩
    exact ⟨⟨⟨restricted, crosses⟩, tested⟩, live, liveResult⟩

/-- The tests of a level that was moved to a document. -/
theorem holds_movedToDocument {document : Selector} {predicate : Option Expr} {given : Aliases}
    {node other : store.Node} (kind : root.kind = .artifact)
    (different : root.aliasName ≠ document.aliasName)
    (first : Yields (restrict env ((Level.ofRoot root).add (pathTests env root query.path))
      query.predicate) start middle between)
    (documentRun : Yields (fresh .artifact) between document given)
    (last : Yields (restrict env (middle.toDocument document) predicate) given level finish)
    (nodeKind : store.kind node = .artifact) (otherKind : store.kind other = .artifact) :
    (∀ test ∈ level.tests, test.Holds ((Row.empty.bind root node).bind document other)) ∧
        (liveTest env.settings root level.scope.artifact).Holds
          ((Row.empty.bind root node).bind document other) ↔
      (query.path.Holds env node ∧ ∀ expr ∈ query.predicate, expr.Holds env ⟨node, none⟩) ∧
        store.Under node env.settings.artifactRoot ∧ True ∧
        (∀ expr ∈ predicate, expr.Holds env ⟨other, none⟩) ∧
        store.Under other env.settings.artifactRoot := by
  have documentKind := kind_of_fresh documentRun
  apply holds_moved kind different _ _ first _ last
  · exact (Row.stands_bind (nodeKind.trans kind.symm)).bind different
  · refine ⟨documentKind, ?_, by simp [Level.toDocument]⟩
    exact Row.stands_bind (otherKind.trans documentKind.symm)
  · simp [Level.toDocument]

/-- A step to documents leads to the documents of the artifacts at which the query
starts. -/
theorem selects_of_derived {document : Selector} {relationshipType : String}
    {predicate : Option Expr} {given : Aliases}
    (derived : env.settings.isDerived relationshipType = true)
    (kind : root.kind = .artifact) (different : root.aliasName ≠ document.aliasName)
    (first : Yields (restrict env ((Level.ofRoot root).add (pathTests env root query.path))
      query.predicate) start middle between)
    (documentRun : Yields (fresh .artifact) between document given)
    (last : Yields (restrict env (middle.toDocument document) predicate) given level finish) :
    (level.plan env.settings root sorting).Selects store result ↔
      ∃ node : store.Node, store.kind node = .artifact ∧ query.path.Holds env node ∧
        (∀ expr ∈ query.predicate, expr.Holds env ⟨node, none⟩) ∧
        store.Under node env.settings.artifactRoot ∧
        Reaches env node result (some (.relationship relationshipType predicate none)) := by
  rcases sameSource_of_restrict last with ⟨sameSource, sameScope⟩
  rcases sameSource_of_restrict first with ⟨middleSource, middleScope⟩
  have documentKind := kind_of_fresh documentRun
  have source : level.source = (Source.single root).joinParent document root := by
    rw [sameSource, Level.toDocument, middleSource, middleScope]
    rfl
  have column : level.scope.artifact = document := congrArg Scope.artifact sameScope
  have holds_iff {node other : store.Node} (nodeKind : store.kind node = .artifact)
      (otherKind : store.kind other = .artifact) :=
    holds_movedToDocument kind different first documentRun last nodeKind otherKind
  simp only [Plan.Selects, holds_plan]
  simp only [Level.plan, source, Source.joinParent]
  rw [Source.exists_binds_join, Source.exists_binds_single]
  simp only [Source.partner_parent_iff different, column, Row.node_bind_self, Option.some.injEq,
    exists_eq_left', kind, documentKind]
  apply exists_congr
  intro node
  apply and_congr_right
  intro nodeKind
  simp only [Reaches, Leads, derived, if_true]
  rw [column] at holds_iff
  constructor
  · intro selected
    rcases selected with ⟨other, ⟨otherKind, beneath⟩, holds, rfl⟩
    rcases (holds_iff nodeKind otherKind).mp holds with
      ⟨⟨path, restricted⟩, live, -, tested, liveOther⟩
    exact ⟨path, restricted, live, ⟨other, none⟩, ⟨otherKind, beneath, rfl⟩, rfl, tested,
      liveOther⟩
  · intro reached
    rcases reached with
      ⟨path, restricted, live, ⟨other, _⟩, ⟨otherKind, beneath, rfl⟩, rfl, tested, liveOther⟩
    exact ⟨other, ⟨otherKind, beneath⟩, (holds_iff nodeKind otherKind).mpr
      ⟨⟨path, restricted⟩, live, trivial, tested, liveOther⟩, rfl⟩

/-- The tests of a level that was moved to an artifact that a relationship leads to. -/
theorem holds_movedToFar {edge : Edge} {far : Selector} {relationshipType : String}
    {predicate : Option Expr} {one two given : Aliases}
    {node crossed pointer other : store.Node} (kind : root.kind = .artifact)
    (distinct : ([root, edge.relationship, edge.target, far].map Selector.aliasName).Nodup)
    (first : Yields (restrict env ((Level.ofRoot root).add (pathTests env root query.path))
      query.predicate) start middle between)
    (relationshipRun : Yields (fresh .relationship) between edge.relationship one)
    (targetRun : Yields (fresh .target) one edge.target two)
    (farRun : Yields (fresh .artifact) two far given)
    (last : Yields (restrict env (middle.toFar relationshipType edge far) predicate) given level
      finish)
    (nodeKind : store.kind node = .artifact) (crossedKind : store.kind crossed = .relationship)
    (targets : Targets ⟨crossed, pointer⟩ other) :
    (∀ test ∈ level.tests,
          test.Holds ((((Row.empty.bind root node).bind edge.relationship crossed).bind
            edge.target pointer).bind far other)) ∧
        (liveTest env.settings root level.scope.artifact).Holds
          ((((Row.empty.bind root node).bind edge.relationship crossed).bind
            edge.target pointer).bind far other) ↔
      (query.path.Holds env node ∧ ∀ expr ∈ query.predicate, expr.Holds env ⟨node, none⟩) ∧
        store.Under node env.settings.artifactRoot ∧
        store.Compares crossed .relationshipType .eq (.string relationshipType) ∧
        (∀ expr ∈ predicate, expr.Holds env ⟨other, some ⟨crossed, pointer⟩⟩) ∧
        store.Under other env.settings.artifactRoot := by
  have farKind := kind_of_fresh farRun
  simp only [List.map_cons, List.map_nil, List.nodup_cons, List.mem_cons, List.not_mem_nil,
    or_false, not_or] at distinct
  rcases distinct with
    ⟨⟨rootRelationship, rootTarget, rootFar⟩, ⟨relationshipTarget, relationshipFar⟩, targetFar, -⟩
  apply holds_moved kind rootFar _ _ first _ last
  · refine (((Row.stands_bind ?_).bind rootRelationship).bind rootTarget).bind rootFar
    exact nodeKind.trans kind.symm
  · apply stands_of_edge farKind
    · refine ((Row.stands_bind ?_).bind relationshipTarget).bind relationshipFar
      exact crossedKind.trans (kind_of_fresh relationshipRun).symm
    · refine (Row.stands_bind ?_).bind targetFar
      exact targets.1.trans (kind_of_fresh targetRun).symm
    · exact Row.stands_bind (targets.2.2.1.trans farKind.symm)
  · simp only [Level.toFar, List.forall_mem_append, List.forall_mem_singleton]
    apply and_congr_right'
    apply holds_typeTest
    rw [Row.node_bind_of_ne relationshipFar, Row.node_bind_of_ne relationshipTarget,
      Row.node_bind_self]

/-- A step over relationships leads to the artifacts that targets of relationships of
the artifacts at which the query starts point at. -/
theorem selects_of_related {edge : Edge} {far : Selector} {relationshipType : String}
    {predicate : Option Expr} {one two given : Aliases}
    (related : env.settings.isDerived relationshipType = false)
    (kind : root.kind = .artifact)
    (distinct : ([root, edge.relationship, edge.target, far].map Selector.aliasName).Nodup)
    (first : Yields (restrict env ((Level.ofRoot root).add (pathTests env root query.path))
      query.predicate) start middle between)
    (relationshipRun : Yields (fresh .relationship) between edge.relationship one)
    (targetRun : Yields (fresh .target) one edge.target two)
    (farRun : Yields (fresh .artifact) two far given)
    (last : Yields (restrict env (middle.toFar relationshipType edge far) predicate) given level
      finish) :
    (level.plan env.settings root sorting).Selects store result ↔
      ∃ node : store.Node, store.kind node = .artifact ∧ query.path.Holds env node ∧
        (∀ expr ∈ query.predicate, expr.Holds env ⟨node, none⟩) ∧
        store.Under node env.settings.artifactRoot ∧
        Reaches env node result (some (.relationship relationshipType predicate none)) := by
  rcases sameSource_of_restrict last with ⟨sameSource, sameScope⟩
  rcases sameSource_of_restrict first with ⟨middleSource, middleScope⟩
  have relationshipKind := kind_of_fresh relationshipRun
  have targetKind := kind_of_fresh targetRun
  have farKind := kind_of_fresh farRun
  have source : level.source =
      joinFar ((Source.single root).joinChild edge.relationship root) edge far := by
    rw [sameSource, Level.toFar, middleSource, middleScope]
    rfl
  have column : level.scope.artifact = far := congrArg Scope.artifact sameScope
  have holds_iff {node crossed pointer other : store.Node}
      (nodeKind : store.kind node = .artifact) (crossedKind : store.kind crossed = .relationship)
      (targets : Targets ⟨crossed, pointer⟩ other) :=
    holds_movedToFar kind distinct first relationshipRun targetRun farRun last nodeKind
      crossedKind targets
  simp only [List.map_cons, List.map_nil, List.nodup_cons, List.mem_cons, List.not_mem_nil,
    or_false, not_or] at distinct
  rcases distinct with ⟨⟨rootRelationship, -, -⟩, ⟨relationshipTarget, -⟩, targetFar, -⟩
  simp only [Plan.Selects, holds_plan]
  simp only [Level.plan, source, Source.joinChild]
  rw [Source.exists_binds_joinFar ⟨targetKind, farKind⟩ relationshipTarget targetFar,
    Source.exists_binds_join, Source.exists_binds_single]
  simp only [Source.partner_child_iff rootRelationship, column, Row.node_bind_self,
    Option.some.injEq, exists_eq_left', kind, relationshipKind]
  apply exists_congr
  intro node
  apply and_congr_right
  intro nodeKind
  simp only [Reaches, Leads, related, Bool.false_eq_true, if_false]
  rw [column] at holds_iff
  constructor
  · intro selected
    rcases selected with ⟨crossed, ⟨crossedKind, beneath⟩, pointer, other, targets, holds, rfl⟩
    rcases (holds_iff nodeKind crossedKind targets).mp holds with
      ⟨⟨path, restricted⟩, live, typed, tested, liveOther⟩
    exact ⟨path, restricted, live, ⟨other, some ⟨crossed, pointer⟩⟩,
      ⟨_, rfl, ⟨crossedKind, beneath, typed⟩, targets⟩, rfl, tested, liveOther⟩
  · intro reached
    rcases reached with
      ⟨path, restricted, live, ⟨other, _⟩, ⟨⟨crossed, pointer⟩, rfl, ⟨crossedKind, beneath, typed⟩,
        targets⟩, rfl, tested, liveOther⟩
    exact ⟨crossed, ⟨crossedKind, beneath⟩, pointer, other, targets,
      (holds_iff nodeKind crossedKind targets).mpr
        ⟨⟨path, restricted⟩, live, typed, tested, liveOther⟩, rfl⟩

end Levels

end Sramp

namespace Sramp.Query

open Compile

/-- A compiled plan selects exactly what its query selects. -/
theorem plan_selects_iff {env : Environment} {query : Query} {order : Option OrderBy}
    {plan : Plan} (compiled : query.plan env order = .ok plan) (store : Store)
    (result : store.Node) : plan.Selects store result ↔ query.Selects env result := by
  rcases plan_eq_ok_iff.mp compiled with ⟨-, level, finish, sorting, run, -, rfl⟩
  have rootKind : (Aliases.next {} .artifact).kind = .artifact := rfl
  have allocates := (wellScoped_of_level (yields_fresh.mpr ⟨rfl, rfl⟩) run).allocates
  have distinct := (List.nodup_append.mp (List.map_append ▸ allocates.distinct)).1
  generalize Aliases.next {} .artifact = root at *
  rcases yields_level.mp run with ⟨middle, between, first, last⟩
  rw [yields_step] at last
  rw [Query.Selects]
  split at last
  next absent =>
      rcases last with ⟨rfl, rfl⟩
      rw [absent]
      exact selects_of_stays rootKind first
  next relationshipType predicate one =>
      rcases last with ⟨moved, reached, moves, restricted⟩
      rcases sameSource_of_restrict restricted with ⟨sameSource, -⟩
      rcases sameSource_of_restrict first with ⟨middleSource, -⟩
      rw [sameSource] at distinct
      rw [yields_traverse] at moves
      rw [one]
      split at moves
      next derived =>
          rcases moves with ⟨document, rfl, documentRun⟩
          apply selects_of_derived derived rootKind _ first documentRun restricted
          simpa [Level.toDocument, middleSource, Level.add, Level.ofRoot] using distinct
      next related =>
          rcases moves with ⟨edge, far, _, _, rfl, relationshipRun, targetRun, farRun⟩
          apply selects_of_related (Bool.eq_false_iff.mpr related) rootKind _ first
            relationshipRun targetRun farRun restricted
          simpa [Level.toFar, middleSource, Level.add, Level.ofRoot] using distinct
  next => exact last.elim

/-- The store with one node of each kind, all of them stored beneath each other, which
pass all tests. -/
def fullStore : Store where
  Node := NodeKind
  Key := NodeKind
  kind := id
  Beneath _ _ := True
  field node property := some (if property = .targetArtifact then .artifact else node)
  id := id
  field_id _ := rfl
  eq_of_id _ same := same
  Compares _ _ _ _ := True
  Present _ _ := True
  OneOf _ _ _ := True
  Under _ _ := True

theorem plan_selects_iff_of_sample :
    ∃ plan, sampleQuery.plan .bare none = .ok plan ∧
      plan.Selects fullStore NodeKind.artifact := by
  have succeeds : (sampleQuery.plan .bare none).toOption.isSome = true := by
    decide +kernel
  rcases exists_ok_of_isSome succeeds with ⟨plan, compiled⟩
  have includes : Environment.bare.settings.isDerived "includes" = false := by
    decide +kernel
  have related : Environment.bare.settings.isDerived "relatedDocument" = true := by
    decide +kernel
  have named (focus : Focus fullStore) (name : String) :
      (EqualityExpr.test (.property (.plain name)) none).Holds .bare focus := by
    rw [EqualityExpr.Holds]
    simp only [Referent.named?, QName.isSramp_plain, if_true]
    split
    · exact ⟨_, rfl, trivial⟩
    · exact ⟨_, rfl, NodeKind.propertyEntry, rfl, trivial, trivial⟩
  refine ⟨plan, compiled, (plan_selects_iff compiled fullStore _).mpr ?_⟩
  refine ⟨NodeKind.artifact, rfl, trivial, ?_, trivial, ?_⟩
  · intro expr given
    cases given
    simp only [Expr.Holds, OrExpr.Holds]
    constructor
    · rw [EqualityExpr.Holds, SubartifactSet.Holds]
      refine ⟨⟨NodeKind.artifact, some ⟨NodeKind.relationship, NodeKind.target⟩⟩, ?_, ?_⟩
      · simp only [Leads, includes, Bool.false_eq_true, if_false]
        exact ⟨_, rfl, ⟨rfl, trivial, trivial⟩, rfl, trivial, rfl, rfl⟩
      · rw [Expr.Holds, OrExpr.Holds]
        exact named _ _
    · rw [EqualityExpr.Holds, Expr.Holds, OrExpr.Holds]
      exact .inl (named _ _)
  · refine ⟨⟨NodeKind.artifact, none⟩, ?_, rfl, by simp, trivial⟩
    simp only [Leads, related, if_true]
    exact ⟨rfl, trivial, trivial⟩

end Sramp.Query
