import Sramp.Proofs.Compile.Scoping

/-!
# What compiled plans ask

Compiled plans ask little of a store.  They test properties that a node of the kind has as
single values, and classifiers for equality; they look up entries by their key beneath
the node that an entry belongs to, and related artifacts through the joins of a step.  What
a store must be able to state is proved by induction on this relation, in which neither
scopes nor aliases occur.
-/

namespace Sramp

/-- The properties that nodes of a kind have as a single value. -/
inductive Property.Single : NodeKind → Property → Prop where
  | id {kind : NodeKind} : Single kind .id
  | core (property : CoreProperty) : Single .artifact (.core property)
  | artifactType : Single .artifact .artifactType
  | artifactModel : Single .artifact .artifactModel
  | relationshipType : Single .relationship .relationshipType
  | targetArtifact : Single .target .targetArtifact

theorem Property.Single.ne_entryKey {kind : NodeKind} {property : Property}
    (single : Property.Single kind property) : property ≠ .entryKey := by
  rintro rfl
  cases single

/-- The kinds of entries, and of the nodes that they belong to. -/
inductive NodeKind.EntryOf : NodeKind → NodeKind → Prop where
  | artifact : EntryOf .propertyEntry .artifact
  | relationship : EntryOf .relationshipAttribute .relationship
  | target : EntryOf .targetAttribute .target

theorem NodeKind.EntryOf.isEntry {entry owner : NodeKind} (belongs : entry.EntryOf owner) :
    entry.isEntry = true := by
  cases belongs <;> rfl

/-- The kinds of nodes that are stored beneath one another, entries apart. -/
inductive NodeKind.Beneath : NodeKind → NodeKind → Prop where
  | artifact : Beneath .artifact .artifact
  | relationship : Beneath .relationship .artifact
  | target : Beneath .target .relationship

/-- The conditions under which nodes other than entries are joined: one is stored beneath
the other, or points at it. -/
inductive JoinCondition.Links : JoinCondition → Prop where
  | child {lower upper : Selector} : lower.kind.Beneath upper.kind → Links (.child lower upper)
  | target {target far : Selector} :
      target.kind = .target → Links (.equal (target.operand .targetArtifact) (far.operand .id))

/-- Sources that join nodes other than entries. -/
def Source.Linked : Source → Prop
  | .single selector => selector.kind.isEntry = false
  | .join left right _ condition => left.Linked ∧ right.kind.isEntry = false ∧ condition.Links

/-- Rows of a subquery that nodes tie to the row outside. -/
def Correlation.ById (rows : Correlation) : Prop :=
  rows.correlated.property = .id ∧ rows.outer.property = .id

/-- The subqueries of a constraint at any depth, from left to right. -/
def Constraint.subqueries : Constraint → List Subquery
  | .and left right | .or left right => left.subqueries ++ right.subqueries
  | .not inner => inner.subqueries
  | .existsRow rows => [⟨rows, none⟩]
  | .existsRowWith rows condition => ⟨rows, some condition⟩ :: condition.subqueries
  | .comparison .. | .present _ | .oneOf .. | .descendant .. => []

/-- The keys that a constraint asks entries for, from left to right. -/
def Constraint.keys : Constraint → List String
  | .and left right | .or left right => left.keys ++ right.keys
  | .not inner => inner.keys
  | .comparison operand _ (.string text) =>
      if operand.property = .entryKey then [text] else []
  | .existsRowWith _ condition => condition.keys
  | .comparison .. | .present _ | .oneOf .. | .descendant .. | .existsRow _ => []

/-- The subqueries of a plan at any depth. -/
def Plan.subqueries (plan : Plan) : List Subquery :=
  (plan.constraint.map Constraint.subqueries).getD []

/-- The keys of custom properties and attributes that a plan asks for. -/
def Plan.keys (plan : Plan) : List String :=
  (plan.constraint.map Constraint.keys).getD []

namespace Compile

/-- What a probe asks of the entry: that it has the key, and perhaps a value that compares
as given. -/
def Probe.condition (probe : Probe) : Option (Operator × Value) → Constraint
  | none => probe.keyTest
  | some (operator, value) =>
      .and probe.keyTest (.comparison (probe.entry.operand .entryValue) operator value)

/-- The subquery by which a probe asks for an entry. -/
def Probe.subquery (probe : Probe) (asked : Option (Operator × Value)) : Subquery :=
  ⟨probe.rows, some (probe.condition asked)⟩

/-- The rows of the steps inside predicates: derived documents, relationships, and the
artifacts that relationships lead to. -/
inductive Step : Correlation → Prop where
  | documents {document owner outer : Selector} :
      document.kind = .artifact → owner.kind = .artifact →
      Step (documentsOf document owner outer)
  | relationships {relationship owner outer : Selector} :
      relationship.kind = .relationship → owner.kind = .artifact →
      Step (ownedBy (.single relationship) relationship owner outer)
  | related {relationship target far owner outer : Selector} :
      relationship.kind = .relationship → target.kind = .target → far.kind = .artifact →
      owner.kind = .artifact →
      Step (ownedBy (joinFar (.single relationship) ⟨relationship, target⟩ far) relationship owner
        outer)

/-- The constraints that predicates are compiled to, apart from scopes and aliases. -/
inductive Expressible : Constraint → Prop where
  | present {operand : Operand} :
      Property.Single operand.selector.kind operand.property → Expressible (.present operand)
  | comparison {operand : Operand} {operator : Operator} {value : Value} :
      Property.Single operand.selector.kind operand.property →
      Expressible (.comparison operand operator value)
  | oneOf {operand : Operand} {values : List Value} :
      Property.Single operand.selector.kind operand.property →
      Expressible (.oneOf operand values)
  | classifier {artifact : Selector} {normalized : Bool} {value : Value} :
      Expressible (.equals artifact (.classifier normalized) value)
  | probe {probe : Probe} {asked : Option (Operator × Value)} :
      probe.entry.kind.EntryOf probe.owner.kind →
      Expressible (.existsRowWith probe.rows (probe.condition asked))
  | step {rows : Correlation} : Step rows → Expressible (.existsRow rows)
  | stepWith {rows : Correlation} {condition : Constraint} :
      Step rows → Expressible condition → Expressible (.existsRowWith rows condition)
  | and {left right : Constraint} :
      Expressible left → Expressible right → Expressible (.and left right)
  | or {left right : Constraint} :
      Expressible left → Expressible right → Expressible (.or left right)
  | not {inner : Constraint} : Expressible inner → Expressible (.not inner)

/-- The rows of a step join no entries. -/
theorem Step.linked {rows : Correlation} (step : Step rows) : rows.source.Linked := by
  cases step with
  | documents document owner =>
      refine ⟨?_, ?_, .child ?_⟩
      · simp [Source.Linked, document, NodeKind.isEntry]
      · simp [owner, NodeKind.isEntry]
      · rw [owner, document]
        exact .artifact
  | relationships relationship owner =>
      refine ⟨?_, ?_, .child ?_⟩
      · simp [Source.Linked, relationship, NodeKind.isEntry]
      · simp [owner, NodeKind.isEntry]
      · rw [relationship, owner]
        exact .relationship
  | related relationship target far owner =>
      refine ⟨⟨⟨?_, ?_, .child ?_⟩, ?_, .target target⟩, ?_, .child ?_⟩
      · simp [Source.Linked, relationship, NodeKind.isEntry]
      · simp [target, NodeKind.isEntry]
      · rw [target, relationship]
        exact .target
      · simp [far, NodeKind.isEntry]
      · simp [owner, NodeKind.isEntry]
      · rw [relationship, owner]
        exact .relationship

theorem Step.byId {rows : Correlation} (step : Step rows) : rows.ById := by
  cases step <;> exact ⟨rfl, rfl⟩

/-- The selectors of a scope are of the kinds that their names tell. -/
structure Scope.Kinded (scope : Scope) : Prop where
  artifact : scope.artifact.kind = .artifact
  edge : ∀ edge ∈ scope.edge, edge.relationship.kind = .relationship ∧ edge.target.kind = .target

variable {env : Environment} {scope : Scope} {nested : Bool} {start finish : Aliases}

theorem Scope.Kinded.entryOf (kinded : scope.Kinded) {outer : Selector} {kind : NodeKind}
    (has : HasEntries scope outer kind) : kind.EntryOf outer.kind := by
  cases has with
  | artifact =>
      rw [kinded.artifact]
      exact .artifact
  | edge part leads =>
      rcases kinded.edge _ leads with ⟨relationship, target⟩
      cases part with
      | relationship =>
          rw [EdgePart.selector, relationship]
          exact .relationship
      | target =>
          rw [EdgePart.selector, target]
          exact .target

theorem expressible_of_tests {tested : Tested} {constraint : Constraint}
    (kinded : scope.Kinded) (testable : Testable scope start tested finish)
    (tests : Tests env tested constraint) : Expressible constraint := by
  cases testable with
  | direct property =>
      have single : Property.Single scope.artifact.kind (.core property) := by
        rw [kinded.artifact]
        exact .core property
      cases tests with
      | present => exact .present single
      | compared | matched => exact .comparison single
  | entries has probed =>
      rcases yields_probe.mp probed with ⟨rfl, -⟩
      have belongs := kinded.entryOf has
      cases tests with
      | present => exact @Expressible.probe _ none belongs
      | compared operator => exact @Expressible.probe _ (some (operator, _)) belongs
      | matched pattern => exact @Expressible.probe _ (some (.like, _)) belongs

theorem expressible_of_typeTest {relationship : Selector} {relationshipType : String}
    (kind : relationship.kind = .relationship) :
    Expressible (typeTest relationship relationshipType) := by
  have single : Property.Single relationship.kind .relationshipType := by
    rw [kind]
    exact .relationshipType
  exact .comparison single

/-- Every predicate is compiled to what both stores can express, up to keys. -/
theorem Built.expressible {constraint : Constraint}
    (built : Built env scope nested start constraint finish) (kinded : scope.Kinded) :
    Expressible constraint := by
  induction built with
  | test testable tests => exact expressible_of_tests kinded testable tests
  | classifier => exact .classifier
  | @hits scope =>
      have single : Property.Single scope.artifact.kind (.core .uuid) := by
        rw [kinded.artifact]
        exact .core .uuid
      exact .oneOf single
  | and _ _ leftIH rightIH => exact .and (leftIH kinded) (rightIH kinded)
  | or _ _ leftIH rightIH => exact .or (leftIH kinded) (rightIH kinded)
  | not _ ih => exact .not (ih kinded)
  | documents document owner =>
      exact .step (.documents (kind_of_fresh document) (kind_of_fresh owner))
  | documentsWith document _ owner ih =>
      have inside := ih ⟨kind_of_fresh document, by simp⟩
      exact .stepWith (.documents (kind_of_fresh document) (kind_of_fresh owner)) inside
  | relationships relationship owner =>
      have kind := kind_of_fresh relationship
      exact .stepWith (.relationships kind (kind_of_fresh owner)) (expressible_of_typeTest kind)
  | relationshipsWith relationship target far _ owner ih =>
      have kind := kind_of_fresh relationship
      have targetKind := kind_of_fresh target
      have inside := ih ⟨kind_of_fresh far, by simp [kind, targetKind]⟩
      exact .stepWith (.related kind targetKind (kind_of_fresh far) (kind_of_fresh owner))
        (.and (expressible_of_typeTest kind) inside)

/-! ## What plans are compiled to -/

theorem expressible_of_pathTests {root : Selector} (kind : root.kind = .artifact)
    {path : Query.LocationPath} :
    ∀ test ∈ pathTests env root path, Expressible test := by
  have each : ∀ (property : Property) (value : Value), Property.Single .artifact property →
      Expressible (.equals root property value) := by
    intro property value single
    rw [← kind] at single
    exact .comparison single
  intro test member
  rw [pathTests] at member
  split at member
  next =>
      split at member
      next =>
          simp only [List.mem_cons, List.not_mem_nil, or_false] at member
          rcases member with rfl | rfl
          · exact each _ _ .artifactModel
          · exact each _ _ (.core .extendedType)
      next =>
          cases List.mem_singleton.mp member
          exact each _ _ .artifactType
  next =>
      cases List.mem_singleton.mp member
      exact each _ _ .artifactModel
  next => exact absurd member List.not_mem_nil

/-- What the outermost level asks of a store. -/
structure Level.Expressible (level : Level) : Prop where
  linked : level.source.Linked
  kinded : level.scope.Kinded
  tests : ∀ test ∈ level.tests, Compile.Expressible test

theorem expressible_of_level {root : Selector} (kind : root.kind = .artifact) {query : Query}
    {after : Level} (run : Yields (level env root query) start after finish) :
    after.Expressible := by
  apply level_invariant (fun level _ => level.Expressible) run
  · refine ⟨?_, ⟨kind, by simp [Level.ofRoot, Level.add]⟩, ?_⟩
    · simp [Level.ofRoot, Level.add, Source.Linked, kind, NodeKind.isEntry]
    · intro test member
      exact expressible_of_pathTests kind test (by simpa [Level.ofRoot, Level.add] using member)
  · intro current aliases next constraint built holds
    refine ⟨holds.linked, holds.kinded, ?_⟩
    intro test member
    rcases List.mem_append.mp member with earlier | added
    · exact holds.tests test earlier
    · cases List.mem_singleton.mp added
      exact built.expressible holds.kinded
  · intro current aliases next document given holds
    have documentKind := kind_of_fresh given
    refine ⟨⟨holds.linked, ?_, .child ?_⟩, ⟨documentKind, by simp [Level.toDocument]⟩,
      holds.tests⟩
    · simp [documentKind, NodeKind.isEntry]
    · rw [holds.kinded.artifact, documentKind]
      exact .artifact
  · intro current aliases first second next edge far relationshipType relationship target given
      holds
    have relationshipKind := kind_of_fresh relationship
    have targetKind := kind_of_fresh target
    have farKind := kind_of_fresh given
    refine ⟨⟨⟨⟨holds.linked, ?_, .child ?_⟩, ?_, .child ?_⟩, ?_, .target targetKind⟩,
      ⟨farKind, ?_⟩, ?_⟩
    · simp [relationshipKind, NodeKind.isEntry]
    · rw [relationshipKind, holds.kinded.artifact]
      exact .relationship
    · simp [targetKind, NodeKind.isEntry]
    · rw [targetKind, relationshipKind]
      exact .target
    · simp [farKind, NodeKind.isEntry]
    · simp [Level.toFar, relationshipKind, targetKind]
    · intro test member
      rcases List.mem_append.mp member with earlier | added
      · exact holds.tests test earlier
      · cases List.mem_singleton.mp added
        exact expressible_of_typeTest relationshipKind

/-- The constraints of plans: what is asked of artifacts, and that some lie under a path. -/
inductive Guarded (path : String) : Constraint → Prop where
  | located {artifact : Selector} :
      artifact.kind = .artifact → Guarded path (.descendant artifact path)
  | both {left right : Constraint} :
      Guarded path left → Guarded path right → Guarded path (.and left right)
  | after {body trash : Constraint} :
      Expressible body → Guarded path trash → Guarded path (.and body trash)

end Compile

/-- What a plan asks of a store, with the path that live artifacts lie under. -/
structure Plan.Expressible (plan : Plan) (path : String) : Prop where
  linked : plan.source.Linked
  guarded : ∃ constraint, plan.constraint = some constraint ∧ Compile.Guarded path constraint
  ordering : ∀ order ∈ plan.ordering,
    Property.Single order.operand.selector.kind order.operand.property

namespace Compile

theorem guarded_liveTest {settings : Settings} {root column : Selector}
    (rootKind : root.kind = .artifact) (columnKind : column.kind = .artifact) :
    Guarded settings.artifactRoot (liveTest settings root column) := by
  rw [liveTest]
  split
  · exact .located rootKind
  · exact .both (.located rootKind) (.located columnKind)

theorem single_of_sortOrder {column : Selector} (kind : column.kind = .artifact)
    {order : Option OrderBy} {sorting : Option SortOrder}
    (sorted : sortOrder column order = .ok sorting) :
    ∀ ordering ∈ sorting,
      Property.Single ordering.operand.selector.kind ordering.operand.property := by
  cases order with
  | none =>
      cases sorted
      simp
  | some order =>
      simp only [sortOrder, exceptBind_eq_ok] at sorted
      rcases sorted with ⟨property, -, made⟩
      cases made
      intro ordering same
      cases same
      simp only [Selector.operand]
      rw [kind]
      exact .core property

/-- Compiled plans ask for nothing else. -/
theorem expressible_of_plan {query : Query} {order : Option OrderBy} {plan : Plan}
    (compiled : query.plan env order = .ok plan) :
    plan.Expressible env.settings.artifactRoot := by
  rcases plan_eq_ok_iff.mp compiled with ⟨-, level, finish, sorting, run, sorted, rfl⟩
  have rootKind := Aliases.kind_next {} .artifact
  have holds := expressible_of_level rootKind run
  have live : Guarded env.settings.artifactRoot (liveTest env.settings _ _) :=
    guarded_liveTest rootKind holds.kinded.artifact
  refine ⟨holds.linked, ?_, single_of_sortOrder holds.kinded.artifact sorted⟩
  simp only [Level.plan]
  cases all : Constraint.all level.tests with
  | none => exact ⟨_, rfl, live⟩
  | some body =>
      have asked := Constraint.joinAll_closed (fun _ _ => .and) holds.tests all
      exact ⟨_, rfl, .after asked live⟩

end Compile

end Sramp
