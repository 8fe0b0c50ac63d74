import Sramp.Proofs.Compile.Shape

/-!
# The outermost level of a plan

How the outermost level grows: a predicate adds one constraint to it, and the step
after the artifact set joins to its source and moves its scope.  Properties of the
finished level are proved as invariants that both keep.
-/

namespace Sramp.Compile

open Query

variable {env : Environment} {before after : Level} {start finish : Aliases}

/-- The level whose artifact has been left for the document it was derived from. -/
def Level.toDocument (level : Level) (document : Selector) : Level :=
  { level with
    source := level.source.joinParent document level.scope.artifact
    scope := ⟨document, none⟩ }

/-- The level whose artifact has been left for one that a relationship leads to. -/
def Level.toFar (level : Level) (relationshipType : String) (edge : Edge) (far : Selector) :
    Level where
  source := joinFar (level.source.joinChild edge.relationship level.scope.artifact) edge far
  scope := ⟨far, some edge⟩
  tests := level.tests ++ [typeTest edge.relationship relationshipType]

/-- The tests of a location path compare properties of the root with texts. -/
theorem equals_of_pathTests {root : Selector} {path : LocationPath} {test : Constraint}
    (member : test ∈ pathTests env root path) :
    ∃ property value, test = .equals root property value := by
  rw [pathTests] at member
  split at member
  next =>
      split at member
      next =>
          simp only [List.mem_cons, List.not_mem_nil, or_false] at member
          rcases member with rfl | rfl
          · exact ⟨_, _, rfl⟩
          · exact ⟨_, _, rfl⟩
      next => exact ⟨_, _, List.mem_singleton.mp member⟩
  next => exact ⟨_, _, List.mem_singleton.mp member⟩
  next => exact absurd member List.not_mem_nil

theorem yields_restrict {predicate : Option Expr} :
    Yields (restrict env before predicate) start after finish ↔
      match predicate with
      | none => after = before ∧ finish = start
      | some predicate => ∃ constraint, after = before.add [constraint] ∧
          Yields (predicate.constraint env before.scope false) start constraint finish := by
  cases predicate <;> simp [restrict, and_comm]

/-- Which level a traversal leads to. -/
theorem yields_traverse {relationshipType : String} :
    Yields (traverse env before relationshipType) start after finish ↔
      if env.settings.isDerived relationshipType then
        ∃ document, after = before.toDocument document ∧
          Yields (fresh .artifact) start document finish
      else
        ∃ edge far first second, after = before.toFar relationshipType edge far ∧
          Yields (fresh .relationship) start edge.relationship first ∧
          Yields (fresh .target) first edge.target second ∧
          Yields (fresh .artifact) second far finish := by
  rw [traverse]
  dsimp only
  split
  next => simp [Level.toDocument, and_comm]
  next =>
      simp only [yields_bind, yields_pure, yields_fresh]
      constructor
      · intro traversed
        rcases traversed with
          ⟨relationship, _, ⟨rfl, rfl⟩, target, _, ⟨rfl, rfl⟩, far, _, ⟨rfl, rfl⟩, rfl, rfl⟩
        exact ⟨⟨_, _⟩, _, _, _, rfl, ⟨rfl, rfl⟩, ⟨rfl, rfl⟩, rfl, rfl⟩
      · intro moved
        rcases moved with ⟨⟨relationship, target⟩, far, _, _, rfl, ⟨rfl, rfl⟩, ⟨rfl, rfl⟩, rfl, rfl⟩
        exact ⟨_, _, ⟨rfl, rfl⟩, _, _, ⟨rfl, rfl⟩, _, _, ⟨rfl, rfl⟩, rfl, rfl⟩

/-- The step after an artifact set is a single relationship, if there is one. -/
theorem yields_step {set : Option SubartifactSet} :
    Yields (step env before set) start after finish ↔
      match set with
      | none => after = before ∧ finish = start
      | some (.relationship relationshipType predicate none) => ∃ moved between,
          Yields (traverse env before relationshipType) start moved between ∧
          Yields (restrict env moved predicate) between after finish
      | some _ => False := by
  match set with
  | none => simp [step]
  | some (.relationship relationshipType predicate none) => simp [step]
  | some (.relationship relationshipType predicate (some next)) => simp [step]
  | some (.call call) => simp [step]

/-- A level is restricted, moved and restricted again. -/
theorem yields_level {root : Selector} {query : Query} :
    Yields (level env root query) start after finish ↔
      ∃ middle between,
        Yields (restrict env ((Level.ofRoot root).add (pathTests env root query.path))
          query.predicate) start middle between ∧
        Yields (step env middle query.subartifacts) between after finish := by
  simp [level]

/-- What holds of the level of the root, and is kept by restriction and traversal,
holds of every finished level. -/
theorem level_invariant {root : Selector} {query : Query} (Holds : Level → Aliases → Prop)
    (run : Yields (level env root query) start after finish)
    (begins : Holds ((Level.ofRoot root).add (pathTests env root query.path)) start)
    (restricts : ∀ {current : Level} {aliases next : Aliases} {constraint : Constraint},
      Built env current.scope false aliases constraint next →
      Holds current aliases → Holds (current.add [constraint]) next)
    (derives : ∀ {current : Level} {aliases next : Aliases} {document : Selector},
      Yields (fresh .artifact) aliases document next →
      Holds current aliases → Holds (current.toDocument document) next)
    (leads : ∀ {current : Level} {aliases first second next : Aliases} {edge : Edge}
        {far : Selector} {relationshipType : String},
      Yields (fresh .relationship) aliases edge.relationship first →
      Yields (fresh .target) first edge.target second →
      Yields (fresh .artifact) second far next →
      Holds current aliases → Holds (current.toFar relationshipType edge far) next) :
    Holds after finish := by
  have kept : ∀ {current : Level} {aliases : Aliases} {predicate : Option Expr}
      {later : Level} {next : Aliases},
      Yields (restrict env current predicate) aliases later next →
      Holds current aliases → Holds later next := by
    intro current aliases predicate later next restricted holds
    rw [yields_restrict] at restricted
    match predicate with
    | none =>
        rcases restricted with ⟨rfl, rfl⟩
        exact holds
    | some predicate =>
        rcases restricted with ⟨constraint, rfl, compiled⟩
        exact restricts (predicate.built compiled) holds
  rcases yields_level.mp run with ⟨middle, between, first, last⟩
  have holds := kept first begins
  rw [yields_step] at last
  split at last
  next =>
      rcases last with ⟨rfl, rfl⟩
      exact holds
  next relationshipType predicate _ =>
      rcases last with ⟨moved, reached, moves, restricted⟩
      apply kept restricted
      rw [yields_traverse] at moves
      split at moves
      next =>
          rcases moves with ⟨document, rfl, given⟩
          exact derives given holds
      next =>
          rcases moves with ⟨edge, far, _, _, rfl, relationship, target, given⟩
          exact leads relationship target given holds
  next => exact last.elim

/-- The source of a finished level and the selector of its results: the root alone,
or the root with the selectors of the one step that leads away from it. -/
inductive Traversed (settings : Settings) (root : Selector) :
    Option SubartifactSet → Source → Selector → Prop where
  | stays : Traversed settings root none (.single root) root
  | derived {relationshipType : String} {predicate : Option Expr} {document : Selector} :
      settings.isDerived relationshipType = true →
      Traversed settings root (some (.relationship relationshipType predicate none))
        ((Source.single root).joinParent document root) document
  | related {relationshipType : String} {predicate : Option Expr} {edge : Edge}
      {far : Selector} :
      settings.isDerived relationshipType = false →
      Traversed settings root (some (.relationship relationshipType predicate none))
        (joinFar ((Source.single root).joinChild edge.relationship root) edge far) far

theorem Traversed.root_eq {settings : Settings} {root column : Selector}
    {set : Option SubartifactSet} {source : Source}
    (traversed : Traversed settings root set source column) : source.root = root := by
  cases traversed <;> rfl

/-- A predicate leaves the source and the scope of its level alone. -/
theorem sameSource_of_restrict {predicate : Option Expr}
    (run : Yields (restrict env before predicate) start after finish) :
    after.source = before.source ∧ after.scope = before.scope := by
  rw [yields_restrict] at run
  cases predicate with
  | none =>
      rcases run with ⟨rfl, -⟩
      exact ⟨rfl, rfl⟩
  | some predicate =>
      rcases run with ⟨constraint, rfl, -⟩
      exact ⟨rfl, rfl⟩

/-- Only the step after the artifact set joins to the root. -/
theorem traversed_of_level {root : Selector} {query : Query}
    (run : Yields (level env root query) start after finish) :
    Traversed env.settings root query.subartifacts after.source after.scope.artifact := by
  rcases yields_level.mp run with ⟨middle, between, first, last⟩
  rcases sameSource_of_restrict first with ⟨sameSource, sameScope⟩
  rw [yields_step] at last
  split at last
  next absent =>
      rcases last with ⟨rfl, -⟩
      rw [absent, sameSource, sameScope]
      exact .stays
  next relationshipType predicate one =>
      rcases last with ⟨moved, reached, moves, restricted⟩
      rcases sameSource_of_restrict restricted with ⟨movedSource, movedScope⟩
      rw [one, movedSource, movedScope]
      rw [yields_traverse] at moves
      split at moves
      next isDerived =>
          rcases moves with ⟨document, rfl, -⟩
          rw [Level.toDocument, sameSource, sameScope]
          exact .derived isDerived
      next isRelated =>
          rcases moves with ⟨edge, far, _, _, rfl, -⟩
          rw [Level.toFar, sameSource, sameScope]
          exact .related (Bool.eq_false_iff.mpr isRelated)
  next => exact last.elim

end Sramp.Compile
