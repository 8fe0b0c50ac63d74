import Sramp.Engine

/-!
# Successful compilation

Compilation is a state monad over the aliases given so far, with failure.  This
module names its successful runs and says how a run of a composed action is put
together from runs of its parts.  Invariants of compilation are proved from these
rules, and never by unfolding the monad.
-/

namespace Sramp.Compile

open Query

variable {α β : Type} {start finish : Aliases}

/-- A sequence of fallible steps succeeds if both do. -/
theorem exceptBind_eq_ok {first : Except Error α} {next : α → Except Error β} {value : β} :
    first >>= next = .ok value ↔ ∃ inner, first = .ok inner ∧ next inner = .ok value := by
  cases first <;> simp [bind, Except.bind]

/-- A sequence of fallible steps fails as the first step that fails. -/
theorem exceptBind_eq_error {first : Except Error α} {next : α → Except Error β} {cause : Error} :
    first >>= next = .error cause ↔
      first = .error cause ∨ ∃ inner, first = .ok inner ∧ next inner = .error cause := by
  cases first <;> simp [bind, Except.bind]

theorem exceptMap_eq_ok {image : α → β} {result : Except Error α} {value : β} :
    image <$> result = .ok value ↔ ∃ inner, result = .ok inner ∧ image inner = value := by
  cases result <;> simp [Functor.map, Except.map]

/-- Whether a result is a success can be computed. -/
theorem exists_ok_of_isSome {result : Except Error α}
    (succeeds : result.toOption.isSome = true) : ∃ value, result = .ok value := by
  cases result with
  | error cause => simp [Except.toOption] at succeeds
  | ok value => exact ⟨value, rfl⟩

/-- Whether two results follow each other can be computed too. -/
theorem exists_ok_bind_of_isSome {first : Except Error α} {next : α → Except Error β}
    (succeeds : (first >>= next).toOption.isSome = true) :
    ∃ inner value, first = .ok inner ∧ next inner = .ok value := by
  rcases exists_ok_of_isSome succeeds with ⟨value, done⟩
  rcases exceptBind_eq_ok.mp done with ⟨inner, begun, ended⟩
  exact ⟨inner, value, begun, ended⟩

section Sequences

variable {σ : Type} {first : StateT σ (Except Error) α} {next : α → StateT σ (Except Error) β}
variable {state after : σ} {value : α} {cause : Error}

/-- After a success, a sequence goes on with what was reached. -/
theorem bind_of_ok (done : first state = .ok (value, after)) :
    (first >>= next) state = next value after := by
  simp only [bind, StateT.bind, Except.bind, done]

/-- A sequence fails with its first part. -/
theorem bind_of_error (failed : first state = .error cause) :
    (first >>= next) state = .error cause := by
  simp only [bind, StateT.bind, Except.bind, failed]

/-- A sequence fails if its first part does, or if that succeeds and its second part fails. -/
theorem bind_eq_error_iff :
    (first >>= next) state = .error cause ↔
      first state = .error cause ∨
        ∃ value after, first state = .ok (value, after) ∧ next value after = .error cause := by
  cases given : first state with
  | error fault => simp [bind_of_error given]
  | ok done =>
      obtain ⟨value, after⟩ := done
      simp [bind_of_ok given, and_assoc]

/-- What is made of a value does not fail. -/
theorem return_eq_error_iff {image : α → β} :
    (do return image (← first)) state = .error cause ↔ first state = .error cause := by
  rw [bind_eq_error_iff]
  constructor
  · intro failed
    obtain begun | ⟨_, _, -, made⟩ := failed
    · exact begun
    · cases made
  · exact Or.inl

/-- A connection fails if its first part does, or if that succeeds and its second part fails. -/
theorem connected_eq_error_iff {γ : Type} {second : StateT σ (Except Error) β}
    {connect : α → β → γ} :
    (do
        let one ← first
        let other ← second
        return connect one other) state = .error cause ↔
      first state = .error cause ∨
        ∃ value after, first state = .ok (value, after) ∧ second after = .error cause := by
  rw [bind_eq_error_iff]
  simp only [return_eq_error_iff]

end Sequences

/-- An action that starts from the aliases `start` gives a value and leaves the
aliases `finish`. -/
def Yields (action : Fresh α) (start : Aliases) (value : α) (finish : Aliases) : Prop :=
  action start = .ok (value, finish)

@[simp] theorem yields_pure {given value : α} :
    Yields (pure given) start value finish ↔ value = given ∧ finish = start := by
  have answer : (pure given : Fresh α) start = .ok (given, start) := rfl
  simp only [Yields, answer, Except.ok.injEq, Prod.mk.injEq]
  exact and_congr eq_comm eq_comm

/-- A sequence succeeds through an intermediate value and the aliases left there. -/
@[simp] theorem yields_bind {first : Fresh α} {next : α → Fresh β} {value : β} :
    Yields (first >>= next) start value finish ↔
      ∃ inner between, Yields first start inner between ∧
        Yields (next inner) between value finish := by
  simp only [Yields, bind, StateT.bind, Except.bind]
  cases first start with
  | error cause => simp
  | ok result =>
      rcases result with ⟨given, reached⟩
      simp [Prod.ext_iff, and_assoc]

@[simp] theorem yields_map {image : α → β} {action : Fresh α} {value : β} :
    Yields (image <$> action) start value finish ↔
      ∃ inner, Yields action start inner finish ∧ value = image inner := by
  rw [← bind_pure_comp, yields_bind]
  constructor
  · intro mapped
    rcases mapped with ⟨inner, _, run, rfl, rfl⟩
    exact ⟨inner, run, rfl⟩
  · intro run
    rcases run with ⟨inner, run, rfl⟩
    exact ⟨inner, finish, run, yields_pure.mpr ⟨rfl, rfl⟩⟩

/-- A connection succeeds if both of its parts do. -/
theorem yields_connected {γ : Type} {first : Fresh α} {second : Fresh β} {connect : α → β → γ}
    {value : γ} :
    Yields (do
        let one ← first
        let other ← second
        return connect one other) start value finish ↔
      ∃ one between other, Yields first start one between ∧ Yields second between other finish ∧
        value = connect one other := by
  simp only [yields_bind, yields_pure]
  constructor
  · intro run
    obtain ⟨one, between, begun, other, _, ended, rfl, rfl⟩ := run
    exact ⟨one, between, other, begun, ended, rfl⟩
  · intro parts
    obtain ⟨one, between, other, begun, ended, rfl⟩ := parts
    exact ⟨one, between, begun, other, finish, ended, rfl, rfl⟩

theorem yields_ite {condition : Prop} [Decidable condition] {first second : Fresh α}
    {value : α} :
    Yields (if condition then first else second) start value finish ↔
      if condition then Yields first start value finish
      else Yields second start value finish := by
  split <;> rfl

@[simp] theorem yields_fresh {kind : NodeKind} {selector : Selector} :
    Yields (fresh kind) start selector finish ↔
      selector = start.next kind ∧ finish = start.bump (.ofKind kind) := by
  simp only [Yields, fresh, Except.ok.injEq, Prod.mk.injEq]
  exact and_congr eq_comm eq_comm

@[simp] theorem not_yields_refuse {error : Error} {value : α} :
    ¬Yields (refuse error) start value finish := by
  simp [Yields, refuse]

@[simp] theorem not_yields_unsupported {cause : Unsupported} {fragment : String} {value : α} :
    ¬Yields (unsupported cause fragment) start value finish :=
  not_yields_refuse

/-- Asking a service gives no aliases. -/
@[simp] theorem yields_answer {result : Except Error α} {value : α} :
    Yields (answer result) start value finish ↔ result = .ok value ∧ finish = start := by
  cases result with
  | error cause => simp [Yields, answer, Except.map]
  | ok given =>
      simp only [Yields, answer, Except.map, Except.ok.injEq, Prod.mk.injEq]
      exact and_congr Iff.rfl eq_comm

/-- A probe takes an alias for its owner and then one for the entry. -/
@[simp] theorem yields_probe {outer : Selector} {kind : NodeKind} {key : String}
    {given : Probe} :
    Yields (probe outer kind key) start given finish ↔
      given = ⟨outer, start.next outer.kind,
        (start.bump (.ofKind outer.kind)).next kind, key⟩ ∧
      finish = (start.bump (.ofKind outer.kind)).bump (.ofKind kind) := by
  simp only [probe, yields_bind, yields_fresh, yields_pure]
  constructor
  · intro probed
    rcases probed with ⟨_, _, ⟨rfl, rfl⟩, _, _, ⟨rfl, rfl⟩, rfl, rfl⟩
    exact ⟨rfl, rfl⟩
  · intro found
    rcases found with ⟨rfl, rfl⟩
    exact ⟨_, _, ⟨rfl, rfl⟩, _, _, ⟨rfl, rfl⟩, rfl, rfl⟩

/-- A property test is direct for a core property and a probe otherwise. -/
theorem yields_testedProperty {scope : Scope} {name : QName} {tested : Tested} :
    Yields (testedProperty scope name) start tested finish ↔
      name.isSramp = true ∧
      ((∃ property, CoreProperty.ofLocalName? name.localName = some property ∧
          tested = .direct (scope.artifact.operand (.core property)) ∧ finish = start) ∨
        (CoreProperty.ofLocalName? name.localName = none ∧
          ∃ found, tested = .entries found ∧
            Yields (probe scope.artifact .propertyEntry name.localName) start found
              finish)) := by
  rw [testedProperty]
  split
  next foreign => simp_all
  next inVocabulary =>
      cases CoreProperty.ofLocalName? name.localName with
      | none => simp_all [and_comm]
      | some property => simp_all

/-- What an engine compiles with that has the default configuration, and services that
know the fixed artifact types only. -/
def Environment.bare : Environment :=
  Engine.environment ⟨⟨fun _ => .ok .empty, ArtifactType.ofName, fun _ _ => .ok []⟩, {}⟩

/-- `/s-ramp[includes[@status] and (@name or @status)]/relatedDocument` -/
def sampleQuery : Query where
  path := ⟨none, none⟩
  predicate := some (.chain
    (.single (.subartifacts (.relationship "includes"
      (some (.single (.single (.test (.property (.plain "status")) none)))) none)))
    (.single (.single (.grouped (.single (.chain (.test (.property (.plain "name")) none)
      (.single (.test (.property (.plain "status")) none))))))))
  subartifacts := some (.relationship "relatedDocument" none none)

/-- A plan consists of a compiled outermost level, whose column bears the ordering. -/
theorem plan_eq_ok_iff {env : Environment} {query : Query} {order : Option OrderBy}
    {plan : Plan} :
    query.plan env order = .ok plan ↔
      env.settings.fault? = none ∧ ∃ outermost finish sorting,
        Yields (level env (Aliases.next {} .artifact) query) (Aliases.bump {} .artifact)
          outermost finish ∧
        sortOrder outermost.scope.artifact order = .ok sorting ∧
        plan = outermost.plan env.settings (Aliases.next {} .artifact) sorting := by
  rw [Query.plan]
  cases env.settings.fault? with
  | some fault => simp
  | none =>
      simp only [exceptBind_eq_ok, StateT.run, Yields, true_and]
      constructor
      · intro compiled
        rcases compiled with ⟨⟨outermost, finish⟩, run, sorting, sorted, made⟩
        exact ⟨outermost, finish, sorting, run, sorted, (Except.ok.inj made).symm⟩
      · intro level
        rcases level with ⟨outermost, finish, sorting, run, sorted, rfl⟩
        exact ⟨(outermost, finish), run, sorting, sorted, rfl⟩

end Sramp.Compile
