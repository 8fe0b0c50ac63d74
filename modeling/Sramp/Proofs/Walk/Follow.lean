import Sramp.Proofs.Compile.Run
import Sramp.Proofs.Walk.Visit

/-!
# Following a compilation

A visit follows a compilation if it gives the same aliases, fails with the same error, and
otherwise puts the compiled value into the walk and leaves the rest as it was.  This module
says when a visit does so, and how a sequence of visits follows a sequence of compilations
part by part.
-/

namespace Sramp.Compile

open Query

variable {α β γ δ : Type} {env : Environment} {walk : Walk}

namespace Walk

/-- What becomes of a walk when an action that compiles something gives its aliases, and its
value is then put into the walk. -/
def follow (walk : Walk) (conclude : γ → Walk → β × Walk) (result : Fresh γ) :
    Except Error (β × Walk) :=
  (result walk.aliases).map fun (value, aliases) => conclude value (walk.withAliases aliases)

/-- The walk with a constraint more. -/
def gain (constraint : Constraint) (walk : Walk) : Unit × Walk :=
  ((), walk.collect [constraint])

/-- The walk with a constraint more, or with a probe as the subject at hand. -/
def settle : Outcome → Walk → Finish × Walk
  | .settled constraint, walk => (.constraint, walk.collect [constraint])
  | .entries found, walk => (.subject, walk.leave (.entries found))

section Follow

variable {conclude : γ → Walk → β × Walk} {first : Fresh α} {result : α → Fresh γ}

theorem follow_of_ok {value : γ} {aliases : Aliases} {result : Fresh γ}
    (done : result walk.aliases = .ok (value, aliases)) :
    walk.follow conclude result = .ok (conclude value (walk.withAliases aliases)) := by
  simp [follow, done, Except.map]

theorem follow_of_error {cause : Error} {result : Fresh γ}
    (failed : result walk.aliases = .error cause) :
    walk.follow conclude result = .error cause := by
  simp [follow, failed, Except.map]

theorem follow_eq_ok_iff {reached : β × Walk} {result : Fresh γ} :
    walk.follow conclude result = .ok reached ↔
      ∃ value aliases, Yields result walk.aliases value aliases ∧
        conclude value (walk.withAliases aliases) = reached := by
  cases given : result walk.aliases with
  | error cause => simp [follow_of_error given, Yields, given]
  | ok done =>
      rw [follow_of_ok given]
      constructor
      · intro same
        exact ⟨done.1, done.2, given, Except.ok.inj same⟩
      · intro run
        obtain ⟨value, aliases, run, same⟩ := run
        cases Except.ok.inj (given.symm.trans run)
        exact congrArg Except.ok same

theorem follow_eq_error_iff {cause : Error} {result : Fresh γ} :
    walk.follow conclude result = .error cause ↔ result walk.aliases = .error cause := by
  cases given : result walk.aliases with
  | error fault => simp [follow_of_error given]
  | ok done => simp [follow_of_ok given]

/-- A sequence of visits follows a sequence of compilations part by part.  The parts may follow
in walks that differ, as long as they have given the same aliases. -/
theorem bind_eq_follow {visit : Visit δ} {next : δ → Visit β} {put : α → Walk → δ × Walk}
    {start inner outer : Walk} (visited : visit start = inner.follow put first)
    (same : inner.aliases = outer.aliases)
    (follows : ∀ value aliases,
      next (put value (inner.withAliases aliases)).1 (put value (inner.withAliases aliases)).2 =
        (outer.withAliases aliases).follow conclude (result value)) :
    (visit >>= next) start = outer.follow conclude (first >>= result) := by
  cases given : first outer.aliases with
  | error cause =>
      rw [follow_of_error (bind_of_error given)]
      rw [← same] at given
      exact bind_of_error (visited.trans (follow_of_error given))
  | ok done =>
      cases done with
      | mk value aliases =>
          have concluded : outer.follow conclude (first >>= result) =
              (outer.withAliases aliases).follow conclude (result value) := by
            simp only [follow, bind_of_ok given]
            rfl
          rw [concluded, ← follows]
          rw [← same] at given
          exact bind_of_ok (visited.trans (follow_of_ok given))

end Follow

/-- No test is at hand, and an edge is known at both ends or not at all. -/
structure Ready (walk : Walk) : Prop where
  tested : walk.top.tested = none
  value : walk.top.value = none
  edge : walk.top.relationship.isSome = walk.top.target.isSome

/-- The last constraint and the aliases of a walk can be told from it. -/
theorem collect_inj {first second : Constraint} {start finish : Aliases}
    (same : (walk.withAliases start).collect [first] =
      (walk.withAliases finish).collect [second]) : first = second ∧ start = finish := by
  have tops : walk.top.collect [first] = walk.top.collect [second] := by
    simpa using congrArg top same
  have lists := List.append_cancel_left (congrArg Frame.constraints tops)
  exact ⟨List.head_eq_of_cons_eq lists, congrArg Walk.aliases same⟩

namespace Ready

/-- A new frame is ready. -/
theorem push (walk : Walk) (scope : Scope) : (walk.push (.ofScope scope)).Ready where
  tested := rfl
  value := rfl
  edge := by
    cases scope with
    | mk artifact edge => cases edge <;> rfl

theorem isolated (ready : walk.Ready) : walk.isolated.Ready where
  tested := rfl
  value := rfl
  edge := ready.edge

theorem withAliases (ready : walk.Ready) (aliases : Aliases) :
    (walk.withAliases aliases).Ready :=
  ⟨ready.tested, ready.value, ready.edge⟩

theorem collect (ready : walk.Ready) (tests : List Constraint) : (walk.collect tests).Ready where
  tested := by simp [Frame.collect, ready.tested]
  value := by simp [Frame.collect, ready.value]
  edge := by simp [Frame.collect, ready.edge]

/-- Without a test at hand, settling the innermost frame changes nothing. -/
theorem update_settled (ready : walk.Ready) : walk.update Frame.settled = walk := by
  apply update_eq_self
  have kept := ready.tested
  have empty := ready.value
  cases top : walk.top
  simp_all [Frame.settled]

/-- A test at hand is forgotten when the innermost frame is settled. -/
theorem settled_update (ready : walk.Ready) {change : Frame → Frame}
    (forgotten : Frame.settled ∘ change = Frame.settled) :
    (walk.update change).update Frame.settled = walk := by
  rw [update_update, forgotten, ready.update_settled]

end Ready

end Walk

/-- From any ready walk, a visit follows what is compiled in the scope reached and adds it. -/
def Adds (visit : Visit Unit) (result : Scope → Bool → Fresh Constraint) : Prop :=
  ∀ walk : Walk, walk.Ready → visit walk = walk.follow Walk.gain (result walk.scope walk.nested)

/-- From any ready walk, a visit of a call follows what the call is compiled to. -/
def Settles (visit : Visit Finish) (result : Scope → Bool → Fresh Outcome) : Prop :=
  ∀ walk : Walk, walk.Ready → visit walk = walk.follow Walk.settle (result walk.scope walk.nested)

namespace Visit

variable {next : α → Visit β}

/-- A sequence that starts with an action that gives aliases follows a compilation that does. -/
theorem allocate_bind_eq_follow {conclude : γ → Walk → β × Walk} {first : Fresh α}
    {result : α → Fresh γ}
    (follows : ∀ value aliases, next value (walk.withAliases aliases) =
      (walk.withAliases aliases).follow conclude (result value)) :
    (allocate first >>= next) walk = walk.follow conclude (first >>= result) := by
  have given : allocate first walk = walk.follow Prod.mk first := rfl
  exact Walk.bind_eq_follow given rfl follows

end Visit

section Sequences

variable {visit : Visit Unit} {result : Scope → Bool → Fresh Constraint}

/-- A visit that adds a constraint succeeds exactly if compilation does; it adds what is
compiled, and gives the same aliases. -/
theorem Adds.eq_ok_iff (adds : Adds visit result) (ready : walk.Ready) {after : Walk} :
    visit walk = .ok ((), after) ↔
      ∃ constraint aliases,
        Yields (result walk.scope walk.nested) walk.aliases constraint aliases ∧
          (walk.withAliases aliases).collect [constraint] = after := by
  rw [adds walk ready, Walk.follow_eq_ok_iff]
  constructor
  · intro done
    obtain ⟨constraint, aliases, run, same⟩ := done
    exact ⟨constraint, aliases, run, congrArg Prod.snd same⟩
  · intro compiled
    obtain ⟨constraint, aliases, run, same⟩ := compiled
    exact ⟨constraint, aliases, run, congrArg (Prod.mk ()) same⟩

/-- A visit adds a constraint exactly if that is compiled. -/
theorem Adds.yields_iff (adds : Adds visit result) (ready : walk.Ready) {constraint : Constraint}
    {aliases : Aliases} :
    visit walk = .ok ((), (walk.withAliases aliases).collect [constraint]) ↔
      Yields (result walk.scope walk.nested) walk.aliases constraint aliases := by
  rw [adds.eq_ok_iff ready]
  constructor
  · intro compiled
    obtain ⟨other, reached, run, same⟩ := compiled
    obtain ⟨rfl, rfl⟩ := Walk.collect_inj same
    exact run
  · intro run
    exact ⟨constraint, aliases, run, rfl⟩

/-- A visit that adds a constraint fails exactly if compilation does, and with the same
error. -/
theorem Adds.eq_error_iff (adds : Adds visit result) (ready : walk.Ready) {cause : Error} :
    visit walk = .error cause ↔ result walk.scope walk.nested walk.aliases = .error cause := by
  rw [adds walk ready, Walk.follow_eq_error_iff]

/-- What goes on after a visit in a walk `inner` follows a compilation in a walk `outer`, from
which `inner` differs in the innermost frames and in the depth only. -/
theorem Adds.bind_eq_follow (adds : Adds visit result) {inner : Walk} (ready : inner.Ready)
    (outer : Walk) {scope : Scope} {nested : Bool} (aliases_eq : inner.aliases = outer.aliases)
    (scope_eq : inner.scope = scope) (nested_eq : inner.nested = nested)
    {next : Unit → Visit β} {conclude : γ → Walk → β × Walk} {finish : Constraint → Fresh γ}
    (follows : ∀ constraint aliases, next () ((inner.withAliases aliases).collect [constraint]) =
      (outer.withAliases aliases).follow conclude (finish constraint)) :
    (visit >>= next) inner = outer.follow conclude (result scope nested >>= finish) := by
  have visited := adds inner ready
  rw [scope_eq, nested_eq] at visited
  exact Walk.bind_eq_follow visited aliases_eq follows

/-- What goes on after a visit of a call adds a constraint if it does so after a constraint and
with a probe at hand. -/
theorem Settles.bind_adds {visit : Visit Finish} {result : Scope → Bool → Fresh Outcome}
    {next : Finish → Visit Unit} {finish : Outcome → Fresh Constraint}
    (settles : Settles visit result)
    (settled : ∀ (walk : Walk) (constraint : Constraint), next .constraint
      (walk.collect [constraint]) = walk.follow Walk.gain (finish (.settled constraint)))
    (entries : ∀ walk : Walk, walk.Ready → ∀ found : Probe, next .subject
      (walk.leave (.entries found)) = walk.follow Walk.gain (finish (.entries found))) :
    Adds (visit >>= next) (fun scope nested => result scope nested >>= finish) := by
  intro walk ready
  apply Walk.bind_eq_follow (settles walk ready) rfl
  intro outcome aliases
  cases outcome with
  | settled constraint => exact settled _ constraint
  | entries found => exact entries _ (ready.withAliases aliases) found

/-- A visit that adds a constraint leaves nothing for the enclosing test. -/
theorem Adds.settles (adds : Adds visit result) :
    Settles (do
        visit
        return .constraint)
      (fun scope nested => do return .settled (← result scope nested)) := by
  intro walk ready
  apply adds.bind_eq_follow ready walk rfl rfl rfl
  intro constraint aliases
  rfl

end Sequences

end Sramp.Compile
