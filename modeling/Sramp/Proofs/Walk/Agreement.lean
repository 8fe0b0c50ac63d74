import Sramp.Proofs.Compile.Acceptance
import Sramp.Proofs.Walk.Follow

/-!
# A walk compiles

A visit that starts without a test at hand adds exactly the constraint that the expression is
compiled to, gives the same aliases, and fails with the same error; everything else in the
walk is left as it was.  So a walk over a query ends with the plan of the query, and the
checks it makes on what its frames have collected never fail.
-/

namespace Sramp.Compile

open Query

variable {β γ : Type} {env : Environment} {walk : Walk}

namespace Visit

/-- A subject at hand becomes a constraint. -/
theorem finishTest_none (ready : walk.Ready) (tested : Tested) (fragment : String) :
    finishTest none fragment (walk.leave tested) = .ok (Walk.gain tested.exists? walk) := by
  have settled : (walk.leave tested).update Frame.settled = walk := ready.settled_update rfl
  simp [finishTest, settled, Walk.gain]

/-- A subject and a value at hand become a comparison. -/
theorem finishTest_some (ready : walk.Ready) (tested : Tested) (operator : Operator)
    (value : Value) (fragment : String) :
    finishTest (some operator) fragment
        ((walk.leave tested).update fun frame => { frame with value := some value }) =
      .ok (Walk.gain (tested.compare operator value) walk) := by
  have settled : ((walk.leave tested).update fun frame =>
      { frame with value := some value }).update Frame.settled = walk := by
    rw [Walk.leave, Walk.update_update]
    exact ready.settled_update rfl
  simp [finishTest, settled, Walk.gain]

/-- A test is finished as it is compiled. -/
theorem finishComparison_eq (ready : walk.Ready) (tested : Tested) (fragment : String)
    (comparison : Option (Operator × Primary)) :
    finishComparison env fragment comparison (walk.leave tested) =
      walk.follow Walk.gain (testConstraint env tested comparison) := by
  cases comparison with
  | none => exact finishTest_none ready tested fragment
  | some compared =>
      cases compared with
      | mk operator right =>
          simp only [finishComparison, testConstraint, top_bind, Walk.top_leave, Option.map_some]
          cases Value.coerce (some tested.property) right env.dateFormat with
          | error cause => rfl
          | ok value => exact finishTest_some ready tested operator value fragment

/-- A property that is tested without a comparison or with one. -/
theorem adds_property (name : QName) (fragment : String)
    (comparison : Option (Operator × Primary)) :
    Adds (do
        property name
        finishComparison env fragment comparison)
      (fun scope _ => do
        let tested ← testedProperty scope name
        testConstraint env tested comparison) := by
  intro walk ready
  simp only [property, bind_assoc, top_bind]
  apply allocate_bind_eq_follow
  intro tested aliases
  rw [leave_bind]
  exact finishComparison_eq (ready.withAliases aliases) tested fragment comparison

/-- A property that is matched with a pattern. -/
theorem adds_matched (name : QName) (pattern : Value) (fragment : String) :
    Adds (do
        property name
        change (·.update fun frame => { frame with value := some pattern })
        finishTest (some .like) fragment)
      (fun scope _ => do
        let tested ← testedProperty scope name
        return tested.compare .like pattern) := by
  intro walk ready
  simp only [property, bind_assoc, top_bind]
  apply allocate_bind_eq_follow
  intro tested aliases
  rw [leave_bind, change_bind]
  exact finishTest_some (ready.withAliases aliases) tested .like pattern fragment

/-- Under valid settings there is always a group of hits to add. -/
theorem adds_fullText (valid : env.settings.Valid) (pattern : String) :
    Adds (fullText env pattern) (fun scope _ => fullTextTest env scope pattern) := by
  intro walk _
  apply allocate_bind_eq_follow
  intro ids aliases
  have hits : Constraint.any (hitTests walk.scope env.settings.chunkSize ids) ≠ none := by
    intro none
    exact hitTests_ne_nil valid.chunkSize_pos ids (Constraint.joinAll_eq_none_iff.mp none)
  obtain ⟨group, made⟩ := Option.ne_none_iff_exists'.mp hits
  have same : (walk.withAliases aliases).top.scope = walk.scope := rfl
  rw [top_bind, same, made]
  rfl

end Visit

section Calls

open Visit

variable {visit : Visit Unit} {result : Scope → Bool → Fresh Constraint}

/-- A test for classes is added as it is compiled. -/
theorem Visit.classification_eq (any normalized : Bool) (call : FunctionCall) (walk : Walk) :
    classification env any normalized call walk = walk.follow Walk.settle (do
      return .settled (← classificationTest env walk.scope any normalized call)) := by
  rw [classification, top_bind]
  apply allocate_bind_eq_follow
  intro constraint aliases
  rfl

theorem settles_classification (any normalized : Bool) (call : FunctionCall) :
    Settles (classification env any normalized call) (fun scope _ => do
      return .settled (← classificationTest env scope any normalized call)) :=
  fun walk _ => classification_eq any normalized call walk

/-- A part of the edge is known exactly if the edge is. -/
theorem part_eq (ready : walk.Ready) (part : EdgePart) :
    walk.top.part part = walk.scope.edge.map part.selector := by
  have both := ready.edge
  unfold Walk.scope Frame.scope
  cases relationship : walk.top.relationship <;> cases target : walk.top.target <;>
    cases part <;> simp_all [Frame.part, EdgePart.selector]

theorem settles_edgeAttribute (part : EdgePart) (call : FunctionCall) :
    Settles (edgeAttribute part call) (fun scope _ => do
      return .entries (← attributeProbe scope part call)) := by
  intro walk ready
  simp only [edgeAttribute, attributeProbe]
  match call.arguments with
  | [_, key] =>
      simp only [bind_assoc]
      apply allocate_bind_eq_follow
      intro text aliases
      have same : (walk.withAliases aliases).scope = walk.scope := rfl
      rw [top_bind, part_eq (ready.withAliases aliases), same]
      cases walk.scope.edge with
      | none => rfl
      | some edge =>
          apply allocate_bind_eq_follow
          intro found given
          rfl
  | [] | [_] | _ :: _ :: _ :: _ => rfl

theorem settles_matching (valid : env.settings.Valid) (call : FunctionCall) :
    Settles (matching env call) (fun scope _ => do
      return .settled (← matchTest env scope call)) := by
  intro walk ready
  simp only [matching, matchTest]
  match call.arguments with
  | [subject, pattern] =>
      simp only [bind_assoc]
      apply allocate_bind_eq_follow
      intro text aliases
      split
      next => exact (adds_fullText valid text).settles _ (ready.withAliases aliases)
      next =>
          simp only [bind_assoc]
          apply allocate_bind_eq_follow
          intro name given
          have matched := (adds_matched name (.string (likePattern text)) call.text).settles _
            ((ready.withAliases aliases).withAliases given)
          simp only [bind_assoc] at matched
          exact matched
  | [] | [_] | _ :: _ :: _ :: _ => rfl

/-- An expression is negated in a frame of its own. -/
theorem Adds.negated (adds : Adds visit result) (fragment : String) :
    Settles (negated fragment visit) (fun scope nested => do
      return .settled (.not (← result scope nested))) := by
  intro walk ready
  rw [Visit.negated, change_bind]
  apply adds.bind_eq_follow ready.isolated walk rfl rfl rfl
  intro constraint aliases
  rfl

/-- Both sides of a connective are visited in one frame of their own. -/
theorem Adds.connected {right : Visit Unit} {other : Scope → Bool → Fresh Constraint}
    {join : List Constraint → Option Constraint} {connect : Constraint → Constraint → Constraint}
    (joins : ∀ first second, join [first, second] = some (connect first second))
    (adds : Adds visit result) (follows : Adds right other) (fragment : String) :
    Adds (Visit.connected join fragment visit right) (fun scope nested => do
      let first ← result scope nested
      let second ← other scope nested
      return connect first second) := by
  intro walk ready
  rw [Visit.connected, change_bind]
  apply adds.bind_eq_follow ready.isolated walk rfl rfl rfl
  intro first aliases
  -- The right side is visited in the frame that has collected the left one.
  apply follows.bind_eq_follow ((ready.isolated.withAliases aliases).collect [first])
    (walk.withAliases aliases) rfl rfl rfl
  intro second aliases
  have combined : combine join fragment [first, second] = collect [connect first second] := by
    rw [combine, joins]
  exact congrFun combined _

/-- The predicate of a step adds one constraint, in the scope that the step leads to. -/
theorem Adds.inside_bind {next : List Constraint → Visit β} {conclude : γ → Walk → β × Walk}
    {finish : Constraint → Fresh γ} (adds : Adds visit result) (scope : Scope)
    (follows : ∀ constraint aliases, next [constraint] (walk.withAliases aliases) =
      (walk.withAliases aliases).follow conclude (finish constraint)) :
    (inside scope (some visit) >>= next) walk =
      walk.follow conclude (result scope walk.nested >>= finish) := by
  simp only [inside, bind_assoc, change_bind]
  apply adds.bind_eq_follow (Walk.Ready.push walk scope) walk rfl (Frame.scope_ofScope scope) rfl
  intro constraint aliases
  exact follows constraint aliases

theorem adds_documents :
    Adds (documents none) (fun scope _ => do
      let document ← fresh .artifact
      let owner ← fresh .artifact
      return .existsRow (documentsOf document owner scope.artifact)) := by
  intro walk _
  rfl

theorem Adds.documents (adds : Adds visit result) :
    Adds (Visit.documents (some visit)) (fun scope nested => do
      let document ← fresh .artifact
      let condition ← result ⟨document, none⟩ nested
      let owner ← fresh .artifact
      return .existsRowWith (documentsOf document owner scope.artifact) condition) := by
  intro walk _
  rw [Visit.documents, top_bind]
  apply allocate_bind_eq_follow
  intro document aliases
  apply adds.inside_bind
  intro condition aliases
  rfl

theorem adds_relationships (relationshipType : String) :
    Adds (relationships relationshipType none) (fun scope _ => do
      let relationship ← fresh .relationship
      let owner ← fresh .artifact
      return .existsRowWith
        (ownedBy (.single relationship) relationship owner scope.artifact)
        (typeTest relationship relationshipType)) := by
  intro walk _
  rfl

theorem Adds.relationships (adds : Adds visit result) (relationshipType : String) :
    Adds (Visit.relationships relationshipType (some visit)) (fun scope nested => do
      let relationship ← fresh .relationship
      let target ← fresh .target
      let far ← fresh .artifact
      let edge : Edge := ⟨relationship, target⟩
      let condition ← result ⟨far, some edge⟩ nested
      let owner ← fresh .artifact
      return .existsRowWith
        (ownedBy (joinFar (.single relationship) edge far) relationship owner scope.artifact)
        (.and (typeTest relationship relationshipType) condition)) := by
  intro walk _
  rw [Visit.relationships, top_bind]
  apply allocate_bind_eq_follow
  intro relationship aliases
  simp only [Option.isNone_some, Bool.false_eq_true, if_false]
  apply allocate_bind_eq_follow
  intro target aliases
  apply allocate_bind_eq_follow
  intro far aliases
  apply adds.inside_bind
  intro condition aliases
  rfl

/-- Whatever kind of step is taken, its parts are visited as inside a step. -/
theorem Adds.step {relationshipType : String} {predicate : Option (Visit Unit)}
    (adds : Adds visit result) (same : across env relationshipType predicate = visit) :
    Adds (Visit.step env relationshipType predicate) (fun scope _ => result scope true) := by
  intro walk ready
  rw [Visit.step, change_bind, same]
  have kept : ({ walk with depth := walk.depth + 1 } : Walk).Ready :=
    ⟨ready.tested, ready.value, ready.edge⟩
  have deeper : ({ walk with depth := walk.depth + 1 } : Walk).nested = true :=
    decide_eq_true (Nat.succ_pos walk.depth)
  refine Eq.trans ?_ (congrArg (walk.follow Walk.gain) (bind_pure (result walk.scope true)))
  apply adds.bind_eq_follow kept walk rfl rfl deeper
  intro constraint aliases
  rfl

end Calls

end Sramp.Compile

namespace Sramp.Query

open Compile Visit

variable {env : Environment}

mutual

/-- A visit of a predicate adds the constraint that it is compiled to. -/
theorem Expr.adds (valid : env.settings.Valid) (expr : Expr) :
    Adds (expr.visit env) (fun scope nested => expr.constraint env scope nested) := by
  cases expr with
  | single left =>
      simp only [Expr.visit, Expr.constraint]
      exact left.adds valid
  | chain left right =>
      simp only [Expr.visit, Expr.constraint]
      exact (left.adds valid).connected (fun _ _ => rfl) (right.adds valid) _

theorem OrExpr.adds (valid : env.settings.Valid) (expr : OrExpr) :
    Adds (expr.visit env) (fun scope nested => expr.constraint env scope nested) := by
  cases expr with
  | single left =>
      simp only [OrExpr.visit, OrExpr.constraint]
      exact left.adds valid
  | chain left right =>
      simp only [OrExpr.visit, OrExpr.constraint]
      exact (left.adds valid).connected (fun _ _ => rfl) (right.adds valid) _

theorem EqualityExpr.adds (valid : env.settings.Valid) (expr : EqualityExpr) :
    Adds (expr.visit env) (fun scope nested => expr.constraint env scope nested) := by
  cases expr with
  | subartifacts set =>
      simp only [EqualityExpr.visit, EqualityExpr.constraint]
      exact set.adds valid
  | grouped inner =>
      simp only [EqualityExpr.visit, EqualityExpr.constraint]
      exact inner.adds valid
  | test subject comparison =>
      cases subject with
      | property name =>
          simp only [EqualityExpr.visit, EqualityExpr.constraint]
          exact adds_property name _ comparison
      | call call =>
          simp only [EqualityExpr.visit, EqualityExpr.constraint]
          apply (call.settles valid).bind_adds
          · intro walk constraint
            cases comparison <;> rfl
          · intro walk ready found
            exact finishComparison_eq ready _ _ comparison
      | primary primary =>
          simp only [EqualityExpr.visit, EqualityExpr.constraint]
          intro walk _
          rfl

theorem FunctionCall.settles (valid : env.settings.Valid) (call : FunctionCall) :
    Settles (call.visit env) (fun scope nested => call.outcome env scope nested) := by
  cases call with
  | mk name arguments =>
      intro walk ready
      dsimp only
      unfold FunctionCall.visit FunctionCall.outcome
      cases Function.ofName name with
      | error cause => rfl
      | ok function =>
          cases function with
          | classifiedBy any normalized => exact settles_classification any normalized _ walk ready
          | attributeOf part => exact settles_edgeAttribute part _ walk ready
          | matching => exact settles_matching valid _ walk ready
          | negation =>
              match arguments with
              | [.expr expr] => exact (expr.adds valid).negated _ walk ready
              | [.primary _] => rfl
              | [] | .expr _ :: _ :: _ | .primary _ :: _ :: _ => rfl

theorem SubartifactSet.adds (valid : env.settings.Valid) (set : SubartifactSet) :
    Adds (set.visit env) (fun scope nested => set.constraint env scope nested) := by
  cases set with
  | call call =>
      simp only [SubartifactSet.visit, SubartifactSet.constraint]
      apply (call.settles valid).bind_adds
      · intro walk constraint
        rfl
      · intro walk ready found
        exact finishTest_none ready _ _
  | relationship relationshipType predicate next =>
      intro walk ready
      dsimp only
      unfold SubartifactSet.visit SubartifactSet.constraint
      rw [get_bind]
      split
      next => rfl
      next =>
          cases predicate with
          | none =>
              cases derived : env.settings.isDerived relationshipType with
              | true => exact adds_documents.step (if_pos derived) walk ready
              | false =>
                  have across : across env relationshipType none = _ :=
                    if_neg (Bool.eq_false_iff.mp derived)
                  exact (adds_relationships relationshipType).step across walk ready
          | some predicate =>
              have inside := predicate.adds valid
              cases derived : env.settings.isDerived relationshipType with
              | true => exact inside.documents.step (if_pos derived) walk ready
              | false =>
                  have across : across env relationshipType (some (predicate.visit env)) = _ :=
                    if_neg (Bool.eq_false_iff.mp derived)
                  exact (inside.relationships relationshipType).step across walk ready

end

/-- A conjunction is visited as its sides are compiled one after the other. -/
theorem Expr.adds_chain (valid : env.settings.Valid) (left : OrExpr) (right : Expr) :
    Adds ((Expr.chain left right).visit env) (fun scope nested => do
      let first ← left.constraint env scope nested
      let second ← right.constraint env scope nested
      return .and first second) := by
  have adds := (Expr.chain left right).adds valid
  simp only [Expr.constraint] at adds
  exact adds

/-- A disjunction is visited as its sides are compiled one after the other. -/
theorem OrExpr.adds_chain (valid : env.settings.Valid) (left : EqualityExpr) (right : OrExpr) :
    Adds ((OrExpr.chain left right).visit env) (fun scope nested => do
      let first ← left.constraint env scope nested
      let second ← right.constraint env scope nested
      return .or first second) := by
  have adds := (OrExpr.chain left right).adds valid
  simp only [OrExpr.constraint] at adds
  exact adds

end Sramp.Query

namespace Sramp.Compile

open Query

variable {env : Environment}

/-! ## The outermost level -/

/-- The walk that has reached a level with all scopes above it closed. -/
def Walk.ofLevel (level : Level) (walk : Walk) : Unit × Walk :=
  ((), { walk with
    stack := ⟨(Frame.ofScope level.scope).collect level.tests, []⟩
    source := level.source
    depth := 0 })

namespace Level

variable {level : Level} {walk : Walk}

theorem ready_ofLevel (level : Level) (walk : Walk) : (Walk.ofLevel level walk).2.Ready where
  tested := rfl
  value := rfl
  edge := (Walk.Ready.push walk level.scope).edge

theorem scope_ofLevel (level : Level) (walk : Walk) :
    (Walk.ofLevel level walk).2.scope = level.scope := Frame.scope_ofScope _

end Level

/-- A predicate on the artifacts of a level is visited as it restricts the level. -/
theorem restrict_eq (valid : env.settings.Valid) (level : Level) (walk : Walk)
    (predicate : Option Expr) :
    Visit.restrict env predicate (Walk.ofLevel level walk).2 =
      walk.follow Walk.ofLevel (restrict env level predicate) := by
  cases predicate with
  | none => rfl
  | some predicate =>
      rw [Visit.restrict, restrict, ← bind_pure (Expr.visit env predicate)]
      apply (predicate.adds valid).bind_eq_follow (Level.ready_ofLevel level walk) walk rfl
        (Level.scope_ofLevel level walk) rfl
      intro constraint aliases
      rfl

/-- A traversal moves the walk as it moves the level. -/
theorem traverse_eq (level : Level) (walk : Walk) (relationshipType : String) :
    Visit.traverse env relationshipType (Walk.ofLevel level walk).2 =
      walk.follow Walk.ofLevel (traverse env level relationshipType) := by
  rw [Visit.traverse, Visit.top_bind, traverse]
  dsimp only
  split
  next => rfl
  next => rfl

theorem outerStep_eq (valid : env.settings.Valid) (level : Level) (walk : Walk)
    (set : Option SubartifactSet) :
    Visit.outerStep env set (Walk.ofLevel level walk).2 =
      walk.follow Walk.ofLevel (step env level set) := by
  match set with
  | none => rfl
  | some (.relationship relationshipType predicate none) =>
      rw [Visit.outerStep, step]
      apply Walk.bind_eq_follow (traverse_eq level walk relationshipType) rfl
      intro moved aliases
      exact restrict_eq valid moved (walk.withAliases aliases) predicate
  | some (.relationship relationshipType predicate (some next)) => rfl
  | some (.call call) => rfl

/-- A walk over a query reaches the finished level. -/
theorem query_eq (valid : env.settings.Valid) (query : Query) :
    Visit.query env query Walk.start =
      Walk.start.follow Walk.ofLevel (level env Walk.start.root query) := by
  have started : Walk.start.collect (pathTests env Walk.start.top.artifact query.path) =
      (Walk.ofLevel ((Level.ofRoot Walk.start.root).add
        (pathTests env Walk.start.root query.path)) Walk.start).2 := rfl
  rw [Visit.query, Visit.top_bind, Visit.collect_bind, level, started]
  apply Walk.bind_eq_follow (restrict_eq valid _ Walk.start query.predicate) rfl
  intro middle aliases
  exact outerStep_eq valid middle (Walk.start.withAliases aliases) query.subartifacts

/-- The plan of a walk that has reached a level is the plan of the level. -/
theorem finish_ofLevel (level : Level) (aliases : Aliases) (order : Option OrderBy) :
    (Walk.ofLevel level (Walk.start.withAliases aliases)).2.finish env order = (do
      let ordering ← sortOrder level.scope.artifact order
      return level.plan env.settings Walk.start.root ordering) := by
  have column : (Walk.ofLevel level (Walk.start.withAliases aliases)).2.top.artifact =
      level.scope.artifact := rfl
  rw [Walk.finish, column]
  cases sortOrder level.scope.artifact order with
  | error cause => rfl
  | ok ordering =>
      have tests : (Walk.ofLevel level (Walk.start.withAliases aliases)).2.stack.root.constraints =
          level.tests := rfl
      refine congrArg Except.ok ?_
      rw [tests, Level.plan]
      cases Constraint.all level.tests with
      | none => rfl
      | some body => rfl

end Sramp.Compile

namespace Sramp.Query

open Compile

/-- A walk over a query ends with the plan of the query, or fails with the same error. -/
theorem walkedPlan_eq (env : Environment) (query : Query) (order : Option OrderBy) :
    query.walkedPlan env order = query.plan env order := by
  rw [walkedPlan, plan]
  cases sound : env.settings.fault? with
  | some fault => rfl
  | none =>
      have visited := query_eq (Settings.fault?_eq_none_iff.mp sound) query
      simp only [StateT.run, visited]
      change _ = ((level env Walk.start.root query) Walk.start.aliases >>= fun reached => do
        let ordering ← sortOrder reached.1.scope.artifact order
        return reached.1.plan env.settings Walk.start.root ordering)
      cases given : level env Walk.start.root query Walk.start.aliases with
      | error cause =>
          rw [Walk.follow_of_error given]
          rfl
      | ok done =>
          rw [Walk.follow_of_ok given]
          exact finish_ofLevel done.1 done.2 order

end Sramp.Query
