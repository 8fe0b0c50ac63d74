import Sramp.Proofs.Compile.Acceptance

/-!
# The calls in a query

Compilation comes to a call where it is tested or is a step, in the operand of `not` and in the
predicate of a step; what else is an argument of a call belongs to that call.  Every call in a
query that can be compiled can be compiled itself.  Calls may be exchanged for others with the
same outcomes, wherever they stand: the plan of the query stays the same.
-/

namespace Sramp

namespace Query

open Compile

mutual

/-- The calls in a predicate, from left to right.  Instead of a call of `not` there are the
calls in its operand. -/
def Expr.calls : Expr → List FunctionCall
  | .single left => left.calls
  | .chain left right => left.calls ++ right.calls

/-- The calls in a chain of alternatives. -/
def OrExpr.calls : OrExpr → List FunctionCall
  | .single left => left.calls
  | .chain left right => left.calls ++ right.calls

/-- The calls in a step, group or test. -/
def EqualityExpr.calls : EqualityExpr → List FunctionCall
  | .subartifacts set => set.calls
  | .grouped expr => expr.calls
  | .test (.call call) _ => call.calls
  | .test (.property _) _ => []
  | .test (.primary _) _ => []

/-- A call, or the calls in the operand of `not`. -/
def FunctionCall.calls : FunctionCall → List FunctionCall
  | .mk name arguments =>
      match Function.ofName name with
      | .ok .negation =>
          match arguments with
          | [.expr expr] => expr.calls
          | _ => [.mk name arguments]
      | _ => [.mk name arguments]

/-- The calls in a step to related artifacts. -/
def SubartifactSet.calls : SubartifactSet → List FunctionCall
  | .call call => call.calls
  | .relationship _ none _ => []
  | .relationship _ (some predicate) _ => predicate.calls

end

mutual

/-- The predicate with its calls exchanged. -/
def Expr.mapCalls (change : FunctionCall → FunctionCall) : Expr → Expr
  | .single left => .single (left.mapCalls change)
  | .chain left right => .chain (left.mapCalls change) (right.mapCalls change)

/-- The chain of alternatives with its calls exchanged. -/
def OrExpr.mapCalls (change : FunctionCall → FunctionCall) : OrExpr → OrExpr
  | .single left => .single (left.mapCalls change)
  | .chain left right => .chain (left.mapCalls change) (right.mapCalls change)

/-- The step, group or test with its calls exchanged. -/
def EqualityExpr.mapCalls (change : FunctionCall → FunctionCall) : EqualityExpr → EqualityExpr
  | .subartifacts set => .subartifacts (set.mapCalls change)
  | .grouped expr => .grouped (expr.mapCalls change)
  | .test (.call call) comparison => .test (.call (call.mapCalls change)) comparison
  | .test (.property name) comparison => .test (.property name) comparison
  | .test (.primary primary) comparison => .test (.primary primary) comparison

/-- The call exchanged, or those in the operand of `not`. -/
def FunctionCall.mapCalls (change : FunctionCall → FunctionCall) : FunctionCall → FunctionCall
  | .mk name arguments =>
      match Function.ofName name with
      | .ok .negation =>
          match arguments with
          | [.expr expr] => .mk name [.expr (expr.mapCalls change)]
          | _ => change (.mk name arguments)
      | _ => change (.mk name arguments)

/-- The step to related artifacts with its calls exchanged. -/
def SubartifactSet.mapCalls (change : FunctionCall → FunctionCall) :
    SubartifactSet → SubartifactSet
  | .call call => .call (call.mapCalls change)
  | .relationship relationshipType none next => .relationship relationshipType none next
  | .relationship relationshipType (some predicate) next =>
      .relationship relationshipType (some (predicate.mapCalls change)) next

end

namespace FunctionCall

variable {name : QName} {arguments : List Argument} {change : FunctionCall → FunctionCall}

/-- A call that stands for itself: it is no negation of a predicate. -/
def IsSingle (call : FunctionCall) : Prop :=
  ∀ expr, call.arguments = [.expr expr] → Function.ofName call.name ≠ .ok .negation

theorem not_isSingle_iff :
    ¬(FunctionCall.mk name arguments).IsSingle ↔
      Function.ofName name = .ok .negation ∧ ∃ expr, arguments = [.expr expr] := by
  rw [and_comm, ← exists_and_right]
  simp [IsSingle, FunctionCall.name, FunctionCall.arguments]

theorem calls_negation (named : Function.ofName name = .ok .negation) (expr : Expr) :
    (FunctionCall.mk name [.expr expr]).calls = expr.calls := by
  simp only [calls, named]

theorem mapCalls_negation (named : Function.ofName name = .ok .negation) (expr : Expr) :
    (FunctionCall.mk name [.expr expr]).mapCalls change =
      .mk name [.expr (expr.mapCalls change)] := by
  simp only [mapCalls, named]

theorem calls_of_isSingle {call : FunctionCall} (single : call.IsSingle) :
    call.calls = [call] := by
  cases call with
  | mk name arguments =>
      unfold calls
      split
      next named =>
          split
          next expr => exact absurd named (single expr rfl)
          next => rfl
      next => rfl

theorem mapCalls_of_isSingle {call : FunctionCall} (single : call.IsSingle) :
    call.mapCalls change = change call := by
  cases call with
  | mk name arguments =>
      unfold mapCalls
      split
      next named =>
          split
          next expr => exact absurd named (single expr rfl)
          next => rfl
      next => rfl

theorem supported_negation_iff {env : Environment} {nested edge : Bool}
    (named : Function.ofName name = .ok .negation) {expr : Expr} :
    (FunctionCall.mk name [.expr expr]).Supported env nested edge ↔
      expr.Supported env nested edge := by
  obtain ⟨inXPath, isNot⟩ := ofName_eq_negation_iff.mp named
  constructor
  · intro supported
    cases supported with
    | classification inSramp => exact absurd inSramp inXPath.not_inSramp
    | attributeOf asks => cases asks
    | negation _ _ supported => exact supported
  · exact .negation inXPath isNot

/-- A call of `not` is compiled by negating what its operand is compiled to. -/
theorem outcome_negation (named : Function.ofName name = .ok .negation) {env : Environment}
    {scope : Scope} {nested : Bool} {expr : Expr} :
    (FunctionCall.mk name [.expr expr]).outcome env scope nested = (do
      return .settled (.not (← expr.constraint env scope nested))) := by
  simp only [outcome, named]

end FunctionCall

/-- The calls in the predicate of a query and in the step after it. -/
def calls (query : Query) : List FunctionCall :=
  (query.predicate.map Expr.calls).getD [] ++
    (query.subartifacts.map SubartifactSet.calls).getD []

/-- The query with its calls exchanged. -/
def mapCalls (change : FunctionCall → FunctionCall) (query : Query) : Query where
  path := query.path
  predicate := query.predicate.map (Expr.mapCalls change)
  subartifacts := query.subartifacts.map (SubartifactSet.mapCalls change)

variable {env : Environment}

mutual

/-- A call in a predicate that can be compiled can be compiled itself. -/
theorem Expr.supported_of_mem_calls (expr : Expr) {nested edge : Bool} {call : FunctionCall}
    (supported : expr.Supported env nested edge) (member : call ∈ expr.calls) :
    ∃ inside reached, call.Supported env inside reached := by
  cases expr with
  | single left =>
      exact left.supported_of_mem_calls (Expr.supported_single_iff.mp supported) member
  | chain left right =>
      obtain ⟨first, second⟩ := Expr.supported_chain_iff.mp supported
      obtain member | member := List.mem_append.mp member
      · exact left.supported_of_mem_calls first member
      · exact right.supported_of_mem_calls second member

theorem OrExpr.supported_of_mem_calls (expr : OrExpr) {nested edge : Bool} {call : FunctionCall}
    (supported : expr.Supported env nested edge) (member : call ∈ expr.calls) :
    ∃ inside reached, call.Supported env inside reached := by
  cases expr with
  | single left =>
      exact left.supported_of_mem_calls (OrExpr.supported_single_iff.mp supported) member
  | chain left right =>
      obtain ⟨first, second⟩ := OrExpr.supported_chain_iff.mp supported
      obtain member | member := List.mem_append.mp member
      · exact left.supported_of_mem_calls first member
      · exact right.supported_of_mem_calls second member

theorem EqualityExpr.supported_of_mem_calls (expr : EqualityExpr) {nested edge : Bool}
    {call : FunctionCall} (supported : expr.Supported env nested edge)
    (member : call ∈ expr.calls) : ∃ inside reached, call.Supported env inside reached := by
  cases expr with
  | subartifacts set =>
      have step := EqualityExpr.supported_subartifacts_iff.mp supported
      exact set.supported_of_mem_calls step member
  | grouped inner =>
      have group := EqualityExpr.supported_grouped_iff.mp supported
      exact inner.supported_of_mem_calls group member
  | test subject comparison =>
      cases subject with
      | property name => exact absurd member List.not_mem_nil
      | call tested =>
          match comparison with
          | none =>
              have alone := EqualityExpr.supported_call_iff.mp supported
              exact tested.supported_of_mem_calls alone member
          | some (operator, right) =>
              have compared := EqualityExpr.supported_attributeCompared_iff.mp supported
              have asks : tested.Supported env nested true := .attributeOf compared.1.1
              exact tested.supported_of_mem_calls asks member
      | primary primary => exact absurd member List.not_mem_nil

theorem FunctionCall.supported_of_mem_calls (given : FunctionCall) {nested edge : Bool}
    {call : FunctionCall} (supported : given.Supported env nested edge)
    (member : call ∈ given.calls) : ∃ inside reached, call.Supported env inside reached := by
  cases given with
  | mk name arguments =>
      by_cases single : (FunctionCall.mk name arguments).IsSingle
      · rw [FunctionCall.calls_of_isSingle single, List.mem_singleton] at member
        exact ⟨nested, edge, member ▸ supported⟩
      · obtain ⟨named, negates⟩ := FunctionCall.not_isSingle_iff.mp single
        -- Only what is matched here is seen to be a part of the call.
        match arguments with
        | [.expr inner] =>
            rw [FunctionCall.calls_negation named] at member
            exact inner.supported_of_mem_calls
              ((FunctionCall.supported_negation_iff named).mp supported) member
        | [] | .primary _ :: _ | _ :: _ :: _ => simp at negates

theorem SubartifactSet.supported_of_mem_calls (set : SubartifactSet) {nested edge : Bool}
    {call : FunctionCall} (supported : set.Supported env nested edge)
    (member : call ∈ set.calls) : ∃ inside reached, call.Supported env inside reached := by
  cases set with
  | call step =>
      have called := SubartifactSet.supported_call_iff.mp supported
      exact step.supported_of_mem_calls called member
  | relationship relationshipType predicate next =>
      cases predicate with
      | none => exact absurd member List.not_mem_nil
      | some predicate =>
          obtain ⟨-, -, inside⟩ := SubartifactSet.supported_relationship_iff.mp supported
          exact predicate.supported_of_mem_calls (inside predicate rfl) member

end

/-- A call in a query that can be compiled can be compiled itself. -/
theorem supported_of_mem_calls {query : Query} {call : FunctionCall}
    (supported : query.Supported env) (member : call ∈ query.calls) :
    ∃ inside reached, call.Supported env inside reached := by
  rcases query with ⟨path, predicate, subartifacts⟩
  obtain member | member := List.mem_append.mp member
  · cases predicate with
    | none => exact absurd member List.not_mem_nil
    | some predicate =>
        exact predicate.supported_of_mem_calls (supported.predicate predicate rfl) member
  · cases subartifacts with
    | none => exact absurd member List.not_mem_nil
    | some set =>
        obtain ⟨relationshipType, inside, rfl, follows⟩ := supported.step set rfl
        cases inside with
        | none => exact absurd member List.not_mem_nil
        | some predicate => exact predicate.supported_of_mem_calls (follows predicate rfl) member

end Query

namespace Compile

open Query

variable {α β : Type}

/-! ## Calls with the same outcomes -/

/-- Two actions have the same successful runs. -/
def SameRuns (first second : Fresh α) : Prop :=
  ∀ start value finish, Yields first start value finish ↔ Yields second start value finish

theorem SameRuns.refl (action : Fresh α) : SameRuns action action :=
  fun _ _ _ => Iff.rfl

/-- Whatever two actions are refused for, neither has a run. -/
theorem sameRuns_unsupported {cause other : Unsupported} {fragment text : String} :
    SameRuns (unsupported cause fragment : Fresh α) (unsupported other text) :=
  fun _ _ _ => iff_of_false not_yields_unsupported not_yields_unsupported

/-- Sequences have the same runs if their parts do. -/
theorem SameRuns.bind {first second : Fresh α} {next further : α → Fresh β}
    (begins : SameRuns first second) (follows : ∀ value, SameRuns (next value) (further value)) :
    SameRuns (first >>= next) (second >>= further) := by
  intro start value finish
  rw [yields_bind, yields_bind]
  apply exists_congr
  intro inner
  apply exists_congr
  intro between
  exact and_congr (begins start inner between) (follows inner between value finish)

/-- Sequences that begin in the same way have the same runs if they go on in the same way. -/
theorem SameRuns.bind_right {first : Fresh α} {next further : α → Fresh β}
    (follows : ∀ value, SameRuns (next value) (further value)) :
    SameRuns (first >>= next) (first >>= further) :=
  (SameRuns.refl first).bind follows

/-- Sequences that go on in the same way have the same runs if they begin in the same way. -/
theorem SameRuns.bind_left {first second : Fresh α} {next : α → Fresh β}
    (begins : SameRuns first second) : SameRuns (first >>= next) (second >>= next) :=
  begins.bind fun value => .refl (next value)

/-- Two calls have the same successful runs, wherever they stand. -/
def SameOutcomes (env : Environment) (call other : FunctionCall) : Prop :=
  ∀ scope nested, SameRuns (other.outcome env scope nested) (call.outcome env scope nested)

end Compile

namespace Query

open Compile

variable {env : Environment} {change : FunctionCall → FunctionCall}

mutual

/-- A predicate whose calls are exchanged for others with the same outcomes has the same
constraint. -/
theorem Expr.sameRuns_mapCalls (expr : Expr)
    (agrees : ∀ call ∈ expr.calls, SameOutcomes env call (change call)) (scope : Scope)
    (nested : Bool) :
    SameRuns ((expr.mapCalls change).constraint env scope nested)
      (expr.constraint env scope nested) := by
  cases expr with
  | single left => exact left.sameRuns_mapCalls agrees scope nested
  | chain left right =>
      obtain ⟨first, second⟩ := List.forall_mem_append.mp agrees
      apply (left.sameRuns_mapCalls first scope nested).bind
      intro one
      exact (right.sameRuns_mapCalls second scope nested).bind_left

theorem OrExpr.sameRuns_mapCalls (expr : OrExpr)
    (agrees : ∀ call ∈ expr.calls, SameOutcomes env call (change call)) (scope : Scope)
    (nested : Bool) :
    SameRuns ((expr.mapCalls change).constraint env scope nested)
      (expr.constraint env scope nested) := by
  cases expr with
  | single left => exact left.sameRuns_mapCalls agrees scope nested
  | chain left right =>
      obtain ⟨first, second⟩ := List.forall_mem_append.mp agrees
      apply (left.sameRuns_mapCalls first scope nested).bind
      intro one
      exact (right.sameRuns_mapCalls second scope nested).bind_left

theorem EqualityExpr.sameRuns_mapCalls (expr : EqualityExpr)
    (agrees : ∀ call ∈ expr.calls, SameOutcomes env call (change call)) (scope : Scope)
    (nested : Bool) :
    SameRuns ((expr.mapCalls change).constraint env scope nested)
      (expr.constraint env scope nested) := by
  cases expr with
  | subartifacts set => exact set.sameRuns_mapCalls agrees scope nested
  | grouped inner => exact inner.sameRuns_mapCalls agrees scope nested
  | test subject comparison =>
      cases subject with
      | property name => exact .refl _
      | call call =>
          apply (call.sameRuns_mapCalls agrees scope nested).bind
          intro outcome
          cases outcome with
          | entries found => exact .refl _
          | settled constraint =>
              cases comparison with
              | none => exact .refl _
              | some compared => exact sameRuns_unsupported
      | primary primary => exact .refl _

theorem FunctionCall.sameRuns_mapCalls (call : FunctionCall)
    (agrees : ∀ given ∈ call.calls, SameOutcomes env given (change given)) (scope : Scope)
    (nested : Bool) :
    SameRuns ((call.mapCalls change).outcome env scope nested)
      (call.outcome env scope nested) := by
  cases call with
  | mk name arguments =>
      by_cases single : (FunctionCall.mk name arguments).IsSingle
      · rw [FunctionCall.calls_of_isSingle single, List.forall_mem_singleton] at agrees
        rw [FunctionCall.mapCalls_of_isSingle single]
        exact agrees scope nested
      · obtain ⟨named, negates⟩ := FunctionCall.not_isSingle_iff.mp single
        -- Only what is matched here is seen to be a part of the call.
        match arguments with
        | [.expr inner] =>
            rw [FunctionCall.calls_negation named] at agrees
            rw [FunctionCall.mapCalls_negation named, FunctionCall.outcome_negation named,
              FunctionCall.outcome_negation named]
            exact (inner.sameRuns_mapCalls agrees scope nested).bind_left
        | [] | .primary _ :: _ | _ :: _ :: _ => simp at negates

theorem SubartifactSet.sameRuns_mapCalls (set : SubartifactSet)
    (agrees : ∀ call ∈ set.calls, SameOutcomes env call (change call)) (scope : Scope)
    (nested : Bool) :
    SameRuns ((set.mapCalls change).constraint env scope nested)
      (set.constraint env scope nested) := by
  cases set with
  | call call => exact (call.sameRuns_mapCalls agrees scope nested).bind_left
  | relationship relationshipType predicate next =>
      cases predicate with
      | none => exact .refl _
      | some predicate =>
          have inside := predicate.sameRuns_mapCalls agrees
          unfold SubartifactSet.mapCalls SubartifactSet.constraint
          split
          next => exact sameRuns_unsupported
          next =>
              split
              next =>
                  apply SameRuns.bind_right
                  intro document
                  exact (inside _ true).bind_left
              next =>
                  apply SameRuns.bind_right
                  intro relationship
                  apply SameRuns.bind_right
                  intro target
                  apply SameRuns.bind_right
                  intro far
                  exact (inside _ true).bind_left

end

end Query

namespace Compile

open Query

variable {env : Environment} {change : FunctionCall → FunctionCall}

theorem sameRuns_restrict (level : Level) {predicate : Option Expr}
    (agrees : ∀ call ∈ (predicate.map Expr.calls).getD [], SameOutcomes env call (change call)) :
    SameRuns (restrict env level (predicate.map (Expr.mapCalls change)))
      (restrict env level predicate) := by
  cases predicate with
  | none => exact .refl _
  | some predicate => exact (predicate.sameRuns_mapCalls agrees level.scope false).bind_left

theorem sameRuns_step (level : Level) {set : Option SubartifactSet}
    (agrees : ∀ call ∈ (set.map SubartifactSet.calls).getD [],
      SameOutcomes env call (change call)) :
    SameRuns (step env level (set.map (SubartifactSet.mapCalls change))) (step env level set) := by
  match set with
  | none => exact .refl _
  | some (.call call) => exact sameRuns_unsupported
  | some (.relationship relationshipType predicate none) =>
      cases predicate with
      | none => exact .refl _
      | some predicate =>
          apply SameRuns.bind_right
          intro moved
          exact (predicate.sameRuns_mapCalls agrees moved.scope false).bind_left
  | some (.relationship relationshipType predicate (some next)) =>
      cases predicate <;> exact sameRuns_unsupported

theorem sameRuns_level (root : Selector) {query : Query}
    (agrees : ∀ call ∈ query.calls, SameOutcomes env call (change call)) :
    SameRuns (level env root (query.mapCalls change)) (level env root query) := by
  obtain ⟨first, second⟩ := List.forall_mem_append.mp agrees
  apply (sameRuns_restrict _ first).bind
  intro middle
  exact sameRuns_step middle second

end Compile

namespace Query

open Compile

/-- Exchanging calls for others with the same outcomes does not change the plan of a query. -/
theorem plan_mapCalls {env : Environment} {change : FunctionCall → FunctionCall} {query : Query}
    (agrees : ∀ call ∈ query.calls, SameOutcomes env call (change call))
    (order : Option OrderBy) (plan : Plan) :
    (query.mapCalls change).plan env order = .ok plan ↔ query.plan env order = .ok plan := by
  have same := sameRuns_level (Aliases.next {} .artifact) agrees
  simp only [plan_eq_ok_iff, same _ _ _]

end Query

end Sramp
