import Sramp.Proofs.Compile.Classification

/-!
# Queries that ask for classes

If a query can be compiled when terms are resolved in one way, then only its terms decide whether
it can be compiled when they are resolved in another way: it can if they all resolve, and is
otherwise refused for the first one, from left to right, that does not.  By which terms the
classes are named does not matter, wherever in the query they are asked for.
-/

namespace Sramp

namespace Query

open Compile

/-- The terms of a call that asks for classes. -/
def FunctionCall.terms (call : FunctionCall) : List String :=
  match Function.ofName call.name with
  | .ok (.classifiedBy _ _) => (termArguments (call.arguments.drop 1)).toOption.getD []
  | _ => []

/-- The terms of the calls in a query that ask for classes, from left to right. -/
def terms (query : Query) : List String :=
  query.calls.flatMap FunctionCall.terms

end Query

namespace Compile

open Query UriSet

variable {α β γ δ : Type} {env : Environment} {resolve other : String → Except ResolveError String}
variable {terms others : List String}

/-- Wherever the one action succeeds, the terms decide what the other does: if they resolve, it
succeeds with a related value and the same aliases, and otherwise it fails with the error of the
first one that does not. -/
def Hinges (resolve : String → Except ResolveError String) (terms : List String)
    (Related : α → β → Prop) (action : Fresh α) (model : Fresh β) : Prop :=
  ∀ start value finish, Yields model start value finish →
    match firstUnresolved resolve terms with
    | none => ∃ found, Related found value ∧ Yields action start found finish
    | some cause => action start = .error (.classification cause)

/-- What does not depend on terms happens anyway. -/
theorem hinges_self {Related : α → α → Prop} (refl : ∀ value, Related value value)
    (action : Fresh α) : Hinges resolve [] Related action action :=
  fun _ value _ run => ⟨value, refl value, run⟩

theorem hinges_pure {Related : α → β → Prop} {found : α} {value : β}
    (related : Related found value) : Hinges resolve [] Related (pure found) (pure value) := by
  intro start given finish run
  obtain ⟨rfl, rfl⟩ := yields_pure.mp run
  exact ⟨found, related, yields_pure.mpr ⟨rfl, rfl⟩⟩

/-- What is never successful hinges on anything. -/
theorem hinges_unsupported {Related : α → β → Prop} {action : Fresh α} {cause : Unsupported}
    {fragment : String} : Hinges resolve terms Related action (unsupported cause fragment) :=
  fun _ _ _ run => absurd run not_yields_unsupported

/-- A sequence hinges on the terms of its parts, in their order. -/
theorem Hinges.bind {Related : α → β → Prop} {Further : γ → δ → Prop} {action : Fresh α}
    {model : Fresh β} {next : α → Fresh γ} {onward : β → Fresh δ}
    (begins : Hinges resolve terms Related action model)
    (follows : ∀ found value, Related found value →
      Hinges resolve others Further (next found) (onward value)) :
    Hinges resolve (terms ++ others) Further (action >>= next) (model >>= onward) := by
  intro start value finish run
  obtain ⟨inner, between, begun, ended⟩ := yields_bind.mp run
  have decided := begins start inner between begun
  rw [firstUnresolved_append]
  cases first : firstUnresolved resolve terms with
  | some cause =>
      rw [first] at decided
      exact bind_of_error decided
  | none =>
      rw [first] at decided
      obtain ⟨found, related, reached⟩ := decided
      have rest := follows found inner related between value finish ended
      rw [Option.none_or]
      cases second : firstUnresolved resolve others with
      | some cause =>
          rw [second] at rest
          exact (bind_of_ok reached).trans rest
      | none =>
          rw [second] at rest
          obtain ⟨last, relates, ends⟩ := rest
          exact ⟨last, relates, yields_bind.mpr ⟨found, between, reached, ends⟩⟩

/-- What precedes without terms does not matter. -/
theorem Hinges.after {Further : γ → δ → Prop} {action : Fresh α} {next : α → Fresh γ}
    {onward : α → Fresh δ}
    (follows : ∀ value, Hinges resolve terms Further (next value) (onward value)) :
    Hinges resolve terms Further (action >>= next) (action >>= onward) := by
  apply (hinges_self (@Eq.refl α) action).bind
  rintro found _ rfl
  exact follows found

/-- What follows without terms does not matter. -/
theorem Hinges.before {Related : α → β → Prop} {Further : γ → δ → Prop} {action : Fresh α}
    {model : Fresh β} {next : α → Fresh γ} {onward : β → Fresh δ}
    (begins : Hinges resolve terms Related action model)
    (follows : ∀ found value, Related found value →
      Hinges resolve [] Further (next found) (onward value)) :
    Hinges resolve terms Further (action >>= next) (model >>= onward) := by
  rw [← List.append_nil terms]
  exact begins.bind follows

/-- How terms are resolved does not decide which kind of step is taken. -/
theorem hinges_isDerived {Related : α → β → Prop} {relationshipType : String}
    {first second : Fresh α} {third fourth : Fresh β}
    (derived : Hinges resolve terms Related first third)
    (related : Hinges resolve terms Related second fourth) :
    Hinges resolve terms Related
      (if (env.resolvingBy resolve).settings.isDerived relationshipType then first else second)
      (if (env.resolvingBy other).settings.isDerived relationshipType then third else fourth) := by
  rw [Environment.settings_resolvingBy, Environment.settings_resolvingBy]
  split
  next => exact derived
  next => exact related

end Compile

namespace Query

open Compile UriSet

variable {env : Environment} {resolve other : String → Except ResolveError String}

/-- Outcomes of the same kind: constraints, or the same entries. -/
inductive Alike : Outcome → Outcome → Prop where
  | settled (constraint given : Constraint) : Alike (.settled constraint) (.settled given)
  | entries (found : Probe) : Alike (.entries found) (.entries found)

theorem Alike.refl (outcome : Outcome) : Alike outcome outcome := by
  cases outcome
  case settled constraint => exact .settled constraint constraint
  case entries found => exact .entries found

/-- The terms of a call that is compiled are its string literals. -/
theorem FunctionCall.NamesClasses.terms_eq {call : FunctionCall}
    {connect : Constraint → Constraint → Constraint} {normalized : Bool} {terms : List String}
    (names : call.NamesClasses connect normalized terms) : call.terms = terms := by
  obtain ⟨any, named, -⟩ := names.named
  rw [FunctionCall.terms, named]
  simp only [termArguments_eq_ok.mpr names.literals]
  rfl

/-- Whether a call that asks for classes is compiled hinges on its terms. -/
theorem hinges_classification {call : FunctionCall} {any normalized : Bool}
    (named : Function.ofName call.name = .ok (.classifiedBy any normalized)) (scope : Scope)
    (nested : Bool) :
    Hinges resolve call.terms Alike (call.outcome (env.resolvingBy resolve) scope nested)
      (call.outcome (env.resolvingBy other) scope nested) := by
  intro start outcome finish run
  rw [yields_outcome, named] at run
  obtain ⟨constraint, rfl, run⟩ := run
  obtain ⟨terms, uris, literals, given, -, -, rfl⟩ := yields_classificationTest.mp run
  have names := FunctionCall.namesClasses_of_classifiedBy named literals
  rw [names.terms_eq]
  cases first : firstUnresolved resolve terms with
  | none =>
      have resolved := firstUnresolved_eq_none_iff.mp first
      obtain ⟨front, last, -, -, settled⟩ := names.exists_outcome given resolved
      exact ⟨_, .settled _ _, settled scope nested _⟩
  | some cause => exact names.outcome_of_unresolved first scope nested _

theorem hinges_call {call : FunctionCall} (single : call.IsSingle) (scope : Scope)
    (nested : Bool) :
    Hinges resolve call.terms Alike (call.outcome (env.resolvingBy resolve) scope nested)
      (call.outcome (env.resolvingBy other) scope nested) := by
  rcases call with ⟨name, arguments⟩
  cases named : Function.ofName name with
  | error cause =>
      intro start outcome finish run
      rw [yields_outcome, FunctionCall.name, named] at run
      contradiction
  | ok function =>
      cases function with
      | classifiedBy any normalized =>
          have asks : Function.ofName (FunctionCall.mk name arguments).name =
              .ok (.classifiedBy any normalized) := named
          exact hinges_classification asks scope nested
      | attributeOf part =>
          unfold FunctionCall.terms FunctionCall.outcome
          rw [FunctionCall.name, named]
          exact hinges_self Alike.refl _
      | matching =>
          unfold FunctionCall.terms FunctionCall.outcome
          rw [FunctionCall.name, named]
          exact hinges_self Alike.refl _
      | negation =>
          intro start outcome finish run
          rw [yields_outcome, FunctionCall.name, named] at run
          obtain ⟨expr, _, given, -⟩ := run
          exact absurd named (single expr given)

mutual

/-- Whether a predicate is compiled hinges on its terms. -/
theorem Expr.hinges (expr : Expr) (scope : Scope) (nested : Bool) :
    Hinges resolve (expr.calls.flatMap FunctionCall.terms) (fun _ _ => True)
      (expr.constraint (env.resolvingBy resolve) scope nested)
      (expr.constraint (env.resolvingBy other) scope nested) := by
  cases expr with
  | single left => exact left.hinges scope nested
  | chain left right =>
      rw [Expr.calls, List.flatMap_append]
      apply (left.hinges scope nested).bind
      intro _ _ _
      apply (right.hinges scope nested).before
      intro _ _ _
      exact hinges_pure trivial

theorem OrExpr.hinges (expr : OrExpr) (scope : Scope) (nested : Bool) :
    Hinges resolve (expr.calls.flatMap FunctionCall.terms) (fun _ _ => True)
      (expr.constraint (env.resolvingBy resolve) scope nested)
      (expr.constraint (env.resolvingBy other) scope nested) := by
  cases expr with
  | single left => exact left.hinges scope nested
  | chain left right =>
      rw [OrExpr.calls, List.flatMap_append]
      apply (left.hinges scope nested).bind
      intro _ _ _
      apply (right.hinges scope nested).before
      intro _ _ _
      exact hinges_pure trivial

theorem EqualityExpr.hinges (expr : EqualityExpr) (scope : Scope) (nested : Bool) :
    Hinges resolve (expr.calls.flatMap FunctionCall.terms) (fun _ _ => True)
      (expr.constraint (env.resolvingBy resolve) scope nested)
      (expr.constraint (env.resolvingBy other) scope nested) := by
  cases expr with
  | subartifacts set => exact set.hinges scope nested
  | grouped inner => exact inner.hinges scope nested
  | test subject comparison =>
      cases subject with
      | property name => exact hinges_self (fun _ => trivial) _
      | call call =>
          apply (call.hinges scope nested).before
          rintro _ _ (_ | _)
          case settled =>
            cases comparison with
            | none => exact hinges_pure trivial
            | some compared => exact hinges_unsupported
          case entries => exact hinges_self (fun _ => trivial) _
      | primary primary => exact hinges_unsupported

theorem FunctionCall.hinges (call : FunctionCall) (scope : Scope) (nested : Bool) :
    Hinges resolve (call.calls.flatMap FunctionCall.terms) Alike
      (call.outcome (env.resolvingBy resolve) scope nested)
      (call.outcome (env.resolvingBy other) scope nested) := by
  cases call with
  | mk name arguments =>
      by_cases single : (FunctionCall.mk name arguments).IsSingle
      · rw [FunctionCall.calls_of_isSingle single, List.flatMap_singleton]
        exact hinges_call single scope nested
      · obtain ⟨named, negates⟩ := FunctionCall.not_isSingle_iff.mp single
        -- Only what is matched here is seen to be a part of the call.
        match arguments with
        | [.expr inner] =>
            rw [FunctionCall.calls_negation named, FunctionCall.outcome_negation named,
              FunctionCall.outcome_negation named]
            apply (inner.hinges scope nested).before
            intro _ _ _
            exact hinges_pure (.settled _ _)
        | [] | .primary _ :: _ | _ :: _ :: _ => simp at negates

theorem SubartifactSet.hinges (set : SubartifactSet) (scope : Scope) (nested : Bool) :
    Hinges resolve (set.calls.flatMap FunctionCall.terms) (fun _ _ => True)
      (set.constraint (env.resolvingBy resolve) scope nested)
      (set.constraint (env.resolvingBy other) scope nested) := by
  cases set with
  | call call =>
      apply (call.hinges scope nested).before
      intro _ _ _
      exact hinges_pure trivial
  | relationship relationshipType predicate next =>
      cases predicate with
      | none => exact hinges_self (fun _ => trivial) _
      | some predicate =>
          have inside := predicate.hinges
          unfold SubartifactSet.calls SubartifactSet.constraint
          split
          next => exact hinges_unsupported
          next =>
              apply hinges_isDerived
              · apply Hinges.after
                intro document
                apply (inside _ true).before
                intro _ _ _
                apply Hinges.after
                intro owner
                exact hinges_pure trivial
              · apply Hinges.after
                intro relationship
                apply Hinges.after
                intro target
                apply Hinges.after
                intro far
                apply (inside _ true).before
                intro _ _ _
                apply Hinges.after
                intro owner
                exact hinges_pure trivial

end

end Query

namespace Compile

open Query UriSet

variable {env : Environment} {resolve other : String → Except ResolveError String}
variable {level given : Level}

/-- Two levels are about the same artifact. -/
def SameScope (level given : Level) : Prop :=
  level.scope = given.scope

theorem hinges_restrict (same : SameScope level given) (predicate : Option Expr) :
    Hinges resolve (((predicate.map Expr.calls).getD []).flatMap FunctionCall.terms) SameScope
      (restrict (env.resolvingBy resolve) level predicate)
      (restrict (env.resolvingBy other) given predicate) := by
  cases predicate with
  | none => exact hinges_pure same
  | some predicate =>
      unfold restrict
      rw [SameScope] at same
      rw [same]
      apply (predicate.hinges given.scope false).before
      intro _ _ _
      exact hinges_pure same

/-- A traversal leads to the same place, whatever is tested on the way. -/
theorem hinges_traverse (level given : Level) (relationshipType : String) :
    Hinges resolve [] SameScope (traverse (env.resolvingBy resolve) level relationshipType)
      (traverse (env.resolvingBy other) given relationshipType) := by
  unfold traverse
  apply hinges_isDerived
  · apply Hinges.after
    intro document
    exact hinges_pure rfl
  · apply Hinges.after
    intro relationship
    apply Hinges.after
    intro target
    apply Hinges.after
    intro far
    exact hinges_pure rfl

theorem hinges_step (same : SameScope level given) (set : Option SubartifactSet) :
    Hinges resolve (((set.map SubartifactSet.calls).getD []).flatMap FunctionCall.terms)
      SameScope (step (env.resolvingBy resolve) level set)
      (step (env.resolvingBy other) given set) := by
  match set with
  | none => exact hinges_pure same
  | some (.call call) => exact hinges_unsupported
  | some (.relationship relationshipType predicate (some next)) => exact hinges_unsupported
  | some (.relationship relationshipType predicate none) =>
      have terms : (((some (SubartifactSet.relationship relationshipType predicate none)).map
          SubartifactSet.calls).getD []) = (predicate.map Expr.calls).getD [] := by
        cases predicate <;> rfl
      rw [terms]
      apply (hinges_traverse level given relationshipType).bind
      intro moved reached follows
      exact hinges_restrict follows predicate

theorem hinges_level (root : Selector) (query : Query) :
    Hinges resolve query.terms SameScope (Compile.level (env.resolvingBy resolve) root query)
      (Compile.level (env.resolvingBy other) root query) := by
  rw [Query.terms, Query.calls, List.flatMap_append]
  apply (hinges_restrict rfl query.predicate).bind
  intro middle reached same
  exact hinges_step same query.subartifacts

end Compile

namespace Query

open Compile UriSet

/-- A query that is compiled with one way of resolving terms is compiled with another one, too,
if its terms resolve, and is otherwise refused for the first one that does not. -/
theorem plan_hinges {env : Environment} {query : Query} {order : Option OrderBy} {plan : Plan}
    (resolve : String → Except ResolveError String) {other : String → Except ResolveError String}
    (compiled : query.plan (env.resolvingBy other) order = .ok plan) :
    match firstUnresolved resolve query.terms with
    | none => ∃ found, query.plan (env.resolvingBy resolve) order = .ok found
    | some cause =>
        query.plan (env.resolvingBy resolve) order = .error (.classification cause) := by
  obtain ⟨sound, level, finish, sorting, run, sorted, -⟩ := plan_eq_ok_iff.mp compiled
  have hinges : Hinges resolve query.terms SameScope
      (Compile.level (env.resolvingBy resolve) (Aliases.next {} .artifact) query)
      (Compile.level (env.resolvingBy other) (Aliases.next {} .artifact) query) :=
    hinges_level _ query
  have decided := hinges _ _ _ run
  cases first : firstUnresolved resolve query.terms with
  | none =>
      rw [first] at decided
      obtain ⟨found, same, reached⟩ := decided
      rw [← same] at sorted
      exact ⟨_, plan_eq_ok_iff.mpr ⟨sound, found, finish, sorting, reached, sorted, rfl⟩⟩
  | some cause =>
      rw [first] at decided
      have valid : (env.resolvingBy resolve).settings.fault? = none := sound
      rw [Query.plan, valid]
      simp only [StateT.run, decided]
      rfl

/-- A question for classes depends on the set of the URIs that its terms resolve to and on
nothing else about the terms, in single calls and in whole queries; and the first term that does
not resolve decides how compilation fails. -/
theorem plan_of_classes (env : Environment) (resolve : String → Except ResolveError String) :
    (∀ {call : FunctionCall} {connect : Constraint → Constraint → Constraint}
        {normalized : Bool} {terms : List String},
      call.NamesClasses connect normalized terms →
      AnswersClasses env resolve call connect normalized terms) ∧
    (∀ (query : Query) (change : FunctionCall → FunctionCall),
      (∀ call ∈ query.calls, change call = call ∨ SameClasses resolve call (change call)) →
      ∀ order plan, (query.mapCalls change).plan (env.resolvingBy resolve) order = .ok plan ↔
        query.plan (env.resolvingBy resolve) order = .ok plan) ∧
    ∀ (query : Query) (order : Option OrderBy) (other : String → Except ResolveError String)
        (plan : Plan), query.plan (env.resolvingBy other) order = .ok plan →
      ((∀ term ∈ query.terms, ∃ uri, resolve term = .ok uri) →
        ∃ found, query.plan (env.resolvingBy resolve) order = .ok found) ∧
      ∀ before term after cause, query.terms = before ++ term :: after →
        (∀ earlier ∈ before, ∃ uri, resolve earlier = .ok uri) → resolve term = .error cause →
        query.plan (env.resolvingBy resolve) order = .error (.classification cause) := by
  refine ⟨answersClasses env resolve, ?_, ?_⟩
  · intro query change same
    apply plan_mapCalls
    intro call member
    obtain kept | classes := same call member
    · rw [kept]
      exact fun _ _ => .refl _
    · exact classes.sameOutcomes
  · intro query order other plan compiled
    have decided := plan_hinges resolve compiled
    constructor
    · intro resolved
      rw [firstUnresolved_eq_none_iff.mpr resolved] at decided
      exact decided
    · intro before term after cause divided earlier unresolved
      have first : firstUnresolved resolve query.terms = some cause :=
        firstUnresolved_eq_some_iff.mpr ⟨before, term, after, divided, earlier, unresolved⟩
      rw [first] at decided
      exact decided

/-- Two classes, one of which has two names. -/
def regions (term : String) : Except ResolveError String :=
  if term ∈ ["Asia", "#Asia"] then .ok "urn:regions#Asia"
  else if term = "China" then .ok "urn:regions#China"
  else .error (.unknown term)

/-- `s-ramp:classifiedByAnyOf(., 'term', …)` -/
def regionCall (terms : List String) : FunctionCall :=
  .sramp "classifiedByAnyOf" (.context :: terms.map .literal)

theorem namesClasses_regionCall (terms : List String) :
    (regionCall terms).NamesClasses .or true terms :=
  ⟨.inr (.inr rfl), .anyOf, rfl⟩

/-- `/s-ramp[includes[s-ramp:classifiedByAnyOf(., 'term', …)]]` -/
def regionQuery (terms : List String) : Query where
  path := .all
  predicate := some (.subartifacts
    (.relationship "includes" (some (.function (regionCall terms))) none))

/-- To ask inside a step for `China`, `#Asia` and `Asia` is to ask for `Asia` and `China`.  Asked
for `Asia`, `Mars` and `Venus`, compilation fails because of `Mars`. -/
theorem plan_of_classes_of_regions :
    (∃ front last, (∀ uri, uri ∈ front ++ [last] ↔
        ∃ term ∈ ["China", "#Asia", "Asia"], regions term = .ok uri) ∧
      ∀ walk : Walk, (regionCall ["China", "#Asia", "Asia"]).visit
        (Environment.bare.resolvingBy regions) walk =
        .ok (.constraint, walk.collect [classTests .or true walk.top.artifact front last])) ∧
    (∀ plan, (regionQuery ["China", "#Asia", "Asia"]).plan
        (Environment.bare.resolvingBy regions) none = .ok plan ↔
      (regionQuery ["Asia", "China"]).plan (Environment.bare.resolvingBy regions) none =
        .ok plan) ∧
    (regionQuery ["Asia", "Mars", "Venus"]).plan (Environment.bare.resolvingBy regions) none =
      .error (.classification (.unknown "Mars")) := by
  obtain ⟨answers, same, refused⟩ := plan_of_classes .bare regions
  have asia : regions "Asia" = .ok "urn:regions#Asia" := rfl
  have hash : regions "#Asia" = .ok "urn:regions#Asia" := rfl
  have china : regions "China" = .ok "urn:regions#China" := rfl
  refine ⟨?_, ?_, ?_⟩
  · obtain ⟨front, last, -, members, -, visited⟩ :=
      (answers (namesClasses_regionCall ["China", "#Asia", "Asia"])).resolved (by decide)
        (by simp [asia, hash, china])
    exact ⟨front, last, members, visited⟩
  · apply same (regionQuery ["Asia", "China"])
      (fun _ => regionCall ["China", "#Asia", "Asia"])
    intro call member
    have only : (regionQuery ["Asia", "China"]).calls = [regionCall ["Asia", "China"]] := rfl
    rw [only, List.mem_singleton] at member
    cases member
    refine .inr ⟨.or, true, _, _, namesClasses_regionCall ["Asia", "China"],
      namesClasses_regionCall ["China", "#Asia", "Asia"], ?_, ?_⟩
    · simp [asia, hash, china]
    · simp [asia, hash, china, or_comm]
  · have succeeds : ((regionQuery ["Asia", "Mars", "Venus"]).plan
        (Environment.bare.resolvingBy .ok) none).toOption.isSome = true := by decide +kernel
    obtain ⟨plan, compiled⟩ := exists_ok_of_isSome succeeds
    exact (refused _ none .ok plan compiled).2 ["Asia"] "Mars" ["Venus"] _ rfl
      (by simp [asia]) rfl

end Query

end Sramp
