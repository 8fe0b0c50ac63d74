import Sramp.Proofs.Compile.Calls
import Sramp.Proofs.Ontology.Terms
import Sramp.Proofs.Text.ByteOrder
import Sramp.Proofs.Walk.Agreement
import Sramp.Query.Build

/-!
# Questions for classes

The functions that ask for classes depend on their terms only through the set of the URIs that
these resolve to: the tests for the single URIs are connected in the order of their bytes, each
URI once.  Failures do depend on the order of the terms, because the first term that does not
resolve decides.
-/

namespace Sramp

namespace Compile

/-- The environment in which terms are resolved one by one. -/
def Environment.resolvingBy (env : Environment)
    (resolve : String → Except ResolveError String) : Environment :=
  { env with services := { env.services with resolveAll := UriSet.resolveEach resolve } }

@[simp] theorem Environment.settings_resolvingBy (env : Environment)
    (resolve : String → Except ResolveError String) :
    (env.resolvingBy resolve).settings = env.settings := rfl

end Compile

namespace Query

open Compile

/-- How the functions that ask for classes connect the tests for single classes, and whether
these are about the normalized classes of an artifact. -/
inductive ClassFunction : String → (Constraint → Constraint → Constraint) → Bool → Prop where
  | anyOf : ClassFunction "classifiedByAnyOf" .or true
  | allOf : ClassFunction "classifiedByAllOf" .and true
  | exactlyAnyOf : ClassFunction "exactlyClassifiedByAnyOf" .or false
  | exactlyAllOf : ClassFunction "exactlyClassifiedByAllOf" .and false

/-- A call of a function that asks for classes, with string literals after its first
argument. -/
structure FunctionCall.NamesClasses (call : FunctionCall)
    (connect : Constraint → Constraint → Constraint) (normalized : Bool) (terms : List String) :
    Prop where
  inSramp : call.name.InSramp
  function : ClassFunction call.name.localName connect normalized
  literals : call.arguments.drop 1 = terms.map fun term => .primary (.literal term)

/-- An artifact has a class. -/
def classTest (normalized : Bool) (artifact : Selector) (uri : String) : Constraint :=
  .equals artifact (.classifier normalized) (.string uri)

/-- The tests for some classes, each connected with those that follow it. -/
def classTests (connect : Constraint → Constraint → Constraint) (normalized : Bool)
    (artifact : Selector) (front : List String) (last : String) : Constraint :=
  front.foldr (fun uri others => connect (classTest normalized artifact uri) others)
    (classTest normalized artifact last)

section Calls

variable {env : Environment} {resolve : String → Except ResolveError String}
variable {call : FunctionCall} {connect : Constraint → Constraint → Constraint}
variable {normalized : Bool} {terms : List String} {cause : ResolveError}

theorem FunctionCall.NamesClasses.named (names : call.NamesClasses connect normalized terms) :
    ∃ any, Function.ofName call.name = .ok (.classifiedBy any normalized) ∧
      (if any then .or else .and) = connect := by
  rw [ofName_of_inSramp names.inSramp]
  have function := names.function
  generalize call.name.localName = localName at function ⊢
  cases function
  case anyOf => exact ⟨true, rfl, rfl⟩
  case allOf => exact ⟨false, rfl, rfl⟩
  case exactlyAnyOf => exact ⟨true, rfl, rfl⟩
  case exactlyAllOf => exact ⟨false, rfl, rfl⟩

theorem outcome_of_classifiedBy {any : Bool}
    (named : Function.ofName call.name = .ok (.classifiedBy any normalized)) (scope : Scope)
    (nested : Bool) :
    call.outcome env scope nested = (do
      return .settled (← classificationTest env scope any normalized call)) := by
  cases call with
  | mk name arguments =>
      rw [FunctionCall.name] at named
      unfold FunctionCall.outcome
      rw [named]

/-- What the names of the functions that ask for classes denote. -/
theorem FunctionCall.namesClasses_of_classifiedBy {any : Bool}
    (named : Function.ofName call.name = .ok (.classifiedBy any normalized))
    (literals : call.arguments.drop 1 = terms.map fun term => .primary (.literal term)) :
    call.NamesClasses (if any then .or else .and) normalized terms := by
  obtain ⟨inSramp, named⟩ | ⟨-, named⟩ := ofName_eq_ok named
  · refine ⟨inSramp, ?_, literals⟩
    generalize call.name.localName = localName at named ⊢
    unfold Function.ofSramp at named
    split at named <;> cases named
    · exact .anyOf
    · exact .allOf
    · exact .exactlyAnyOf
    · exact .exactlyAllOf
  · obtain ⟨-, same⟩ | ⟨-, same⟩ := ofXPath_eq_ok named <;> cases same

/-- A call that asks for classes is visited as it is compiled. -/
theorem visit_of_classifiedBy {any : Bool}
    (named : Function.ofName call.name = .ok (.classifiedBy any normalized)) (walk : Walk) :
    call.visit env walk =
      walk.follow Walk.settle (call.outcome env walk.scope walk.nested) := by
  rw [outcome_of_classifiedBy named]
  cases call with
  | mk name arguments =>
      rw [FunctionCall.name] at named
      unfold FunctionCall.visit
      rw [named]
      exact Visit.classification_eq any normalized _ walk

/-- What a call that asks for classes by terms is compiled to. -/
theorem FunctionCall.NamesClasses.yields_outcome_iff
    (names : call.NamesClasses connect normalized terms) {scope : Scope} {nested : Bool}
    {start finish : Aliases} {outcome : Outcome} :
    Yields (call.outcome env scope nested) start outcome finish ↔
      terms ≠ [] ∧ ∃ uris constraint, env.services.resolveAll terms = .ok uris ∧
        Constraint.joinAll connect (uris.toList.map (classTest normalized scope.artifact)) =
          some constraint ∧
        outcome = .settled constraint ∧ finish = start := by
  obtain ⟨any, named, connects⟩ := names.named
  have join : (if any then Constraint.any else Constraint.all) = Constraint.joinAll connect := by
    rw [← connects]
    cases any <;> rfl
  rw [yields_outcome, named]
  simp only [yields_classificationTest, join]
  constructor
  · rintro ⟨constraint, settled, found, uris, literals, given, done, made, same⟩
    have equal := (termArguments_eq_ok.mpr literals).symm.trans
      (termArguments_eq_ok.mpr names.literals)
    cases equal
    exact ⟨given, uris, constraint, done, made, settled, same⟩
  · rintro ⟨given, uris, constraint, done, made, settled, same⟩
    exact ⟨constraint, settled, terms, uris, names.literals, given, done, made, same⟩

theorem classificationTest_of_no_terms (literals : call.arguments.drop 1 = []) (scope : Scope)
    (any normalized : Bool) (aliases : Aliases) :
    classificationTest env scope any normalized call aliases =
      .error (.unsupported (.noTerms call.name.localName) call.text) := by
  rw [classificationTest, literals]
  rfl

theorem classificationTest_of_unresolved
    (literals : call.arguments.drop 1 = terms.map fun term => .primary (.literal term))
    (given : terms ≠ []) (failed : env.services.resolveAll terms = .error cause) (scope : Scope)
    (any normalized : Bool) (aliases : Aliases) :
    classificationTest env scope any normalized call aliases = .error (.classification cause) := by
  have nonempty : terms.isEmpty = false := by simpa using given
  rw [classificationTest, termArguments_eq_ok.mpr literals]
  have answered : answer ((env.services.resolveAll terms).mapError .classification) aliases =
      .error (.classification cause) := by
    rw [failed]
    rfl
  have begun : answer (.ok terms) aliases = .ok (terms, aliases) := rfl
  apply (bind_of_ok begun).trans
  rw [nonempty]
  exact bind_of_error answered

/-- Terms that resolve have a last URI. -/
theorem exists_concat_of_resolved {uris : UriSet} (given : terms ≠ [])
    (resolved : ∀ term ∈ terms, ∃ uri, resolve term = .ok uri)
    (members : ∀ uri, uri ∈ uris ↔ ∃ term ∈ terms, resolve term = .ok uri) :
    ∃ front last, uris.toList = front ++ [last] := by
  obtain ⟨uri, found⟩ := (UriSet.ne_nil_iff_exists_uri resolved).mp given
  have nonempty : uris.toList ≠ [] := List.ne_nil_of_mem ((members uri).mpr found)
  exact ⟨_, _, (List.dropLast_concat_getLast nonempty).symm⟩

/-- Where all terms resolve, a call is compiled to the connected tests for their URIs, each URI
once and in the order of the bytes. -/
theorem FunctionCall.NamesClasses.exists_outcome
    (names : call.NamesClasses connect normalized terms) (given : terms ≠ [])
    (resolved : ∀ term ∈ terms, ∃ uri, resolve term = .ok uri) : ∃ front last,
    (front ++ [last]).Pairwise (fun uri other => Text.bytes uri < Text.bytes other) ∧
    (∀ uri, uri ∈ front ++ [last] ↔ ∃ term ∈ terms, resolve term = .ok uri) ∧
    ∀ scope nested aliases, call.outcome (env.resolvingBy resolve) scope nested aliases =
      .ok (.settled (classTests connect normalized scope.artifact front last), aliases) := by
  obtain ⟨uris, done, members⟩ := UriSet.resolveEach_of_resolved resolved
  obtain ⟨front, last, list⟩ := exists_concat_of_resolved given resolved members
  refine ⟨front, last, ?_, ?_, ?_⟩
  · rw [← list]
    exact uris.increasing.imp Text.bytes_lt_iff.mpr
  · intro uri
    rw [← list, UriSet.mem_toList, members]
  · intro scope nested aliases
    refine names.yields_outcome_iff.mpr ⟨given, uris, _, done, ?_, rfl, rfl⟩
    rw [list]
    exact Constraint.joinAll_map_concat connect _ front last

/-- Where some term does not resolve, a call fails with the error of the first such term. -/
theorem FunctionCall.NamesClasses.outcome_of_unresolved
    (names : call.NamesClasses connect normalized terms)
    (first : UriSet.firstUnresolved resolve terms = some cause) (scope : Scope) (nested : Bool)
    (aliases : Aliases) :
    call.outcome (env.resolvingBy resolve) scope nested aliases =
      .error (.classification cause) := by
  obtain ⟨any, named, -⟩ := names.named
  have given : terms ≠ [] := by
    rintro rfl
    cases first
  rw [outcome_of_classifiedBy named]
  apply bind_of_error
  exact classificationTest_of_unresolved names.literals given
    (UriSet.resolveEach_of_unresolved first) scope any normalized aliases

/-- What a call that asks for classes by terms is compiled to, where terms are resolved one by
one: nothing without terms; the connected tests for the URIs of the terms, each URI once and in
the order of the bytes; or the error of the first term that does not resolve. -/
structure AnswersClasses (env : Environment) (resolve : String → Except ResolveError String)
    (call : FunctionCall) (connect : Constraint → Constraint → Constraint) (normalized : Bool)
    (terms : List String) : Prop where
  refused : terms = [] → ∀ scope nested aliases,
    call.outcome (env.resolvingBy resolve) scope nested aliases =
      .error (.unsupported (.noTerms call.name.localName) call.text)
  resolved : terms ≠ [] → (∀ term ∈ terms, ∃ uri, resolve term = .ok uri) → ∃ front last,
    (front ++ [last]).Pairwise (fun uri other => Text.bytes uri < Text.bytes other) ∧
    (∀ uri, uri ∈ front ++ [last] ↔ ∃ term ∈ terms, resolve term = .ok uri) ∧
    (∀ scope nested aliases, call.outcome (env.resolvingBy resolve) scope nested aliases =
      .ok (.settled (classTests connect normalized scope.artifact front last), aliases)) ∧
    ∀ walk : Walk, call.visit (env.resolvingBy resolve) walk =
      .ok (.constraint, walk.collect [classTests connect normalized walk.top.artifact front last])
  unresolved : ∀ {before after : List String} {term : String} {cause : ResolveError},
    terms = before ++ term :: after → (∀ earlier ∈ before, ∃ uri, resolve earlier = .ok uri) →
    resolve term = .error cause →
    (∀ scope nested aliases, call.outcome (env.resolvingBy resolve) scope nested aliases =
      .error (.classification cause)) ∧
    ∀ walk : Walk, call.visit (env.resolvingBy resolve) walk = .error (.classification cause)

theorem answersClasses (env : Environment) (resolve : String → Except ResolveError String)
    (names : call.NamesClasses connect normalized terms) :
    AnswersClasses env resolve call connect normalized terms := by
  obtain ⟨any, named, -⟩ := names.named
  constructor
  case refused =>
    rintro rfl scope nested aliases
    rw [outcome_of_classifiedBy named]
    apply bind_of_error
    exact classificationTest_of_no_terms names.literals scope any normalized aliases
  case resolved =>
    intro given resolved
    obtain ⟨front, last, increasing, members, settled⟩ := names.exists_outcome given resolved
    refine ⟨front, last, increasing, members, settled, ?_⟩
    intro walk
    rw [visit_of_classifiedBy named]
    exact Walk.follow_of_ok (settled walk.scope walk.nested walk.aliases)
  case unresolved =>
    intro before after term cause divided earlier unresolved
    have first : UriSet.firstUnresolved resolve terms = some cause :=
      UriSet.firstUnresolved_eq_some_iff.mpr ⟨before, term, after, divided, earlier, unresolved⟩
    refine ⟨names.outcome_of_unresolved first, ?_⟩
    intro walk
    rw [visit_of_classifiedBy named]
    exact Walk.follow_of_error
      (names.outcome_of_unresolved first walk.scope walk.nested walk.aliases)

/-- Two calls ask for the same classes in the same way, whatever terms they name them by. -/
def SameClasses (resolve : String → Except ResolveError String) (call other : FunctionCall) :
    Prop :=
  ∃ connect normalized terms others,
    call.NamesClasses connect normalized terms ∧ other.NamesClasses connect normalized others ∧
    (∀ term ∈ terms ++ others, ∃ uri, resolve term = .ok uri) ∧
    ∀ uri, (∃ term ∈ terms, resolve term = .ok uri) ↔ ∃ term ∈ others, resolve term = .ok uri

/-- Calls that ask for the same classes in the same way have the same outcomes. -/
theorem SameClasses.sameOutcomes {other : FunctionCall} (same : SameClasses resolve call other) :
    SameOutcomes (env.resolvingBy resolve) call other := by
  obtain ⟨connect, normalized, terms, others, first, second, resolved, equal⟩ := same
  have uris : (env.resolvingBy resolve).services.resolveAll terms =
      (env.resolvingBy resolve).services.resolveAll others :=
    UriSet.resolveEach_congr resolved equal
  obtain ⟨resolves, otherResolves⟩ := List.forall_mem_append.mp resolved
  have given : terms ≠ [] ↔ others ≠ [] := by
    rw [UriSet.ne_nil_iff_exists_uri resolves, UriSet.ne_nil_iff_exists_uri otherResolves]
    exact exists_congr equal
  intro scope nested start outcome finish
  rw [first.yields_outcome_iff, second.yields_outcome_iff, uris, given]

end Calls

end Query

end Sramp
