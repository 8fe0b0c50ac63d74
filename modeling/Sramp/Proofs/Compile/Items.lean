import Sramp.Proofs.Compile.Classification

/-!
# First arguments

The functions that ask for classes or for an attribute take the context item first, and what is
asked for after it.  The first argument is never looked at: whatever stands there, be it another
term or a predicate that cannot be compiled, the plan of the query is the same.  Only what follows
the first argument is read, and read as a whole: each term is resolved, and an attribute has one
name.
-/

namespace Sramp

namespace Query

open Compile

variable {env : Environment}

/-- The call with another first argument, if its function asks for classes or an attribute. -/
def FunctionCall.withItem (item : Argument) (call : FunctionCall) : FunctionCall :=
  match Function.ofName call.name with
  | .ok (.classifiedBy _ _) | .ok (.attributeOf _) => .mk call.name (call.arguments.set 0 item)
  | _ => call

section Arguments

variable {scope : Scope} {start finish : Aliases} {call other : FunctionCall}

/-- A test for classes reads the arguments after the first one. -/
theorem yields_classificationTest_congr {any normalized : Bool} {constraint : Constraint}
    (same : other.arguments.drop 1 = call.arguments.drop 1) :
    Yields (classificationTest env scope any normalized other) start constraint finish ↔
      Yields (classificationTest env scope any normalized call) start constraint finish := by
  rw [yields_classificationTest, yields_classificationTest, same]

/-- A probe for an attribute reads the argument after the first one. -/
theorem yields_attributeProbe_congr {part : EdgePart} {found : Probe}
    (same : ∀ rest, (∃ first, other.arguments = first :: rest) ↔
      ∃ first, call.arguments = first :: rest) :
    Yields (attributeProbe scope part other) start found finish ↔
      Yields (attributeProbe scope part call) start found finish := by
  rw [yields_attributeProbe, yields_attributeProbe]
  constructor
  · rintro ⟨first, key, edge, given, leads, run⟩
    obtain ⟨item, arguments⟩ := (same _).mp ⟨first, given⟩
    exact ⟨item, key, edge, arguments, leads, run⟩
  · rintro ⟨first, key, edge, given, leads, run⟩
    obtain ⟨item, arguments⟩ := (same _).mpr ⟨first, given⟩
    exact ⟨item, key, edge, arguments, leads, run⟩

end Arguments

theorem drop_one_set_zero (arguments : List Argument) (item : Argument) :
    (arguments.set 0 item).drop 1 = arguments.drop 1 := by
  cases arguments <;> rfl

theorem exists_set_zero_eq_iff (arguments : List Argument) (item : Argument)
    (rest : List Argument) :
    (∃ first, arguments.set 0 item = first :: rest) ↔ ∃ first, arguments = first :: rest := by
  cases arguments <;> simp

/-- The first argument has no part in the outcome of a call. -/
theorem sameOutcomes_withItem (item : Argument) (call : FunctionCall) :
    SameOutcomes env call (call.withItem item) := by
  intro scope nested start outcome finish
  cases named : Function.ofName call.name with
  | error cause =>
      rw [FunctionCall.withItem, named]
  | ok function =>
      cases function with
      | classifiedBy any normalized =>
          have changed : call.withItem item = .mk call.name (call.arguments.set 0 item) := by
            rw [FunctionCall.withItem, named]
          rw [changed, yields_outcome, yields_outcome, FunctionCall.name, named]
          apply exists_congr
          intro constraint
          apply and_congr_right'
          exact yields_classificationTest_congr (drop_one_set_zero _ item)
      | attributeOf part =>
          have changed : call.withItem item = .mk call.name (call.arguments.set 0 item) := by
            rw [FunctionCall.withItem, named]
          rw [changed, yields_outcome, yields_outcome, FunctionCall.name, named]
          apply exists_congr
          intro found
          apply and_congr_right'
          exact yields_attributeProbe_congr (exists_set_zero_eq_iff _ item)
      | matching => rw [FunctionCall.withItem, named]
      | negation => rw [FunctionCall.withItem, named]

/-- What a call that asks for classes or an attribute has as arguments: something, and then the
terms, which are all resolved, or the name of the attribute. -/
structure ReadsArguments (env : Environment) (call : FunctionCall) : Prop where
  terms : call.name.InSramp → call.name.localName ∈ classificationFunctions →
    ∃ item terms uris, call.arguments = item :: terms.map (fun term => .primary (.literal term)) ∧
      terms ≠ [] ∧ env.services.resolveAll terms = .ok uris
  key : call.name.InSramp → call.name.localName ∈ attributeFunctions →
    ∃ item key, call.arguments = [item, .primary (.literal key)]

theorem not_mem_attributeFunctions {localName : String}
    (classes : localName ∈ classificationFunctions) : localName ∉ attributeFunctions := by
  have apart : ∀ name ∈ classificationFunctions, name ∉ attributeFunctions := by decide
  exact apart localName classes

theorem readsArguments_of_inXPath {call : FunctionCall} (inXPath : call.name.InXPath) :
    ReadsArguments env call where
  terms inSramp := absurd inSramp inXPath.not_inSramp
  key inSramp := absurd inSramp inXPath.not_inSramp

theorem readsArguments_of_supported {call : FunctionCall} {nested edge : Bool}
    (supported : call.Supported env nested edge) : ReadsArguments env call := by
  cases supported with
  | @classification _ _ name arguments terms uris uri _ member literals given resolved =>
      constructor
      case key => exact fun _ asks => absurd asks (not_mem_attributeFunctions member)
      case terms =>
        intro _ _
        cases arguments with
        | nil => exact absurd (List.map_eq_nil_iff.mp literals.symm) given
        | cons item rest =>
            exact ⟨item, terms, uris, congrArg (item :: ·) literals, given, resolved⟩
  | attributeOf asks =>
      cases asks with
      | mk item key _ member =>
          constructor
          case key => exact fun _ _ => ⟨item, key, rfl⟩
          case terms => exact fun _ asks => absurd member (not_mem_attributeFunctions asks)
  | fullText inXPath => exact readsArguments_of_inXPath inXPath
  | matching inXPath => exact readsArguments_of_inXPath inXPath
  | negation inXPath => exact readsArguments_of_inXPath inXPath

/-- A query is compiled in the same way whatever stands as the first argument of its calls that
ask for classes or an attribute; of such calls in a query that is compiled, the arguments after
the first one are the terms, or the name of the attribute. -/
theorem plan_withItem (env : Environment) (query : Query) (order : Option OrderBy) (plan : Plan)
    (items : FunctionCall → Argument) :
    ((query.mapCalls fun call => call.withItem (items call)).plan env order = .ok plan ↔
      query.plan env order = .ok plan) ∧
    (query.plan env order = .ok plan → ∀ call ∈ query.calls, ReadsArguments env call) := by
  constructor
  · apply plan_mapCalls
    intro call _
    exact sameOutcomes_withItem (items call) call
  · intro compiled call member
    obtain ⟨sound, level, finish, sorting, run, -⟩ := plan_eq_ok_iff.mp compiled
    have valid := Settings.fault?_eq_none_iff.mp sound
    have supported := (completes_level_iff valid).mp ⟨level, finish, run⟩
    obtain ⟨nested, edge, called⟩ := supported_of_mem_calls supported member
    exact readsArguments_of_supported called

/-- `/s-ramp[includes[s-ramp:getTargetAttribute(item, 'k')]
  and s-ramp:classifiedByAnyOf(item, 'Asia')]` -/
def itemQuery (item : Argument) : Query where
  path := .all
  predicate := some (.and
    (.subartifacts (.relationship "includes"
      (some (.function (.sramp "getTargetAttribute" [item, .literal "k"]))) none))
    (.function (.sramp "classifiedByAnyOf" [item, .literal "Asia"])))

/-- Services that know the class `Asia`. -/
def asiaEnvironment : Environment :=
  Environment.bare.resolvingBy fun term =>
    if term = "Asia" then .ok "urn:regions#Asia" else .error (.unknown term)

/-- The same plan is made where the context item comes first, and where another term or a call
of an unknown function does. -/
theorem plan_withItem_of_items :
    ∃ plan, (itemQuery .context).plan asiaEnvironment none = .ok plan ∧
      (itemQuery (.literal "Mars")).plan asiaEnvironment none = .ok plan ∧
      (itemQuery (.expr (.function (.sramp "unknown" [])))).plan asiaEnvironment none =
        .ok plan ∧
      ∀ call ∈ (itemQuery .context).calls, ReadsArguments asiaEnvironment call := by
  have succeeds : ((itemQuery .context).plan asiaEnvironment none).toOption.isSome = true := by
    decide +kernel
  obtain ⟨plan, compiled⟩ := exists_ok_of_isSome succeeds
  have same (item : Argument) : (itemQuery item).plan asiaEnvironment none = .ok plan :=
    (plan_withItem asiaEnvironment (itemQuery .context) none plan fun _ => item).1.mpr compiled
  exact ⟨plan, compiled, same _, same _,
    (plan_withItem asiaEnvironment (itemQuery .context) none plan fun _ => .context).2 compiled⟩

/-- A query is compiled whose calls have no context item: `Mars`, which names no class, comes
first in both. -/
theorem exists_plan_without_context :
    asiaEnvironment.services.resolveAll ["Mars"] = .error (.unknown "Mars") ∧
      (∃ plan, (itemQuery (.literal "Mars")).plan asiaEnvironment none = .ok plan) ∧
      (itemQuery (.literal "Mars")).calls =
        [.sramp "getTargetAttribute" [.literal "Mars", .literal "k"],
          .sramp "classifiedByAnyOf" [.literal "Mars", .literal "Asia"]] ∧
      ¬(Argument.literal "Mars").IsContext := by
  refine ⟨rfl, exists_ok_of_isSome (by decide +kernel), rfl, ?_⟩
  rintro ⟨⟩

end Query

end Sramp
