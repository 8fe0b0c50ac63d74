import Mathlib.Data.List.TakeWhile
import Sramp.Proofs.Compile.Level
import Sramp.Proofs.Query.Language

/-!
# Compilation accepts the supported language

A predicate is compiled, from any aliases given before, if and only if it follows the rules of
the supported language; and a query if moreover the settings are valid and the request for an
order can be met.
-/

namespace Sramp

namespace QName

variable {name : QName}

theorem isSramp_iff : name.isSramp = true ↔ name.InSramp := by
  rcases name with ⟨_ | space, label, localName⟩
  · simp [isSramp, namespaceUri, InSramp]
  · by_cases empty : space = ""
    · simp [isSramp, namespaceUri, InSramp, empty]
    · simp [isSramp, namespaceUri, InSramp, empty]

theorem isXPath_iff : name.isXPath = true ↔ name.InXPath := by
  have apart : srampNamespace ≠ xpathNamespace := by decide
  have given : xpathNamespace ≠ "" := by decide
  rcases name with ⟨_ | space, label, localName⟩
  · simp [isXPath, namespaceUri, InXPath, apart]
  · by_cases empty : space = ""
    · simp [isXPath, namespaceUri, InXPath, empty, apart, given.symm]
    · simp [isXPath, namespaceUri, InXPath, empty]

/-- No name is in both namespaces. -/
theorem InXPath.not_inSramp (inXPath : name.InXPath) : ¬name.InSramp := by
  have apart : xpathNamespace ≠ "" ∧ xpathNamespace ≠ srampNamespace := by decide
  simp only [InXPath] at inXPath
  simp [InSramp, inXPath, apart]

end QName

namespace Compile

open Query

variable {α β : Type} {env : Environment} {scope : Scope} {start finish : Aliases}

/-- What the names of the S-RAMP functions denote. -/
theorem ofSramp_eq_ok {localName : String} {function : Function}
    (named : Function.ofSramp localName = .ok function) :
    (localName ∈ classificationFunctions ∧
        ∃ any normalized, function = .classifiedBy any normalized) ∨
      (localName ∈ attributeFunctions ∧ ∃ part, function = .attributeOf part) := by
  unfold Function.ofSramp at named
  split at named <;> cases named <;> simp [classificationFunctions, attributeFunctions]

/-- What the names of the XPath functions denote. -/
theorem ofXPath_eq_ok {localName : String} {function : Function}
    (named : Function.ofXPath localName = .ok function) :
    (localName = "matches" ∧ function = .matching) ∨
      (localName = "not" ∧ function = .negation) := by
  unfold Function.ofXPath at named
  split at named <;> cases named <;> simp

theorem ofName_of_inSramp {name : QName} (inSramp : name.InSramp) :
    Function.ofName name = Function.ofSramp name.localName := by
  rw [Function.ofName, if_pos (QName.isSramp_iff.mpr inSramp)]

theorem ofName_of_inXPath {name : QName} (inXPath : name.InXPath) :
    Function.ofName name = Function.ofXPath name.localName := by
  have foreign : ¬name.isSramp = true := by
    rw [QName.isSramp_iff]
    exact inXPath.not_inSramp
  rw [Function.ofName, if_neg foreign, if_pos (QName.isXPath_iff.mpr inXPath)]

/-- A name denotes a function of the namespace that it is in. -/
theorem ofName_eq_ok {name : QName} {function : Function}
    (named : Function.ofName name = .ok function) :
    (name.InSramp ∧ Function.ofSramp name.localName = .ok function) ∨
      (name.InXPath ∧ Function.ofXPath name.localName = .ok function) := by
  unfold Function.ofName at named
  split at named
  next sramp => exact .inl ⟨QName.isSramp_iff.mp sramp, named⟩
  next =>
      split at named
      next xpath => exact .inr ⟨QName.isXPath_iff.mp xpath, named⟩
      next => contradiction

theorem exists_classifiedBy_iff {name : QName} :
    (∃ any normalized, Function.ofName name = .ok (.classifiedBy any normalized)) ↔
      name.InSramp ∧ name.localName ∈ classificationFunctions := by
  constructor
  · intro named
    rcases named with ⟨any, normalized, named⟩
    rcases ofName_eq_ok named with ⟨inSramp, named⟩ | ⟨-, named⟩
    · rcases ofSramp_eq_ok named with ⟨member, -⟩ | ⟨-, part, same⟩
      · exact ⟨inSramp, member⟩
      · cases same
    · rcases ofXPath_eq_ok named with ⟨-, same⟩ | ⟨-, same⟩ <;> cases same
  · rintro ⟨inSramp, member⟩
    rw [ofName_of_inSramp inSramp]
    simp only [classificationFunctions, List.mem_cons, List.not_mem_nil, or_false] at member
    rcases member with same | same | same | same <;> rw [same] <;> exact ⟨_, _, rfl⟩

theorem exists_attributeOf_iff {name : QName} :
    (∃ part, Function.ofName name = .ok (.attributeOf part)) ↔
      name.InSramp ∧ name.localName ∈ attributeFunctions := by
  constructor
  · intro named
    rcases named with ⟨part, named⟩
    rcases ofName_eq_ok named with ⟨inSramp, named⟩ | ⟨-, named⟩
    · rcases ofSramp_eq_ok named with ⟨-, _, _, same⟩ | ⟨member, -⟩
      · cases same
      · exact ⟨inSramp, member⟩
    · rcases ofXPath_eq_ok named with ⟨-, same⟩ | ⟨-, same⟩ <;> cases same
  · rintro ⟨inSramp, member⟩
    rw [ofName_of_inSramp inSramp]
    simp only [attributeFunctions, List.mem_cons, List.not_mem_nil, or_false] at member
    rcases member with same | same <;> rw [same] <;> exact ⟨_, rfl⟩

theorem ofName_eq_matching_iff {name : QName} :
    Function.ofName name = .ok .matching ↔ name.InXPath ∧ name.localName = "matches" := by
  constructor
  · intro named
    rcases ofName_eq_ok named with ⟨-, named⟩ | ⟨inXPath, named⟩
    · rcases ofSramp_eq_ok named with ⟨-, _, _, same⟩ | ⟨-, _, same⟩ <;> cases same
    · rcases ofXPath_eq_ok named with ⟨same, -⟩ | ⟨-, same⟩
      · exact ⟨inXPath, same⟩
      · cases same
  · rintro ⟨inXPath, same⟩
    rw [ofName_of_inXPath inXPath, same]
    rfl

theorem ofName_eq_negation_iff {name : QName} :
    Function.ofName name = .ok .negation ↔ name.InXPath ∧ name.localName = "not" := by
  constructor
  · intro named
    rcases ofName_eq_ok named with ⟨-, named⟩ | ⟨inXPath, named⟩
    · rcases ofSramp_eq_ok named with ⟨-, _, _, same⟩ | ⟨-, _, same⟩ <;> cases same
    · rcases ofXPath_eq_ok named with ⟨-, same⟩ | ⟨same, -⟩
      · cases same
      · exact ⟨inXPath, same⟩
  · rintro ⟨inXPath, same⟩
    rw [ofName_of_inXPath inXPath, same]
    rfl

/-- An action succeeds from some aliases. -/
def Completes (action : Fresh α) (start : Aliases) : Prop :=
  ∃ value finish, Yields action start value finish

theorem completes_pure (value : α) : Completes (pure value) start :=
  ⟨value, start, yields_pure.mpr ⟨rfl, rfl⟩⟩

theorem completes_fresh (kind : NodeKind) : Completes (fresh kind) start :=
  ⟨_, _, yields_fresh.mpr ⟨rfl, rfl⟩⟩

theorem completes_answer_iff {result : Except Error α} :
    Completes (answer result) start ↔ ∃ value, result = .ok value := by
  simp [Completes]

theorem not_completes_unsupported {cause : Unsupported} {fragment : String} :
    ¬Completes (unsupported cause fragment : Fresh α) start := by
  simp [Completes]

/-- A sequence is complete if its first part is, and what follows that. -/
theorem Completes.bind {first : Fresh α} {next : α → Fresh β} (begins : Completes first start)
    (follows : ∀ inner between, Completes (next inner) between) :
    Completes (first >>= next) start := by
  rcases begins with ⟨inner, between, begun⟩
  rcases follows inner between with ⟨value, finish, ended⟩
  exact ⟨value, finish, yields_bind.mpr ⟨inner, between, begun, ended⟩⟩

/-- A sequence is complete if its first part is, and what follows it has the property that
then decides. -/
theorem completes_bind_iff {first : Fresh α} {next : α → Fresh β} {Holds : Prop}
    (follows : ∀ inner between, Yields first start inner between →
      (Completes (next inner) between ↔ Holds)) :
    Completes (first >>= next) start ↔ Completes first start ∧ Holds := by
  simp only [Completes, yields_bind]
  constructor
  · intro run
    rcases run with ⟨value, finish, inner, between, begun, ended⟩
    exact ⟨⟨inner, between, begun⟩, (follows inner between begun).mp ⟨value, finish, ended⟩⟩
  · intro parts
    rcases parts with ⟨⟨inner, between, begun⟩, holds⟩
    rcases (follows inner between begun).mpr holds with ⟨value, finish, ended⟩
    exact ⟨value, finish, inner, between, begun, ended⟩

/-- What always goes on is complete if it is begun. -/
theorem completes_bind_of_forall {first : Fresh α} {next : α → Fresh β}
    (follows : ∀ inner between, Completes (next inner) between) :
    Completes (first >>= next) start ↔ Completes first start := by
  rw [completes_bind_iff fun inner between _ => iff_true_intro (follows inner between), and_true]

theorem completes_fresh_bind_iff {kind : NodeKind} {next : Selector → Fresh β} :
    Completes (fresh kind >>= next) start ↔
      Completes (next (start.next kind)) (start.bump (.ofKind kind)) := by
  simp only [Completes, yields_bind, yields_fresh]
  constructor
  · intro run
    rcases run with ⟨value, finish, _, _, ⟨rfl, rfl⟩, ended⟩
    exact ⟨value, finish, ended⟩
  · intro run
    rcases run with ⟨value, finish, ended⟩
    exact ⟨value, finish, _, _, ⟨rfl, rfl⟩, ended⟩

/-- Two connected parts are complete if both are, wherever the second begins. -/
theorem completes_connected_iff {first second : Fresh Constraint}
    {connect : Constraint → Constraint → Constraint} {Holds : Prop}
    (follows : ∀ between, Completes second between ↔ Holds) :
    Completes (do
      let left ← first
      let right ← second
      return connect left right) start ↔ Completes first start ∧ Holds := by
  apply completes_bind_iff
  intro left between _
  rw [completes_bind_of_forall fun _ _ => completes_pure _, follows]

/-- The aliases given last do not matter. -/
theorem completes_bind_fresh_iff {first : Fresh α} {kind : NodeKind} {image : α → Selector → β} :
    Completes (do
      let inner ← first
      let selector ← fresh kind
      return image inner selector) start ↔ Completes first start :=
  completes_bind_of_forall fun _ _ => completes_fresh_bind_iff.mpr (completes_pure _)

/-- An action is complete if and only if the action is that it gets its value from. -/
theorem completes_iff_of_yields {action : Fresh α} {inner : Fresh β} {image : β → α}
    (same : ∀ value finish, Yields action start value finish ↔
      ∃ given, value = image given ∧ Yields inner start given finish) :
    Completes action start ↔ Completes inner start := by
  simp only [Completes, same]
  constructor
  · intro run
    rcases run with ⟨_, finish, given, -, run⟩
    exact ⟨given, finish, run⟩
  · intro run
    rcases run with ⟨given, finish, run⟩
    exact ⟨image given, finish, given, rfl, run⟩

/-! ## Tests -/

theorem isTimestamp_of_ofLocalName {localName : String} {property : CoreProperty}
    (named : CoreProperty.ofLocalName? localName = some property) :
    property.isTimestamp = decide (localName ∈ timestampProperties) := by
  have same : property.localName = localName := by
    simpa using List.find?_some named
  rw [← same]
  cases property <;> decide

/-- What is tested holds a point in time if its name says so. -/
theorem isTimestamp_of_testedProperty {name : QName} {tested : Tested}
    (run : Yields (testedProperty scope name) start tested finish) :
    tested.property.isTimestamp = decide (name.localName ∈ timestampProperties) := by
  rcases yields_testedProperty.mp run with
    ⟨-, ⟨property, named, rfl, -⟩ | ⟨unnamed, found, rfl, -⟩⟩
  · exact isTimestamp_of_ofLocalName named
  · have other : name.localName ∉ timestampProperties := by
      intro member
      simp only [timestampProperties, List.mem_cons, List.not_mem_nil, or_false] at member
      rcases member with same | same <;> rw [same] at unnamed <;> revert unnamed <;> decide
    simp [other, Tested.property, Property.isTimestamp]

theorem completes_testedProperty_iff {name : QName} :
    Completes (testedProperty scope name) start ↔ name.InSramp := by
  rw [← QName.isSramp_iff]
  simp only [Completes, yields_testedProperty]
  constructor
  · intro run
    rcases run with ⟨tested, finish, inSramp, -⟩
    exact inSramp
  · intro inSramp
    cases named : CoreProperty.ofLocalName? name.localName with
    | some property => exact ⟨_, _, inSramp, .inl ⟨property, rfl, rfl, rfl⟩⟩
    | none => exact ⟨_, _, inSramp, .inr ⟨rfl, _, rfl, yields_probe.mpr ⟨rfl, rfl⟩⟩⟩

/-- The texts that a timestamp or another property is compared with. -/
theorem exists_coerce_literal_iff {property : Property} {text : String}
    {format : DateFormat} :
    (∃ value, Value.coerce (some property) (.literal text) format = .ok value) ↔
      Comparable format property.isTimestamp (.literal text) := by
  simp only [Value.coerce, Option.any_some]
  by_cases timestamp : property.isTimestamp = true
  · simp only [timestamp, if_true, Value.ofDateLiteral]
    constructor
    · intro coerced
      split at coerced
      next day parsed => exact .date text parsed
      next => simp at coerced
    · intro comparable
      cases comparable with
      | text _ other => contradiction
      | date _ parsed => exact ⟨_, by rw [parsed]⟩
  · rw [Bool.not_eq_true] at timestamp
    have coerced : ∃ value, (if some property = some Property.entryValue then
        (.ok (.string text) : Except Error Value) else .ok (Value.ofLiteral text)) =
        .ok value := by
      split <;> exact ⟨_, rfl⟩
    simp only [timestamp, Bool.false_eq_true, if_false]
    exact iff_of_true coerced (.text text rfl)

/-- The right sides of comparisons that have a value. -/
theorem exists_coerce_iff {property : Property} {right : Primary} {format : DateFormat} :
    (∃ value, Value.coerce (some property) right format = .ok value) ↔
      Comparable format property.isTimestamp right := by
  cases right with
  | literal text => exact exists_coerce_literal_iff
  | number value => exact iff_of_true ⟨_, rfl⟩ (.number value)
  | property name =>
      apply iff_of_false
      · simp [Value.coerce]
      · intro comparable
        cases comparable
  | contextItem =>
      apply iff_of_false
      · simp [Value.coerce]
      · intro comparable
        cases comparable

theorem completes_testConstraint_iff {tested : Tested} {operator : Operator} {right : Primary} :
    Completes (testConstraint env tested (some (operator, right))) start ↔
      Comparable env.dateFormat tested.property.isTimestamp right := by
  rw [testConstraint, completes_bind_of_forall fun _ _ => completes_pure _,
    completes_answer_iff, exists_coerce_iff]

theorem isContextItem_iff {argument : Argument} :
    isContextItem argument = true ↔ argument.IsContext := by
  constructor
  · intro item
    unfold isContextItem at item
    split at item
    · exact .primary
    · contradiction
    · split at item
      next bare =>
          rw [bareSubject?_eq_some.mp bare]
          exact .expr
      · contradiction
  · intro item
    cases item <;> rfl

/-- Some class must be asked for, and all that are asked for must be found. -/
theorem completes_classificationTest_iff {any normalized : Bool} {call : FunctionCall} :
    Completes (classificationTest env scope any normalized call) start ↔
      ∃ terms uris uri, call.arguments.drop 1 = terms.map (fun term => .primary (.literal term)) ∧
        terms ≠ [] ∧ env.services.resolveAll terms = .ok uris ∧ uri ∈ uris := by
  simp only [Completes, yields_classificationTest]
  constructor
  · intro run
    rcases run with ⟨constraint, finish, terms, uris, literals, given, resolved, made, -⟩
    cases found : uris.toList with
    | nil => cases any <;> simp [found, Constraint.any, Constraint.all] at made
    | cons uri rest =>
        have member : uri ∈ uris := by
          rw [← UriSet.mem_toList, found]
          exact List.mem_cons_self
        exact ⟨terms, uris, uri, literals, given, resolved, member⟩
  · intro classes
    rcases classes with ⟨terms, uris, uri, literals, given, resolved, member⟩
    have connected : ∀ connect, Constraint.joinAll connect (uris.toList.map fun uri =>
        Constraint.equals scope.artifact (.classifier normalized) (.string uri)) ≠ none := by
      intro connect none
      rw [Constraint.joinAll_eq_none_iff, List.map_eq_nil_iff] at none
      rw [← UriSet.mem_toList, none] at member
      exact absurd member List.not_mem_nil
    have made : ∃ constraint, (if any then Constraint.any else Constraint.all)
        (uris.toList.map fun uri =>
          .equals scope.artifact (.classifier normalized) (.string uri)) = some constraint := by
      cases any with
      | true => exact Option.ne_none_iff_exists'.mp (connected .or)
      | false => exact Option.ne_none_iff_exists'.mp (connected .and)
    rcases made with ⟨constraint, made⟩
    exact ⟨constraint, start, terms, uris, literals, given, resolved, made, rfl⟩

theorem hitTests_ne_nil {chunkSize : Nat} (positive : 0 < chunkSize) (ids : List String) :
    hitTests scope chunkSize ids ≠ [] := by
  cases ids with
  | nil => simp [hitTests]
  | cons first rest =>
      rw [hitTests, chunks]
      simp [Nat.pos_iff_ne_zero.mp positive]

theorem completes_fullTextTest_iff (valid : env.settings.Valid) {pattern : String} :
    Completes (fullTextTest env scope pattern) start ↔
      ∃ ids, env.services.search pattern env.settings.fullTextFields = .ok ids := by
  simp only [Completes, yields_fullTextTest]
  constructor
  · intro run
    rcases run with ⟨constraint, finish, ids, found, -⟩
    exact ⟨ids, found⟩
  · intro hits
    rcases hits with ⟨ids, found⟩
    have connected : Constraint.any (hitTests scope env.settings.chunkSize ids) ≠ none := by
      intro none
      rw [Constraint.any, Constraint.joinAll_eq_none_iff] at none
      exact hitTests_ne_nil valid.chunkSize_pos ids none
    rcases Option.ne_none_iff_exists'.mp connected with ⟨constraint, made⟩
    exact ⟨constraint, start, ids, found, made, rfl⟩

/-- What is matched with a pattern is the full text, or a property. -/
theorem completes_matchTest_iff (valid : env.settings.Valid) {call : FunctionCall} :
    Completes (matchTest env scope call) start ↔
      (∃ item pattern ids, call.arguments = [item, .primary (.literal pattern)] ∧
        item.IsContext ∧
        env.services.search pattern env.settings.fullTextFields = .ok ids) ∨
      ∃ (property : QName) (pattern : String),
        call.arguments = [.expr (.single (.single (.test (.property property) none))),
          .primary (.literal pattern)] ∧ property.InSramp := by
  simp only [Completes, yields_matchTest]
  constructor
  · intro run
    rcases run with ⟨constraint, finish, subject, pattern, given, run⟩
    split at run
    next item =>
        rcases (completes_fullTextTest_iff valid).mp ⟨constraint, finish, run⟩ with ⟨ids, found⟩
        exact .inl ⟨subject, pattern, ids, given, isContextItem_iff.mp item, found⟩
    next =>
        rcases run with ⟨name, tested, rfl, run, -⟩
        exact .inr ⟨name, pattern, given, completes_testedProperty_iff.mp ⟨tested, finish, run⟩⟩
  · intro matched
    rcases matched with ⟨item, pattern, ids, given, isItem, found⟩ | ⟨name, pattern, given, inSramp⟩
    · rcases (completes_fullTextTest_iff valid).mpr ⟨ids, found⟩ with ⟨constraint, finish, run⟩
      refine ⟨constraint, finish, item, pattern, given, ?_⟩
      rw [if_pos (isContextItem_iff.mpr isItem)]
      exact run
    · rcases completes_testedProperty_iff.mpr inSramp with ⟨tested, finish, run⟩
      refine ⟨tested.compare .like (.string (likePattern pattern)), finish, _, pattern, given, ?_⟩
      have other : ¬isContextItem (.expr (.single (.single (.test (.property name) none)))) := by
        simp [isContextItem, bareSubject?]
      rw [if_neg other]
      exact ⟨name, tested, rfl, run, rfl⟩

/-- Attributes are those of the edge that leads to the artifact. -/
theorem completes_attributeProbe_iff {part : EdgePart} {call : FunctionCall} :
    Completes (attributeProbe scope part call) start ↔
      (∃ item key, call.arguments = [item, .primary (.literal key)]) ∧
        scope.edge.isSome = true := by
  simp only [Completes, yields_attributeProbe]
  constructor
  · intro run
    rcases run with ⟨found, finish, first, key, edge, given, leads, -⟩
    exact ⟨⟨first, key, given⟩, by rw [leads]; rfl⟩
  · intro asked
    rcases asked with ⟨⟨first, key, given⟩, reached⟩
    rcases Option.isSome_iff_exists.mp reached with ⟨edge, leads⟩
    exact ⟨_, _, first, key, edge, given, leads, yields_probe.mpr ⟨rfl, rfl⟩⟩

section Outcomes

variable {nested : Bool} {name : QName} {arguments : List Argument}

theorem completes_of_classifiedBy {any normalized : Bool}
    (named : Function.ofName name = .ok (.classifiedBy any normalized)) :
    Completes ((FunctionCall.mk name arguments).outcome env scope nested) start ↔
      Completes (classificationTest env scope any normalized (.mk name arguments)) start :=
  completes_iff_of_yields fun outcome finish => by
    rw [yields_outcome, FunctionCall.name, named]

theorem completes_of_attributeOf {part : EdgePart}
    (named : Function.ofName name = .ok (.attributeOf part)) :
    Completes ((FunctionCall.mk name arguments).outcome env scope nested) start ↔
      Completes (attributeProbe scope part (.mk name arguments)) start :=
  completes_iff_of_yields fun outcome finish => by
    rw [yields_outcome, FunctionCall.name, named]

theorem completes_of_matching (named : Function.ofName name = .ok .matching) :
    Completes ((FunctionCall.mk name arguments).outcome env scope nested) start ↔
      Completes (matchTest env scope (.mk name arguments)) start :=
  completes_iff_of_yields fun outcome finish => by
    rw [yields_outcome, FunctionCall.name, named]

theorem completes_of_negation (named : Function.ofName name = .ok .negation) :
    Completes ((FunctionCall.mk name arguments).outcome env scope nested) start ↔
      ∃ expr, arguments = [.expr expr] ∧
        Completes (expr.constraint env scope nested) start := by
  simp only [Completes, yields_outcome, FunctionCall.name, named]
  constructor
  · intro run
    rcases run with ⟨_, finish, expr, constraint, given, -, run⟩
    exact ⟨expr, given, constraint, finish, run⟩
  · intro run
    rcases run with ⟨expr, given, constraint, finish, run⟩
    exact ⟨.settled (.not constraint), finish, expr, constraint, given, rfl, run⟩

end Outcomes

/-- Only calls for an attribute stand for entries, and only where there is an edge. -/
theorem exists_entries_iff {nested : Bool} {call : FunctionCall} :
    (∃ found finish, Yields (call.outcome env scope nested) start (.entries found) finish) ↔
      call.AsksAttribute ∧ scope.edge.isSome = true := by
  rcases call with ⟨name, arguments⟩
  constructor
  · intro run
    rcases run with ⟨found, finish, run⟩
    replace run := yields_outcome.mp run
    split at run
    next => exact run.elim
    next => simp at run
    next part named =>
        rcases run with ⟨probe, same, run⟩
        rcases completes_attributeProbe_iff.mp ⟨probe, finish, run⟩ with
          ⟨⟨item, key, given⟩, leads⟩
        rcases exists_attributeOf_iff.mp ⟨part, named⟩ with ⟨inSramp, member⟩
        cases given
        exact ⟨.mk item key inSramp member, leads⟩
    next => simp at run
    next => simp at run
  · rintro ⟨⟨item, key, inSramp, member⟩, leads⟩
    rcases exists_attributeOf_iff.mpr ⟨inSramp, member⟩ with ⟨part, named⟩
    have probed : Completes (attributeProbe scope part (.mk name [item, .primary (.literal key)]))
        start := completes_attributeProbe_iff.mpr ⟨⟨item, key, rfl⟩, leads⟩
    rcases probed with ⟨probe, finish, run⟩
    refine ⟨probe, finish, yields_outcome.mpr ?_⟩
    simp only [FunctionCall.name, named]
    exact ⟨probe, rfl, run⟩

/-- The comparison of a call is complete if the call stands for entries and its right side has
a value. -/
theorem completes_compared_iff {nested : Bool} {call : FunctionCall} {operator : Operator}
    {right : Primary} :
    Completes ((EqualityExpr.test (.call call) (some (operator, right))).constraint env scope
        nested) start ↔
      (call.AsksAttribute ∧ scope.edge.isSome = true) ∧
        Comparable env.dateFormat false right := by
  rw [EqualityExpr.constraint, ← exists_entries_iff]
  constructor
  · intro run
    rcases run with ⟨constraint, finish, run⟩
    rcases yields_bind.mp run with ⟨outcome, between, called, run⟩
    cases outcome with
    | settled => exact absurd run not_yields_unsupported
    | entries found =>
        exact ⟨⟨found, between, called⟩,
          completes_testConstraint_iff.mp ⟨constraint, finish, run⟩⟩
  · rintro ⟨⟨found, between, called⟩, comparable⟩
    have tested : Completes (testConstraint env (.entries found) (some (operator, right)))
        between := completes_testConstraint_iff.mpr comparable
    rcases tested with ⟨constraint, finish, run⟩
    exact ⟨constraint, finish, yields_bind.mpr ⟨_, between, called, run⟩⟩

/-- A call is complete if it follows the rules for its function; of what is negated it is
enough to know when that is complete. -/
theorem completes_outcome_iff (valid : env.settings.Valid) {nested edge : Bool}
    (leads : scope.edge.isSome = edge) {name : QName} {arguments : List Argument}
    (negated : (∃ expr, arguments = [.expr expr] ∧
        Completes (expr.constraint env scope nested) start) ↔
      ∃ expr, arguments = [.expr expr] ∧ expr.Supported env nested edge) :
    Completes ((FunctionCall.mk name arguments).outcome env scope nested) start ↔
      (FunctionCall.mk name arguments).Supported env nested edge := by
  constructor
  · intro completes
    cases named : Function.ofName name with
    | error cause => simp [Completes, yields_outcome, FunctionCall.name, named] at completes
    | ok function =>
        cases function with
        | classifiedBy any normalized =>
            rw [completes_of_classifiedBy named, completes_classificationTest_iff] at completes
            rcases completes with ⟨terms, uris, uri, literals, given, resolved, found⟩
            rcases exists_classifiedBy_iff.mp ⟨any, normalized, named⟩ with ⟨inSramp, member⟩
            exact .classification inSramp member literals given resolved found
        | attributeOf part =>
            rw [completes_of_attributeOf named, completes_attributeProbe_iff] at completes
            rcases completes with ⟨⟨item, key, given⟩, reached⟩
            rcases exists_attributeOf_iff.mp ⟨part, named⟩ with ⟨inSramp, member⟩
            cases given
            rw [← leads, reached]
            exact .attributeOf (.mk item key inSramp member)
        | matching =>
            rcases ofName_eq_matching_iff.mp named with ⟨inXPath, isMatches⟩
            rw [completes_of_matching named, completes_matchTest_iff valid] at completes
            rcases completes with
              ⟨item, pattern, ids, given, isItem, found⟩ | ⟨property, pattern, given, inSramp⟩
            · cases given
              exact .fullText inXPath isMatches isItem found
            · cases given
              exact .matching inXPath isMatches inSramp
        | negation =>
            rcases ofName_eq_negation_iff.mp named with ⟨inXPath, isNot⟩
            rw [completes_of_negation named] at completes
            rcases negated.mp completes with ⟨inner, same, supported⟩
            cases same
            exact .negation inXPath isNot supported
  · intro supported
    cases supported with
    | classification inSramp member literals given resolved found =>
        rcases exists_classifiedBy_iff.mpr ⟨inSramp, member⟩ with ⟨any, normalized, named⟩
        rw [completes_of_classifiedBy named, completes_classificationTest_iff]
        exact ⟨_, _, _, literals, given, resolved, found⟩
    | attributeOf asks =>
        rcases exists_entries_iff.mpr ⟨asks, leads⟩ with ⟨found, finish, run⟩
        exact ⟨.entries found, finish, run⟩
    | fullText inXPath isMatches isItem found =>
        have named := ofName_eq_matching_iff.mpr ⟨inXPath, isMatches⟩
        rw [completes_of_matching named, completes_matchTest_iff valid]
        exact .inl ⟨_, _, _, rfl, isItem, found⟩
    | matching inXPath isMatches inSramp =>
        have named := ofName_eq_matching_iff.mpr ⟨inXPath, isMatches⟩
        rw [completes_of_matching named, completes_matchTest_iff valid]
        exact .inr ⟨_, _, rfl, inSramp⟩
    | negation inXPath isNot supported =>
        rw [completes_of_negation (ofName_eq_negation_iff.mpr ⟨inXPath, isNot⟩)]
        exact negated.mpr ⟨_, rfl, supported⟩

/-- A step is complete if no step encloses it and none follows, and its predicate is complete
for the artifacts that it leads to. -/
theorem completes_relationship_iff {nested : Bool} {relationshipType : String}
    {predicate : Option Expr} {next : Option SubartifactSet} {Inside : Expr → Prop}
    (inside : ∀ expr ∈ predicate, ∀ (far : Scope) (begun : Aliases),
      far.edge.isSome = !env.settings.isDerived relationshipType →
      (Completes (expr.constraint env far true) begun ↔ Inside expr)) :
    Completes ((SubartifactSet.relationship relationshipType predicate next).constraint env scope
        nested) start ↔
      nested = false ∧ next = none ∧ ∀ expr ∈ predicate, Inside expr := by
  unfold SubartifactSet.constraint
  split
  next enclosed =>
      apply iff_of_false not_completes_unsupported
      rintro ⟨rfl, rfl, -⟩
      contradiction
  next free =>
      have outside : nested = false ∧ next = none := by simpa using free
      simp only [outside, true_and]
      split
      next derived =>
          cases predicate with
          | none =>
              simp only [completes_fresh_bind_iff]
              exact iff_of_true (completes_pure _) (by simp)
          | some predicate =>
              simp only [completes_fresh_bind_iff]
              rw [completes_bind_fresh_iff, inside predicate rfl _ _ (by simp [derived])]
              simp
      next derived =>
          cases predicate with
          | none =>
              simp only [completes_fresh_bind_iff]
              exact iff_of_true (completes_pure _) (by simp)
          | some predicate =>
              simp only [completes_fresh_bind_iff]
              rw [completes_bind_fresh_iff, inside predicate rfl _ _ (by simp [derived])]
              simp

end Compile

namespace Query

open Compile

variable {env : Environment}

/-! ## Predicates -/

section Subjects

variable {scope : Scope} {start : Aliases} {nested edge : Bool}

/-- The test of a property is complete if its name is that of a property, and what it is
compared with has a value. -/
theorem completes_property_iff {name : QName} {comparison : Option (Operator × Primary)} :
    Completes ((EqualityExpr.test (.property name) comparison).constraint env scope nested)
        start ↔
      (EqualityExpr.test (.property name) comparison).Supported env nested edge := by
  rw [EqualityExpr.constraint]
  cases comparison with
  | none =>
      have present : Completes (testedProperty scope name >>= fun tested =>
          testConstraint env tested none) start ↔ Completes (testedProperty scope name) start :=
        completes_bind_of_forall fun _ _ => completes_pure _
      rw [present, completes_testedProperty_iff, EqualityExpr.supported_property_iff]
  | some comparison =>
      rcases comparison with ⟨operator, right⟩
      have compared (tested : Tested) (between : Aliases)
          (run : Yields (testedProperty scope name) start tested between) :
          Completes (testConstraint env tested (some (operator, right))) between ↔
            Comparable env.dateFormat (name.localName ∈ timestampProperties) right := by
        rw [completes_testConstraint_iff, isTimestamp_of_testedProperty run]
      rw [completes_bind_iff compared, completes_testedProperty_iff,
        EqualityExpr.supported_propertyCompared_iff]

/-- The test of a call is complete if the call is. -/
theorem completes_called_iff {call : FunctionCall} :
    Completes ((EqualityExpr.test (.call call) none).constraint env scope nested) start ↔
      Completes (call.outcome env scope nested) start := by
  rw [EqualityExpr.constraint]
  apply completes_bind_of_forall
  intro outcome between
  cases outcome <;> exact completes_pure _

end Subjects

mutual

/-- A predicate is complete if it follows the rules.  Where it is complete does not depend on
the aliases, so that both parts of a chain are judged alone. -/
theorem Expr.completes_iff (valid : env.settings.Valid) (expr : Expr) {scope : Scope}
    {nested edge : Bool} (leads : scope.edge.isSome = edge) {start : Aliases} :
    Completes (expr.constraint env scope nested) start ↔
      expr.Supported env nested edge := by
  cases expr with
  | single left =>
      rw [Expr.constraint, left.completes_iff valid leads, Expr.supported_single_iff]
  | chain left right =>
      rw [Expr.constraint,
        completes_connected_iff fun _ => right.completes_iff valid leads,
        left.completes_iff valid leads, Expr.supported_chain_iff]

theorem OrExpr.completes_iff (valid : env.settings.Valid) (expr : OrExpr) {scope : Scope}
    {nested edge : Bool} (leads : scope.edge.isSome = edge) {start : Aliases} :
    Completes (expr.constraint env scope nested) start ↔
      expr.Supported env nested edge := by
  cases expr with
  | single left =>
      rw [OrExpr.constraint, left.completes_iff valid leads, OrExpr.supported_single_iff]
  | chain left right =>
      rw [OrExpr.constraint,
        completes_connected_iff fun _ => right.completes_iff valid leads,
        left.completes_iff valid leads, OrExpr.supported_chain_iff]

theorem EqualityExpr.completes_iff (valid : env.settings.Valid) (expr : EqualityExpr)
    {scope : Scope} {nested edge : Bool} (leads : scope.edge.isSome = edge) {start : Aliases} :
    Completes (expr.constraint env scope nested) start ↔
      expr.Supported env nested edge := by
  cases expr with
  | subartifacts set =>
      rw [EqualityExpr.constraint, set.completes_iff valid leads,
        EqualityExpr.supported_subartifacts_iff]
  | grouped inner =>
      rw [EqualityExpr.constraint, inner.completes_iff valid leads,
        EqualityExpr.supported_grouped_iff]
  | test subject comparison =>
      cases subject with
      | property name => exact completes_property_iff
      | call call =>
          match comparison with
          | none =>
              rw [completes_called_iff, call.completes_iff valid leads,
                EqualityExpr.supported_call_iff]
          | some (operator, right) =>
              rw [completes_compared_iff, leads, EqualityExpr.supported_attributeCompared_iff]
      | primary primary =>
          rw [EqualityExpr.constraint]
          apply iff_of_false not_completes_unsupported
          intro supported
          cases supported

theorem FunctionCall.completes_iff (valid : env.settings.Valid) (call : FunctionCall)
    {scope : Scope} {nested edge : Bool} (leads : scope.edge.isSome = edge) {start : Aliases} :
    Completes (call.outcome env scope nested) start ↔
      call.Supported env nested edge := by
  cases call with
  | mk name arguments =>
      apply completes_outcome_iff valid leads
      -- Only what is matched here is seen to be a part of the call.
      match arguments with
      | [.expr inner] =>
          constructor
          · rintro ⟨_, same, completes⟩
            cases same
            exact ⟨inner, rfl, (inner.completes_iff valid leads).mp completes⟩
          · rintro ⟨_, same, supported⟩
            cases same
            exact ⟨inner, rfl, (inner.completes_iff valid leads).mpr supported⟩
      | [] | .primary _ :: _ | _ :: _ :: _ => simp

theorem SubartifactSet.completes_iff (valid : env.settings.Valid) (set : SubartifactSet)
    {scope : Scope} {nested edge : Bool} (leads : scope.edge.isSome = edge) {start : Aliases} :
    Completes (set.constraint env scope nested) start ↔
      set.Supported env nested edge := by
  cases set with
  | call call =>
      have completes : Completes ((SubartifactSet.call call).constraint env scope nested) start ↔
          Completes (call.outcome env scope nested) start := by
        rw [SubartifactSet.constraint]
        exact completes_bind_of_forall fun _ _ => completes_pure _
      rw [completes, call.completes_iff valid leads, SubartifactSet.supported_call_iff]
  | relationship relationshipType predicate next =>
      have inside : ∀ expr ∈ predicate, ∀ (far : Scope) (begun : Aliases),
          far.edge.isSome = !env.settings.isDerived relationshipType →
          (Completes (expr.constraint env far true) begun ↔
            expr.Supported env true (!env.settings.isDerived relationshipType)) := by
        match predicate with
        | none => simp
        | some predicate =>
            intro expr same far begun reached
            cases same
            exact predicate.completes_iff valid reached
      rw [completes_relationship_iff inside, SubartifactSet.supported_relationship_iff]

end

end Query

namespace OrderBy

/-- Characters after the marks in front of them. -/
theorem eq_replicate_append (chars : List Char) :
    ∃ marks, chars = List.replicate marks '@' ++ chars.dropWhile (· == '@') := by
  refine ⟨(chars.takeWhile (· == '@')).length, ?_⟩
  have marks : chars.takeWhile (· == '@') =
      List.replicate (chars.takeWhile (· == '@')).length '@' := by
    apply List.eq_replicate_of_mem
    intro c member
    simpa using List.mem_takeWhile_imp member
  rw [← marks, List.takeWhile_append_dropWhile]

/-- What is divided at the first colon begins with the label in front of it. -/
theorem eq_label_append {chars rest : List Char} {mark : Char} {label : String}
    (isLabel : String.ofList (chars.takeWhile (· != ':')) = label)
    (divided : chars.dropWhile (· != ':') = mark :: rest) :
    chars = label.toList ++ ':' :: rest := by
  have isColon : mark = ':' := by
    have stops := List.head?_dropWhile_not (· != ':') chars
    simpa [divided] using stops
  have parts := List.takeWhile_append_dropWhile (p := (· != ':')) (l := chars)
  rw [divided, isColon] at parts
  rw [← isLabel, String.toList_ofList, parts]

/-- What stands after the marks is a name, or a label and a name. -/
theorem resolve_eq_ok {order : OrderBy} {property : CoreProperty}
    (resolved : order.resolve = .ok property) :
    ∃ label ∈ ["", "s-ramp:"],
      (Text.trim order.property).toList.dropWhile (· == '@') =
        (label ++ property.localName).toList := by
  have named {localName : String}
      (known : CoreProperty.ofLocalName? localName = some property) :
      property.localName = localName := by
    simpa using List.find?_some known
  unfold resolve at resolved
  generalize (Text.trim order.property).toList.dropWhile (· == '@') = chars at resolved ⊢
  dsimp only at resolved
  split at resolved
  next =>
      refine ⟨"", by simp, ?_⟩
      split at resolved
      next other known =>
          cases resolved
          rw [named known]
          simp
      next => cases resolved
  next mark rest divided =>
      split at resolved
      next isLabel =>
          split at resolved
          next other known =>
              cases resolved
              refine ⟨"s-ramp:", by simp, ?_⟩
              rw [eq_label_append isLabel divided, named known]
              simp
          next => cases resolved
      next => cases resolved

/-- Names of core properties hold neither marks nor colons. -/
theorem plain_localName (property : CoreProperty) :
    ∀ c ∈ property.localName.toList, c ≠ '@' ∧ c ≠ ':' := by
  have plain : property.localName.toList.all (fun c => c != '@' && c != ':') = true := by
    cases property <;> decide
  simpa using plain

/-- A request is met if it names a core property. -/
theorem exists_resolve_iff {order : OrderBy} :
    (∃ property, order.resolve = .ok property) ↔ order.Supported := by
  constructor
  · intro resolved
    rcases resolved with ⟨property, resolved⟩
    rcases eq_replicate_append (Text.trim order.property).toList with ⟨marks, split⟩
    rcases resolve_eq_ok resolved with ⟨label, known, rest⟩
    rw [rest] at split
    exact ⟨marks, label, property, known, split⟩
  · rintro ⟨marks, label, property, known, split⟩
    refine ⟨property, ?_⟩
    have plain := plain_localName property
    simp only [List.mem_cons, List.not_mem_nil, or_false] at known
    rcases known with rfl | rfl
    · have unmarked : (Text.trim order.property).toList.dropWhile (· == '@') =
          property.localName.toList := by
        rw [split, List.dropWhile_append_of_pos (by simp), String.toList_append,
          String.toList_empty, List.nil_append, List.dropWhile_eq_self_iff]
        intro nonempty
        have first := (plain _ (List.get_mem _ ⟨0, nonempty⟩)).1
        simpa using first
      have noLabel : property.localName.toList.dropWhile (· != ':') = [] := by
        rw [List.dropWhile_eq_nil_iff]
        intro c member
        simpa using (plain c member).2
      simp only [resolve, unmarked, noLabel, String.ofList_toList,
        CoreProperty.ofLocalName?_localName]
    · have unmarked : (Text.trim order.property).toList.dropWhile (· == '@') =
          "s-ramp".toList ++ ':' :: property.localName.toList := by
        rw [split, List.dropWhile_append_of_pos (by simp)]
        simp
      have label : ("s-ramp".toList ++ ':' :: property.localName.toList).takeWhile (· != ':') =
          "s-ramp".toList := by simp
      have rest : ("s-ramp".toList ++ ':' :: property.localName.toList).dropWhile (· != ':') =
          ':' :: property.localName.toList := by simp
      simp only [resolve, unmarked, label, rest, String.ofList_toList, if_true,
        CoreProperty.ofLocalName?_localName]

end OrderBy

namespace Compile

open Query

variable {env : Environment} {start finish : Aliases}

/-! ## Queries -/

theorem completes_restrict_iff (valid : env.settings.Valid) {before : Level}
    {predicate : Option Expr} {edge : Bool} (leads : before.scope.edge.isSome = edge) :
    Completes (restrict env before predicate) start ↔
      ∀ expr ∈ predicate, expr.Supported env false edge := by
  cases predicate with
  | none => exact iff_of_true (completes_pure _) (by simp)
  | some predicate =>
      have completes : Completes (restrict env before (some predicate)) start ↔
          Completes (predicate.constraint env before.scope false) start :=
        completes_bind_of_forall fun _ _ => completes_pure _
      rw [completes, predicate.completes_iff valid leads]
      simp

/-- An edge leads to the artifacts of a relationship, but not to derived documents. -/
theorem edge_of_traverse {before moved : Level} {relationshipType : String}
    (run : Yields (traverse env before relationshipType) start moved finish) :
    moved.scope.edge.isSome = !env.settings.isDerived relationshipType := by
  rw [yields_traverse] at run
  split at run
  next derived =>
      rcases run with ⟨document, rfl, -⟩
      simp [Level.toDocument, derived]
  next related =>
      rcases run with ⟨edge, far, _, _, rfl, -⟩
      simp [Level.toFar, related]

theorem completes_traverse {before : Level} {relationshipType : String} :
    Completes (traverse env before relationshipType) start := by
  rw [traverse]
  dsimp only
  split
  · apply (completes_fresh _).bind
    intro document finish
    exact completes_pure _
  · apply (completes_fresh _).bind
    intro relationship first
    apply (completes_fresh _).bind
    intro target second
    apply (completes_fresh _).bind
    intro far finish
    exact completes_pure _

theorem completes_step_iff (valid : env.settings.Valid) {before : Level}
    {set : Option SubartifactSet} :
    Completes (step env before set) start ↔
      ∀ found ∈ set, ∃ relationshipType predicate,
        found = .relationship relationshipType predicate none ∧
          ∀ expr ∈ predicate,
            expr.Supported env false (!env.settings.isDerived relationshipType) := by
  match set with
  | none => exact iff_of_true (completes_pure _) (by simp)
  | some (.relationship relationshipType predicate none) =>
      rw [step, completes_bind_iff fun moved between run =>
        completes_restrict_iff valid (edge_of_traverse run)]
      constructor
      · rintro ⟨-, inside⟩ found same
        cases same
        exact ⟨relationshipType, predicate, rfl, inside⟩
      · intro supported
        rcases supported _ rfl with ⟨_, _, same, inside⟩
        cases same
        exact ⟨completes_traverse, inside⟩
  | some (.relationship relationshipType predicate (some next)) =>
      exact iff_of_false not_completes_unsupported (by simp)
  | some (.call call) => exact iff_of_false not_completes_unsupported (by simp)

theorem completes_level_iff (valid : env.settings.Valid) {root : Selector} {query : Query} :
    Completes (level env root query) start ↔ query.Supported env := by
  rw [level, completes_bind_iff fun _ _ _ => completes_step_iff valid]
  rw [completes_restrict_iff valid rfl]
  constructor
  · intro parts
    exact ⟨parts.1, parts.2⟩
  · intro supported
    exact ⟨supported.predicate, supported.step⟩

theorem exists_sortOrder_iff {column : Selector} {order : Option OrderBy} :
    (∃ sorting, sortOrder column order = .ok sorting) ↔
      ∀ request ∈ order, request.Supported := by
  cases order with
  | none => exact iff_of_true ⟨none, rfl⟩ (by simp)
  | some request =>
      simp only [sortOrder, exceptBind_eq_ok, Option.mem_some_iff, forall_eq',
        ← OrderBy.exists_resolve_iff]
      constructor
      · intro sorted
        rcases sorted with ⟨sorting, property, resolved, -⟩
        exact ⟨property, resolved⟩
      · intro resolved
        rcases resolved with ⟨property, resolved⟩
        exact ⟨_, property, resolved, rfl⟩

end Compile

namespace Query

open Compile

/-- A query is compiled if and only if the settings are valid, it follows the rules of the
supported language, and the request for an order, if there is one, can be met. -/
theorem exists_plan_iff {env : Environment} {query : Query} {order : Option OrderBy} :
    (∃ plan, query.plan env order = .ok plan) ↔
      env.settings.Valid ∧ query.Supported env ∧ ∀ request ∈ order, request.Supported := by
  constructor
  · intro compiled
    rcases compiled with ⟨plan, compiled⟩
    rcases plan_eq_ok_iff.mp compiled with ⟨sound, level, finish, sorting, run, sorted, -⟩
    have valid := Settings.fault?_eq_none_iff.mp sound
    exact ⟨valid, (completes_level_iff valid).mp ⟨level, finish, run⟩,
      exists_sortOrder_iff.mp ⟨sorting, sorted⟩⟩
  · rintro ⟨valid, supported, ordered⟩
    rcases (completes_level_iff valid).mpr supported with ⟨level, finish, run⟩
    rcases exists_sortOrder_iff.mpr ordered with ⟨sorting, sorted⟩
    exact ⟨_, plan_eq_ok_iff.mpr ⟨Settings.fault?_eq_none_iff.mpr valid, level, finish, sorting,
      run, sorted, rfl⟩⟩

end Query

end Sramp
