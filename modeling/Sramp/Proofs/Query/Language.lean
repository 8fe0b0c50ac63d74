import Sramp.Compile.Plan

/-!
# The supported language

The queries that can be compiled, as rules over their syntax.  Two flags go with a predicate:
whether it stands inside the predicate of a step, where no further step may stand, and
whether a relationship leads to the artifact that it is about, whose attributes may then be
asked for.  The rules hold for all services and for every way to read dates.
-/

namespace Sramp

namespace QName

/-- A name in the S-RAMP namespace, or in none. -/
def InSramp (name : QName) : Prop :=
  name.space = none ∨ name.space = some "" ∨ name.space = some srampNamespace

/-- A name in the namespace of the XPath functions. -/
def InXPath (name : QName) : Prop :=
  name.space = some xpathNamespace

end QName

namespace Query

open Compile

/-- The functions that ask for classes. -/
def classificationFunctions : List String :=
  ["classifiedByAnyOf", "classifiedByAllOf", "exactlyClassifiedByAnyOf",
    "exactlyClassifiedByAllOf"]

/-- The functions that ask for attributes of a relationship or its target. -/
def attributeFunctions : List String :=
  ["getRelationshipAttribute", "getTargetAttribute"]

/-- The properties that hold points in time. -/
def timestampProperties : List String :=
  ["createdTimestamp", "lastModifiedTimestamp"]

/-- The right sides of comparisons: numbers, and texts, which must be read as dates where the
left side is a point in time. -/
inductive Comparable (format : DateFormat) (timestamp : Bool) : Primary → Prop where
  | number (value : Double) : Comparable format timestamp (.number value)
  | text (text : String) : timestamp = false → Comparable format timestamp (.literal text)
  | date (text : String) {day : Calendar.Date} :
      format.read text = .ok day → Comparable format timestamp (.literal text)

/-- The arguments that are the context item. -/
inductive Argument.IsContext : Argument → Prop where
  | primary : IsContext (.primary .contextItem)
  | expr : IsContext (.expr (.single (.single (.test (.primary .contextItem) none))))

/-- Calls of a function that asks for an attribute: the second of two arguments is the name of
the attribute. -/
inductive FunctionCall.AsksAttribute : FunctionCall → Prop where
  | mk {name : QName} (item : Argument) (key : String) :
      name.InSramp → name.localName ∈ attributeFunctions →
      AsksAttribute (.mk name [item, .primary (.literal key)])

mutual

/-- The predicates that can be compiled. -/
inductive Expr.Supported (env : Environment) : Bool → Bool → Expr → Prop where
  | single {nested edge : Bool} {left : OrExpr} :
      OrExpr.Supported env nested edge left → Expr.Supported env nested edge (.single left)
  | chain {nested edge : Bool} {left : OrExpr} {right : Expr} :
      OrExpr.Supported env nested edge left → Expr.Supported env nested edge right →
      Expr.Supported env nested edge (.chain left right)

/-- The chains of alternatives that can be compiled. -/
inductive OrExpr.Supported (env : Environment) : Bool → Bool → OrExpr → Prop where
  | single {nested edge : Bool} {left : EqualityExpr} :
      EqualityExpr.Supported env nested edge left →
      OrExpr.Supported env nested edge (.single left)
  | chain {nested edge : Bool} {left : EqualityExpr} {right : OrExpr} :
      EqualityExpr.Supported env nested edge left → OrExpr.Supported env nested edge right →
      OrExpr.Supported env nested edge (.chain left right)

/-- The steps, groups and tests that can be compiled.  A primary is never tested, and of the
functions only those that ask for an attribute are compared. -/
inductive EqualityExpr.Supported (env : Environment) : Bool → Bool → EqualityExpr → Prop where
  | subartifacts {nested edge : Bool} {set : SubartifactSet} :
      SubartifactSet.Supported env nested edge set →
      EqualityExpr.Supported env nested edge (.subartifacts set)
  | grouped {nested edge : Bool} {expr : Expr} :
      Expr.Supported env nested edge expr → EqualityExpr.Supported env nested edge (.grouped expr)
  | property {nested edge : Bool} {name : QName} :
      name.InSramp → EqualityExpr.Supported env nested edge (.test (.property name) none)
  | propertyCompared {nested edge : Bool} {name : QName} {operator : Operator} {right : Primary} :
      name.InSramp →
      Comparable env.dateFormat (name.localName ∈ timestampProperties) right →
      EqualityExpr.Supported env nested edge (.test (.property name) (some (operator, right)))
  | call {nested edge : Bool} {call : FunctionCall} :
      FunctionCall.Supported env nested edge call →
      EqualityExpr.Supported env nested edge (.test (.call call) none)
  | attributeCompared {nested : Bool} {call : FunctionCall} {operator : Operator}
      {right : Primary} :
      call.AsksAttribute → Comparable env.dateFormat false right →
      EqualityExpr.Supported env nested true (.test (.call call) (some (operator, right)))

/-- The function calls that can be compiled.  Classes are named after the first argument, and
some class must be found; only where an edge leads to the artifact it has attributes. -/
inductive FunctionCall.Supported (env : Environment) : Bool → Bool → FunctionCall → Prop where
  | classification {nested edge : Bool} {name : QName} {arguments : List Argument}
      {terms : List String} {uris : UriSet} {uri : String} :
      name.InSramp → name.localName ∈ classificationFunctions →
      arguments.drop 1 = terms.map (fun term => .primary (.literal term)) → terms ≠ [] →
      env.services.resolveAll terms = .ok uris → uri ∈ uris →
      FunctionCall.Supported env nested edge (.mk name arguments)
  | attributeOf {nested : Bool} {call : FunctionCall} :
      call.AsksAttribute → FunctionCall.Supported env nested true call
  | fullText {nested edge : Bool} {name : QName} {item : Argument} {pattern : String}
      {ids : List String} :
      name.InXPath → name.localName = "matches" → item.IsContext →
      env.services.search pattern env.settings.fullTextFields = .ok ids →
      FunctionCall.Supported env nested edge (.mk name [item, .primary (.literal pattern)])
  | matching {nested edge : Bool} {name property : QName} {pattern : String} :
      name.InXPath → name.localName = "matches" → property.InSramp →
      FunctionCall.Supported env nested edge
        (.mk name [.expr (.single (.single (.test (.property property) none))),
          .primary (.literal pattern)])
  | negation {nested edge : Bool} {name : QName} {expr : Expr} :
      name.InXPath → name.localName = "not" → Expr.Supported env nested edge expr →
      FunctionCall.Supported env nested edge (.mk name [.expr expr])

/-- The steps inside predicates that can be compiled: function calls, and single steps outside
of other steps.  A derived document is not reached by an edge. -/
inductive SubartifactSet.Supported (env : Environment) :
    Bool → Bool → SubartifactSet → Prop where
  | call {nested edge : Bool} {call : FunctionCall} :
      FunctionCall.Supported env nested edge call →
      SubartifactSet.Supported env nested edge (.call call)
  | relationship {edge : Bool} {relationshipType : String} :
      SubartifactSet.Supported env false edge (.relationship relationshipType none none)
  | relationshipWith {edge : Bool} {relationshipType : String} {predicate : Expr} :
      Expr.Supported env true (!env.settings.isDerived relationshipType) predicate →
      SubartifactSet.Supported env false edge
        (.relationship relationshipType (some predicate) none)

end

section Rules

variable {env : Environment} {nested edge : Bool}

theorem Expr.supported_single_iff {left : OrExpr} :
    (Expr.single left).Supported env nested edge ↔ left.Supported env nested edge := by
  constructor
  · intro supported
    cases supported
    assumption
  · exact .single

theorem Expr.supported_chain_iff {left : OrExpr} {right : Expr} :
    (Expr.chain left right).Supported env nested edge ↔
      left.Supported env nested edge ∧ right.Supported env nested edge := by
  constructor
  · intro supported
    cases supported with
    | chain first second => exact ⟨first, second⟩
  · intro parts
    exact .chain parts.1 parts.2

theorem OrExpr.supported_single_iff {left : EqualityExpr} :
    (OrExpr.single left).Supported env nested edge ↔ left.Supported env nested edge := by
  constructor
  · intro supported
    cases supported
    assumption
  · exact .single

theorem OrExpr.supported_chain_iff {left : EqualityExpr} {right : OrExpr} :
    (OrExpr.chain left right).Supported env nested edge ↔
      left.Supported env nested edge ∧ right.Supported env nested edge := by
  constructor
  · intro supported
    cases supported with
    | chain first second => exact ⟨first, second⟩
  · intro parts
    exact .chain parts.1 parts.2

theorem EqualityExpr.supported_subartifacts_iff {set : SubartifactSet} :
    (EqualityExpr.subartifacts set).Supported env nested edge ↔
      set.Supported env nested edge := by
  constructor
  · intro supported
    cases supported
    assumption
  · exact .subartifacts

theorem EqualityExpr.supported_grouped_iff {expr : Expr} :
    (EqualityExpr.grouped expr).Supported env nested edge ↔ expr.Supported env nested edge := by
  constructor
  · intro supported
    cases supported
    assumption
  · exact .grouped

theorem EqualityExpr.supported_property_iff {name : QName} :
    (EqualityExpr.test (.property name) none).Supported env nested edge ↔ name.InSramp := by
  constructor
  · intro supported
    cases supported
    assumption
  · exact .property

theorem EqualityExpr.supported_propertyCompared_iff {name : QName} {operator : Operator}
    {right : Primary} :
    (EqualityExpr.test (.property name) (some (operator, right))).Supported env nested edge ↔
      name.InSramp ∧
        Comparable env.dateFormat (name.localName ∈ timestampProperties) right := by
  constructor
  · intro supported
    cases supported with
    | propertyCompared inSramp comparable => exact ⟨inSramp, comparable⟩
  · intro parts
    exact .propertyCompared parts.1 parts.2

theorem EqualityExpr.supported_call_iff {call : FunctionCall} :
    (EqualityExpr.test (.call call) none).Supported env nested edge ↔
      call.Supported env nested edge := by
  constructor
  · intro supported
    cases supported
    assumption
  · exact .call

theorem EqualityExpr.supported_attributeCompared_iff {call : FunctionCall} {operator : Operator}
    {right : Primary} :
    (EqualityExpr.test (.call call) (some (operator, right))).Supported env nested edge ↔
      (call.AsksAttribute ∧ edge = true) ∧ Comparable env.dateFormat false right := by
  constructor
  · intro supported
    cases supported with
    | attributeCompared asks comparable => exact ⟨⟨asks, rfl⟩, comparable⟩
  · rintro ⟨⟨asks, rfl⟩, comparable⟩
    exact .attributeCompared asks comparable

theorem SubartifactSet.supported_call_iff {call : FunctionCall} :
    (SubartifactSet.call call).Supported env nested edge ↔ call.Supported env nested edge := by
  constructor
  · intro supported
    cases supported
    assumption
  · exact .call

theorem SubartifactSet.supported_relationship_iff {relationshipType : String}
    {predicate : Option Expr} {next : Option SubartifactSet} :
    (SubartifactSet.relationship relationshipType predicate next).Supported env nested edge ↔
      nested = false ∧ next = none ∧ ∀ expr ∈ predicate,
        expr.Supported env true (!env.settings.isDerived relationshipType) := by
  constructor
  · intro supported
    cases supported with
    | relationship => simp
    | relationshipWith supported => simp [supported]
  · rintro ⟨rfl, rfl, supported⟩
    cases predicate with
    | none => exact .relationship
    | some predicate => exact .relationshipWith (supported predicate rfl)

end Rules

/-- The queries that can be compiled: the predicate is about artifacts that no edge leads to,
and at most one relationship follows, whose predicate is not inside a step. -/
structure Supported (env : Environment) (query : Query) : Prop where
  predicate : ∀ predicate ∈ query.predicate, Expr.Supported env false false predicate
  step : ∀ set ∈ query.subartifacts, ∃ relationshipType predicate,
    set = .relationship relationshipType predicate none ∧
      ∀ expr ∈ predicate, Expr.Supported env false (!env.settings.isDerived relationshipType) expr

end Query

/-- The requests for an order that can be met: after any white space and marks stands the name
of a core property, with the label `s-ramp` or without a label. -/
def OrderBy.Supported (order : OrderBy) : Prop :=
  ∃ (marks : Nat) (label : String) (property : CoreProperty),
    label ∈ ["", "s-ramp:"] ∧
      (Text.trim order.property).toList =
        List.replicate marks '@' ++ (label ++ property.localName).toList

end Sramp
