import Sramp.Compile.Plan
import Sramp.Proofs.Meaning.Store

/-!
# What queries mean

The meaning of queries over a store, read off their syntax.  A predicate holds of an
artifact, and of the relationship and target by which it was reached if a step leads
to it.  Plans, selectors and aliases do not occur here.
-/

namespace Sramp.Query

open Compile

/-- The relationship and the target by which an artifact was reached. -/
structure Passage (store : Store) where
  relationship : store.Node
  target : store.Node

/-- The artifact that a predicate is about, and how it was reached. -/
structure Focus (store : Store) where
  artifact : store.Node
  passage : Option (Passage store) := none

/-- The part of a passage that bears attributes. -/
def Passage.part {store : Store} (passage : Passage store) : EdgePart → store.Node
  | .relationship => passage.relationship
  | .target => passage.target

/-- What a test is about: a property of a node, or the entries with a key that are
stored beneath it. -/
inductive Referent (store : Store) where
  | property (node : store.Node) (property : Property)
  | entries (node : store.Node) (kind : NodeKind) (key : String)

namespace Referent

variable {store : Store}

/-- An entry is stored beneath a node and has a key. -/
def HasEntry (node : store.Node) (kind : NodeKind) (key : String) (entry : store.Node) : Prop :=
  store.kind entry = kind ∧ store.Beneath entry node ∧
    store.Compares entry .entryKey .eq (.string key)

/-- What is referred to exists. -/
def Exists : Referent store → Prop
  | .property node tested => store.Present node tested
  | .entries node kind key => ∃ entry, HasEntry node kind key entry

/-- What is referred to compares with a value: of entries, one does. -/
def Compares (referent : Referent store) (operator : Operator) (value : Value) : Prop :=
  match referent with
  | .property node tested => store.Compares node tested operator value
  | .entries node kind key => ∃ entry, HasEntry node kind key entry ∧
      store.Compares entry .entryValue operator value

/-- The property that decides the type of a value compared with. -/
def valueProperty : Referent store → Property
  | .property _ tested => tested
  | .entries .. => .entryValue

/-- A test with or without a comparison.  A literal denotes a value of the type that
belongs to what is tested. -/
def Passes (env : Environment) (referent : Referent store) :
    Option (Operator × Primary) → Prop
  | none => referent.Exists
  | some (operator, literal) => ∃ value,
      Value.coerce (some referent.valueProperty) literal env.dateFormat = .ok value ∧
      referent.Compares operator value

/-- What `@name` refers to at an artifact: a core property, or custom properties. -/
def named? (node : store.Node) (name : QName) : Option (Referent store) :=
  if name.isSramp then
    match CoreProperty.ofLocalName? name.localName with
    | some core => some (.property node (.core core))
    | none => some (.entries node .propertyEntry name.localName)
  else none

end Referent

section Tests

variable {store : Store} (env : Environment) (node : store.Node)

/-- An artifact is in any or in all of the classes that some terms denote. -/
def Classified (any normalized : Bool) (terms : List String) : Prop :=
  ∃ uris, env.services.resolveAll terms = .ok uris ∧
    if any then
      ∃ uri ∈ uris.toList, store.Compares node (.classifier normalized) .eq (.string uri)
    else ∀ uri ∈ uris.toList, store.Compares node (.classifier normalized) .eq (.string uri)

/-- The groups in which the hits of a full-text search are asked for. -/
def hitGroups (size : Nat) (ids : List String) : List (List String) :=
  if ids.isEmpty then [[]] else chunks size ids

/-- An artifact is among the hits of a full-text search. -/
def Hit (pattern : String) : Prop :=
  ∃ ids, env.services.search pattern env.settings.fullTextFields = .ok ids ∧
    ∃ group ∈ hitGroups env.settings.chunkSize ids,
      store.OneOf node (.core .uuid) (group.map .string)

/-- A property or the full text of an artifact matches a pattern. -/
def Matched (subject : Argument) (pattern : String) : Prop :=
  if isContextItem subject then Hit env node pattern
  else ∃ name referent,
    subject = .expr (.single (.single (.test (.property name) none))) ∧
    Referent.named? node name = some referent ∧
    referent.Compares .like (.string (likePattern pattern))

end Tests

section Steps

variable {store : Store} (env : Environment) (relationshipType : String)

/-- An artifact has a relationship of a type. -/
def Relates (start relationship : store.Node) : Prop :=
  store.kind relationship = .relationship ∧ store.Beneath relationship start ∧
    store.Compares relationship .relationshipType .eq (.string relationshipType)

/-- A relationship has a target that points at an artifact. -/
def Targets (passage : Passage store) (far : store.Node) : Prop :=
  store.kind passage.target = .target ∧
    store.Beneath passage.target passage.relationship ∧
    store.kind far = .artifact ∧
    store.field passage.target .targetArtifact = some (store.id far)

/-- A relationship type leads from an artifact to another one: to the document beneath
which the artifact is stored, or by a relationship and its target. -/
def Leads (start : store.Node) (reached : Focus store) : Prop :=
  if env.settings.isDerived relationshipType then
    store.kind reached.artifact = .artifact ∧ store.Beneath start reached.artifact ∧
      reached.passage = none
  else ∃ passage, reached.passage = some passage ∧
    Relates relationshipType start passage.relationship ∧ Targets passage reached.artifact

end Steps

/-! ## Predicates -/

mutual

/-- A predicate holds of an artifact. -/
def Expr.Holds {store : Store} (env : Environment) (focus : Focus store) : Expr → Prop
  | .single left => left.Holds env focus
  | .chain left right => left.Holds env focus ∧ right.Holds env focus

/-- One of some alternatives holds. -/
def OrExpr.Holds {store : Store} (env : Environment) (focus : Focus store) : OrExpr → Prop
  | .single left => left.Holds env focus
  | .chain left right => left.Holds env focus ∨ right.Holds env focus

/-- A step, group or test holds. -/
def EqualityExpr.Holds {store : Store} (env : Environment) (focus : Focus store) :
    EqualityExpr → Prop
  | .subartifacts set => set.Holds env focus
  | .grouped expr => expr.Holds env focus
  | .test (.property name) comparison => ∃ referent,
      Referent.named? focus.artifact name = some referent ∧ referent.Passes env comparison
  | .test (.call call) comparison => call.Holds env focus comparison
  | .test (.primary _) _ => False

/-- A function call holds.  Only attributes may be compared with a value. -/
def FunctionCall.Holds {store : Store} (env : Environment) (focus : Focus store)
    (comparison : Option (Operator × Primary)) : FunctionCall → Prop
  | .mk name arguments =>
      match Function.ofName name with
      | .error _ => False
      | .ok (.classifiedBy any normalized) => comparison = none ∧ ∃ terms,
          arguments.drop 1 = terms.map (fun term => .primary (.literal term)) ∧
          Classified env focus.artifact any normalized terms
      | .ok (.attributeOf part) => ∃ subject key passage,
          arguments = [subject, .primary (.literal key)] ∧ focus.passage = some passage ∧
          (Referent.entries (passage.part part) part.attributeKind key).Passes env comparison
      | .ok .matching => comparison = none ∧ ∃ subject pattern,
          arguments = [subject, .primary (.literal pattern)] ∧
          Matched env focus.artifact subject pattern
      | .ok .negation =>
          match arguments with
          | [.expr expr] => comparison = none ∧ ¬expr.Holds env focus
          | _ => False

/-- A step leads somewhere.  Without a predicate a relationship is enough, whatever its
targets point at. -/
def SubartifactSet.Holds {store : Store} (env : Environment) (focus : Focus store) :
    SubartifactSet → Prop
  | .call call => call.Holds env focus none
  | .relationship relationshipType (some predicate) none => ∃ reached : Focus store,
      Leads env relationshipType focus.artifact reached ∧ predicate.Holds env reached
  | .relationship relationshipType none none =>
      if env.settings.isDerived relationshipType then
        ∃ reached : Focus store, Leads env relationshipType focus.artifact reached
      else ∃ relationship, Relates relationshipType focus.artifact relationship
  | .relationship _ _ (some _) => False

end

/-- A call holds as the function that its name denotes. -/
theorem FunctionCall.holds_iff_function {store : Store} {env : Environment}
    {focus : Focus store} {comparison : Option (Operator × Primary)} {call : FunctionCall} :
    call.Holds env focus comparison ↔
      match Function.ofName call.name with
      | .error _ => False
      | .ok (.classifiedBy any normalized) => comparison = none ∧ ∃ terms,
          call.arguments.drop 1 = terms.map (fun term => .primary (.literal term)) ∧
          Classified env focus.artifact any normalized terms
      | .ok (.attributeOf part) => ∃ subject key passage,
          call.arguments = [subject, .primary (.literal key)] ∧
          focus.passage = some passage ∧
          (Referent.entries (passage.part part) part.attributeKind key).Passes env comparison
      | .ok .matching => comparison = none ∧ ∃ subject pattern,
          call.arguments = [subject, .primary (.literal pattern)] ∧
          Matched env focus.artifact subject pattern
      | .ok .negation => comparison = none ∧ ∃ expr,
          call.arguments = [.expr expr] ∧ ¬expr.Holds env focus := by
  cases call with
  | mk name arguments =>
      unfold FunctionCall.Holds
      simp only [FunctionCall.name, FunctionCall.arguments]
      cases Function.ofName name with
      | error cause => exact Iff.rfl
      | ok function =>
          cases function with
          | classifiedBy any normalized => exact Iff.rfl
          | attributeOf part => exact Iff.rfl
          | matching => exact Iff.rfl
          | negation =>
              dsimp only
              split
              next expr => simp
              next other =>
                  simp only [false_iff, not_and, not_exists]
                  intro _ expr given
                  exact absurd given (other expr)

/-- An artifact lies at a location path. -/
def LocationPath.Holds {store : Store} (env : Environment) (node : store.Node)
    (path : LocationPath) : Prop :=
  match path.artifactType, path.model with
  | some artifactType, model =>
      if !(env.services.artifactType artifactType).builtin || model == some extendedModel then
        store.Compares node .artifactModel .eq (.string extendedModel) ∧
          store.Compares node (.core .extendedType) .eq (.string artifactType)
      else store.Compares node .artifactType .eq (.string artifactType)
  | none, some model => store.Compares node .artifactModel .eq (.string model)
  | none, none => True

/-- From the artifact at which a query starts, its last step leads to a result. -/
def Reaches {store : Store} (env : Environment) (start result : store.Node) :
    Option SubartifactSet → Prop
  | none => result = start
  | some (.relationship relationshipType predicate none) => ∃ reached : Focus store,
      Leads env relationshipType start reached ∧ reached.artifact = result ∧
      (∀ expr ∈ predicate, expr.Holds env reached) ∧
      store.Under result env.settings.artifactRoot
  | some _ => False

/-- A query selects the artifacts that it reaches from the artifacts at its path that
satisfy its predicate, none of them in the trash. -/
def Selects {store : Store} (env : Environment) (query : Query) (result : store.Node) : Prop :=
  ∃ start : store.Node, store.kind start = .artifact ∧ query.path.Holds env start ∧
    (∀ expr ∈ query.predicate, expr.Holds env ⟨start, none⟩) ∧
    store.Under start env.settings.artifactRoot ∧
    Reaches env start result query.subartifacts

end Sramp.Query
