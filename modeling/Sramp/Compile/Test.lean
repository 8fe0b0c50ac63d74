import Sramp.Coercion
import Sramp.Compile.Scope
import Sramp.Text.Wildcard

/-!
# Tests

The constraints that single tests and function calls stand for, as far as they do
not contain predicates themselves.
-/

namespace Sramp.Compile

open Query

/-- What `@name` refers to: a core property of the artifact, or the entries with
that key among its custom properties. -/
def testedProperty (scope : Scope) (name : QName) : Fresh Tested :=
  if !name.isSramp then unsupported (.foreignProperty name.namespaceUri) (propertyText name)
  else
    match CoreProperty.ofLocalName? name.localName with
    | some property => return .direct (scope.artifact.operand (.core property))
    | none => return .entries (← probe scope.artifact .propertyEntry name.localName)

/-- The constraint of a test, with or without a comparison. -/
def testConstraint (env : Environment) (tested : Tested) :
    Option (Operator × Primary) → Fresh Constraint
  | none => return tested.exists?
  | some (operator, value) => do
      let value ← answer (Value.coerce (some tested.property) value env.dateFormat)
      return tested.compare operator value

/-- The nodes of an edge that have attributes. -/
inductive EdgePart where
  | relationship
  | target
  deriving DecidableEq, Repr

namespace EdgePart

/-- The selector of a part of an edge. -/
def selector (edge : Edge) : EdgePart → Selector
  | .relationship => edge.relationship
  | .target => edge.target

/-- The kind of the attributes of a part of an edge. -/
def attributeKind : EdgePart → NodeKind
  | .relationship => .relationshipAttribute
  | .target => .targetAttribute

end EdgePart

/-- The functions of the language. -/
inductive Function where
  | classifiedBy (any normalized : Bool)
  | attributeOf (part : EdgePart)
  | matching
  | negation
  deriving DecidableEq, Repr

namespace Function

/-- The S-RAMP function with a local name. -/
def ofSramp (name : String) : Except Unsupported Function :=
  match name with
  | "classifiedByAnyOf" => .ok (.classifiedBy true true)
  | "classifiedByAllOf" => .ok (.classifiedBy false true)
  | "exactlyClassifiedByAnyOf" => .ok (.classifiedBy true false)
  | "exactlyClassifiedByAllOf" => .ok (.classifiedBy false false)
  | "getRelationshipAttribute" => .ok (.attributeOf .relationship)
  | "getTargetAttribute" => .ok (.attributeOf .target)
  | "matches" | "not" => .error (.xpathFunctionOnly name)
  | _ => .error (.unknownFunction name)

/-- The XPath function with a local name. -/
def ofXPath (name : String) : Except Unsupported Function :=
  match name with
  | "matches" => .ok .matching
  | "not" => .ok .negation
  | _ => .error (.unknownXPathFunction name)

/-- The function that a name denotes. -/
def ofName (name : QName) : Except Unsupported Function :=
  if name.isSramp then ofSramp name.localName
  else if name.isXPath then ofXPath name.localName
  else .error (.foreignFunction name.namespaceUri)

end Function

/-- The text of a string literal argument. -/
def literalArgument : Argument → Fresh String
  | .primary (.literal text) => return text
  | argument => unsupported .literalExpected argument.text

/-- The terms among arguments, each of which must be a string literal. -/
def termArguments : List Argument → Except Error (List String)
  | [] => .ok []
  | .primary (.literal term) :: rest => do return term :: (← termArguments rest)
  | argument :: _ => .error (.unsupported .termNotLiteral argument.text)

/-- The artifact is in any or in all of the classes named after the first
argument. -/
def classificationTest (env : Environment) (scope : Scope) (any normalized : Bool)
    (call : FunctionCall) : Fresh Constraint := do
  let terms ← answer (termArguments (call.arguments.drop 1))
  if terms.isEmpty then unsupported (.noTerms call.name.localName) call.text
  let uris ← answer ((env.services.resolveAll terms).mapError .classification)
  let tests := uris.toList.map fun uri =>
    Constraint.equals scope.artifact (.classifier normalized) (.string uri)
  match if any then Constraint.any tests else Constraint.all tests with
  | some constraint => return constraint
  | none => refuse (.noClassification call.text)

/-- The entries that hold an attribute of the edge of the enclosing traversal. -/
def attributeProbe (scope : Scope) (part : EdgePart) (call : FunctionCall) : Fresh Probe :=
  match call.arguments with
  | [_, key] => do
      let key ← literalArgument key
      match scope.edge with
      | some edge => probe (part.selector edge) part.attributeKind key
      | none => unsupported (.noEdge call.name.localName) call.text
  | arguments =>
      unsupported (.argumentCount call.name.localName 2 arguments.length) call.text

/-- The subject of a predicate that is a single test without a comparison. -/
def bareSubject? : Expr → Option Subject
  | .single (.single (.test subject none)) => some subject
  | _ => none

/-- Whether an argument is the context item. -/
def isContextItem : Argument → Bool
  | .primary .contextItem => true
  | .primary _ => false
  | .expr expr =>
      match bareSubject? expr with
      | some (.primary .contextItem) => true
      | _ => false

/-- The name of the property that an argument consists of. -/
def propertyArgument (argument : Argument) : Fresh QName :=
  match argument with
  | .expr expr =>
      match bareSubject? expr with
      | some (.property name) => return name
      | _ => unsupported .propertyExpected argument.text
  | .primary _ => unsupported .propertyExpected argument.text

/-- The list cut into parts of a given size, the last of which may be smaller. -/
def chunks {α : Type} (size : Nat) (values : List α) : List (List α) :=
  if _spent : size = 0 ∨ values = [] then []
  else values.take size :: chunks size (values.drop size)
termination_by values.length
decreasing_by
  have : values.length ≠ 0 := by simp_all
  simp only [List.length_drop]
  omega

/-- The artifact's UUID is one of some identifiers, tested in groups. -/
def hitTests (scope : Scope) (chunkSize : Nat) (ids : List String) : List Constraint :=
  let uuid := scope.artifact.operand (.core .uuid)
  if ids.isEmpty then [.oneOf uuid []]
  else (chunks chunkSize ids).map fun group => .oneOf uuid (group.map .string)

/-- The artifact is among the hits of a full-text search. -/
def fullTextTest (env : Environment) (scope : Scope) (pattern : String) : Fresh Constraint := do
  let ids ← answer
    ((env.services.search pattern env.settings.fullTextFields).mapError .fullText)
  match Constraint.any (hitTests scope env.settings.chunkSize ids) with
  | some constraint => return constraint
  | none => refuse (.invalidSettings .zeroChunkSize)

/-- The pattern of a `LIKE` comparison for a text with wildcards. -/
def likePattern (pattern : String) : String :=
  String.ofList ((Text.Wildcard.ofString pattern).withMark ['%'])

/-- A property, or the full text of the artifact, matches a pattern. -/
def matchTest (env : Environment) (scope : Scope) (call : FunctionCall) : Fresh Constraint :=
  match call.arguments with
  | [subject, pattern] => do
      let pattern ← literalArgument pattern
      if isContextItem subject then fullTextTest env scope pattern
      else
        let name ← propertyArgument subject
        let tested ← testedProperty scope name
        return tested.compare .like (.string (likePattern pattern))
  | arguments =>
      unsupported (.argumentCount "matches" 2 arguments.length) call.text

end Sramp.Compile
