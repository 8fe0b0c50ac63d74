import Sramp.FullText.Index
import Sramp.Ontology
import Sramp.Plan.Property
import Sramp.Settings

/-!
# Errors

Why a query is not compiled or not stated for a store, and the wording of each
cause.
-/

namespace Sramp

/-- Why a fragment of a query lies outside the supported language. -/
inductive Unsupported where
  | foreignProperty (space : String)
  | untestable
  | comparedFunction (name : String)
  | propertyAsValue
  | contextAsValue
  | unknownFunction (name : String)
  | unknownXPathFunction (name : String)
  | xpathFunctionOnly (name : String)
  | foreignFunction (space : String)
  | termNotLiteral
  | noTerms (name : String)
  | argumentCount (name : String) (expected given : Nat)
  | noEdge (name : String)
  | literalExpected
  | propertyExpected
  | expressionExpected
  | nestedTraversal
  | functionStep
  | secondTraversal
  | noConstraint
  | nothingTested
  | notOneConstraint
  deriving DecidableEq, Repr

namespace Unsupported

/-- A number of arguments in words. -/
def countText : Nat → String
  | 1 => "1 argument"
  | count => toString count ++ " arguments"

/-- The wording of a cause. -/
def message : Unsupported → String
  | .foreignProperty space => "properties must be in the S-RAMP namespace, not " ++ space
  | .untestable => "only properties and functions may be tested"
  | .comparedFunction name => name ++ "() cannot be compared to a value"
  | .propertyAsValue => "property references are not allowed as comparison values"
  | .contextAsValue => "the context item is not allowed as a comparison value"
  | .unknownFunction name => "unknown function " ++ name ++ "()"
  | .unknownXPathFunction name => "XPath function " ++ name ++ "() is not supported"
  | .xpathFunctionOnly name => name ++ "() must be called in the XPath function namespace"
  | .foreignFunction space => "functions in namespace " ++ space ++ " are not supported"
  | .termNotLiteral => "classifications must be given as string literals"
  | .noTerms name => name ++ "() needs at least one classification"
  | .argumentCount name expected given =>
      name ++ "() takes " ++ countText expected ++ ", got " ++ toString given
  | .noEdge name => name ++ "() is only valid inside a relationship predicate"
  | .literalExpected => "expected a string literal argument"
  | .propertyExpected => "expected a property argument such as @name"
  | .expressionExpected => "not() needs an expression, not a literal"
  | .nestedTraversal => "multi-level subartifact sets are not supported"
  | .functionStep => "function steps are not supported after the artifact set"
  | .secondTraversal => "only a single top-level relationship step is supported"
  | .noConstraint => "expression yields no constraint"
  | .nothingTested => "test has no property to apply to"
  | .notOneConstraint => "not() argument must yield exactly one constraint"

end Unsupported

/-- What the language of a store cannot express. -/
inductive Capability where
  | propertyOf (property : Property) (kind : NodeKind)
  | storedBeneath (child parent : NodeKind)
  | classifierComparison (operator : Operator)
  | locatedUnder (kind : NodeKind) (path : String)
  | entrySelector (kind : NodeKind)
  | entryProperty (property : Property)
  | bracketedName (name : String)
  deriving DecidableEq, Repr

namespace Capability

/-- The wording of a capability. -/
def message : Capability → String
  | .propertyOf property kind =>
      "property " ++ property.text ++ " on a " ++ kind.name ++ " selector"
  | .storedBeneath child parent => "a " ++ child.name ++ " stored beneath a " ++ parent.name
  | .classifierComparison operator => "classifier comparison with " ++ operator.symbol
  | .locatedUnder kind path => "a " ++ kind.name ++ " located under " ++ path
  | .entrySelector kind => kind.name ++ " as a selector; entries are node properties"
  | .entryProperty property => property.text ++ " outside of a property probe"
  | .bracketedName name => "property name " ++ Text.escaped name ++ " in a bracketed identifier"

end Capability

/-- Why compiling or stating a query fails. -/
inductive Error where
  | unsupported (cause : Unsupported) (fragment : String)
  | malformedDate (literal format reason : String)
  | noClassification (call : String)
  | foreignOrder (name : String)
  | unknownOrder (name : String)
  | classification (error : ResolveError)
  | fullText (error : SearchError)
  | invalidSettings (fault : SettingsFault)
  | gap (backend : String) (capability : Capability)
  deriving DecidableEq, Repr

/-- The coarse kinds of errors, for callers that tell errors apart by kind. -/
inductive ErrorKind where
  | unsupportedFeature
  | malformedLiteral
  | unresolvedReference
  | backendCapabilityGap
  | invalidConfig
  | external
  deriving DecidableEq, Repr

namespace ErrorKind

/-- The name of a kind of errors. -/
def name : ErrorKind → String
  | .unsupportedFeature => "UnsupportedFeature"
  | .malformedLiteral => "MalformedLiteral"
  | .unresolvedReference => "UnresolvedReference"
  | .backendCapabilityGap => "BackendCapabilityGap"
  | .invalidConfig => "InvalidConfig"
  | .external => "External"

end ErrorKind

namespace Error

/-- The kind of an error. -/
def kind : Error → ErrorKind
  | .unsupported .. => .unsupportedFeature
  | .malformedDate .. => .malformedLiteral
  | .noClassification _ | .foreignOrder _ | .unknownOrder _ | .classification _ =>
      .unresolvedReference
  | .fullText _ => .external
  | .invalidSettings _ => .invalidConfig
  | .gap .. => .backendCapabilityGap

/-- The wording of an error. -/
def message : Error → String
  | .unsupported cause fragment =>
      "unsupported: " ++ cause.message ++ " (in `" ++ fragment ++ "`)"
  | .malformedDate literal format reason =>
      "malformed literal '" ++ literal ++ "': expected a date in format " ++ format ++ ": "
        ++ reason
  | .noClassification call => "unresolved reference: no classification resolved for " ++ call
  | .foreignOrder name =>
      "unresolved reference: cannot order by " ++ name
        ++ ": only S-RAMP core properties are sortable"
  | .unknownOrder name => "unresolved reference: cannot order by unknown property " ++ name
  | .classification error => error.message
  | .fullText error => error.message
  | .invalidSettings fault => "invalid compiler configuration: " ++ fault.message
  | .gap backend capability =>
      backend ++ " backend cannot express " ++ capability.message

end Error

end Sramp
