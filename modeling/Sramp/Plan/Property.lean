import Sramp.Vocabulary

/-!
# Selectors and properties

What a plan ranges over and the properties it tests there.  A selector names the
nodes of one kind that take part in a join; an operand is a property of such a
node.
-/

namespace Sramp

/-- The kinds of nodes in a repository.  Custom properties and attributes are
entries with a key and a value, stored beneath the node they belong to. -/
inductive NodeKind where
  | artifact
  | relationship
  | target
  | propertyEntry
  | relationshipAttribute
  | targetAttribute
  deriving DecidableEq, Repr

namespace NodeKind

/-- The name of a kind in plans and messages. -/
def name : NodeKind → String
  | .artifact => "Artifact"
  | .relationship => "Relationship"
  | .target => "Target"
  | .propertyEntry => "PropertyEntry"
  | .relationshipAttribute => "RelationshipAttribute"
  | .targetAttribute => "TargetAttribute"

/-- Whether nodes of a kind are entries with a key and a value. -/
def isEntry : NodeKind → Bool
  | .propertyEntry | .relationshipAttribute | .targetAttribute => true
  | _ => false

end NodeKind

/-- The properties that every artifact has as a single value. -/
inductive CoreProperty where
  | createdBy
  | createdTimestamp
  | lastModifiedBy
  | lastModifiedTimestamp
  | version
  | uuid
  | description
  | name
  | contentType
  | contentSize
  | contentHash
  | contentEncoding
  | extendedType
  | derived
  | ncName
  | «namespace»
  | targetNamespace
  | style
  | transport
  | soapLocation
  deriving DecidableEq, Repr

namespace CoreProperty

/-- All core properties. -/
def all : List CoreProperty :=
  [.createdBy, .createdTimestamp, .lastModifiedBy, .lastModifiedTimestamp, .version, .uuid,
    .description, .name, .contentType, .contentSize, .contentHash, .contentEncoding,
    .extendedType, .derived, .ncName, .namespace, .targetNamespace, .style, .transport,
    .soapLocation]

/-- The name of a property in queries. -/
def localName : CoreProperty → String
  | .createdBy => "createdBy"
  | .createdTimestamp => "createdTimestamp"
  | .lastModifiedBy => "lastModifiedBy"
  | .lastModifiedTimestamp => "lastModifiedTimestamp"
  | .version => "version"
  | .uuid => "uuid"
  | .description => "description"
  | .name => "name"
  | .contentType => "contentType"
  | .contentSize => "contentSize"
  | .contentHash => "contentHash"
  | .contentEncoding => "contentEncoding"
  | .extendedType => "extendedType"
  | .derived => "derived"
  | .ncName => "ncName"
  | .namespace => "namespace"
  | .targetNamespace => "targetNamespace"
  | .style => "style"
  | .transport => "transport"
  | .soapLocation => "soapLocation"

/-- The core property with a given name in queries. -/
def ofLocalName? (name : String) : Option CoreProperty :=
  all.find? (·.localName == name)

/-- Whether a property holds a point in time. -/
def isTimestamp : CoreProperty → Bool
  | .createdTimestamp | .lastModifiedTimestamp => true
  | _ => false

@[simp] theorem ofLocalName?_localName (property : CoreProperty) :
    ofLocalName? property.localName = some property := by
  cases property <;> decide

end CoreProperty

/-- A property of a node.  A target names the artifact it points at; the
classifiers of an artifact are a set, and the normalized ones include every
ancestor class. -/
inductive Property where
  | core (property : CoreProperty)
  | artifactType
  | artifactModel
  | relationshipType
  | targetArtifact
  | id
  | classifier (normalized : Bool)
  | entryKey
  | entryValue
  deriving DecidableEq, Repr

namespace Property

/-- The name of a property in plans. -/
def text : Property → String
  | .core property => property.localName
  | .artifactType => "artifactType"
  | .artifactModel => "artifactModel"
  | .relationshipType => "relationshipType"
  | .targetArtifact => "targetArtifact"
  | .id => "id"
  | .classifier true => "normalizedClassifiers"
  | .classifier false => "classifiers"
  | .entryKey => "key"
  | .entryValue => "value"

/-- Whether a property holds a point in time. -/
def isTimestamp : Property → Bool
  | .core property => property.isTimestamp
  | _ => false

end Property

/-- The nodes of a kind that take part in a join under a name. -/
structure Selector where
  kind : NodeKind
  aliasName : String
  deriving DecidableEq, Repr

/-- A property of the node that a selector stands for. -/
structure Operand where
  selector : Selector
  property : Property
  deriving DecidableEq, Repr

namespace Selector

/-- A property of the selected node. -/
def operand (selector : Selector) (property : Property) : Operand :=
  ⟨selector, property⟩

end Selector

namespace Operand

/-- The text of an operand in plans. -/
def text (operand : Operand) : String :=
  operand.selector.aliasName ++ "." ++ operand.property.text

end Operand

end Sramp
