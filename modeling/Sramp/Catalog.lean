import Sramp.Vocabulary

/-!
# Artifact types

The fixed artifact types of S-RAMP.  Every other type name denotes a type that
users have defined.
-/

namespace Sramp

/-- The family of an artifact type: uploaded content, content derived from a
document, a concept modelled without content, or a type defined by users. -/
inductive ArtifactFamily where
  | document
  | derived
  | logical
  | extended
  deriving DecidableEq, Repr

namespace ArtifactFamily

/-- The name of a family. -/
def name : ArtifactFamily → String
  | .document => "Document"
  | .derived => "Derived"
  | .logical => "Logical"
  | .extended => "Extended"

end ArtifactFamily

/-- What a catalog tells about an artifact type. -/
structure ArtifactType where
  model : String
  builtin : Bool
  family : ArtifactFamily
  deriving DecidableEq, Repr

/-- A fixed artifact type. -/
structure BuiltinType where
  model : String
  name : String
  family : ArtifactFamily
  deriving DecidableEq, Repr

/-- The fixed artifact types, model by model. -/
def builtinTypes : List BuiltinType :=
  [⟨"core", "Document", .document⟩,
    ⟨"core", "XmlDocument", .document⟩,
    ⟨"xsd", "XsdDocument", .document⟩,
    ⟨"xsd", "AttributeDeclaration", .derived⟩,
    ⟨"xsd", "ElementDeclaration", .derived⟩,
    ⟨"xsd", "SimpleTypeDeclaration", .derived⟩,
    ⟨"xsd", "ComplexTypeDeclaration", .derived⟩,
    ⟨"xsd", "XsdType", .derived⟩,
    ⟨"policy", "PolicyDocument", .document⟩,
    ⟨"policy", "PolicyExpression", .derived⟩,
    ⟨"policy", "PolicyAttachment", .derived⟩,
    ⟨"soapWsdl", "SoapAddress", .derived⟩,
    ⟨"soapWsdl", "SoapBinding", .derived⟩,
    ⟨"wsdl", "WsdlDocument", .document⟩,
    ⟨"wsdl", "WsdlService", .derived⟩,
    ⟨"wsdl", "Port", .derived⟩,
    ⟨"wsdl", "WsdlExtension", .derived⟩,
    ⟨"wsdl", "Part", .derived⟩,
    ⟨"wsdl", "Message", .derived⟩,
    ⟨"wsdl", "Fault", .derived⟩,
    ⟨"wsdl", "PortType", .derived⟩,
    ⟨"wsdl", "Operation", .derived⟩,
    ⟨"wsdl", "OperationInput", .derived⟩,
    ⟨"wsdl", "OperationOutput", .derived⟩,
    ⟨"wsdl", "Binding", .derived⟩,
    ⟨"wsdl", "BindingOperation", .derived⟩,
    ⟨"wsdl", "BindingOperationInput", .derived⟩,
    ⟨"wsdl", "BindingOperationOutput", .derived⟩,
    ⟨"wsdl", "BindingOperationFault", .derived⟩,
    ⟨"serviceImplementation", "ServiceEndpoint", .logical⟩,
    ⟨"serviceImplementation", "ServiceInstance", .logical⟩,
    ⟨"serviceImplementation", "ServiceOperation", .logical⟩,
    ⟨"serviceImplementation", "Organization", .logical⟩,
    ⟨"ext", "ExtendedArtifactType", .extended⟩,
    ⟨"ext", "ExtendedDocument", .extended⟩,
    ⟨"soa", "Actor", .logical⟩,
    ⟨"soa", "Choreography", .logical⟩,
    ⟨"soa", "ChoreographyProcess", .logical⟩,
    ⟨"soa", "Collaboration", .logical⟩,
    ⟨"soa", "CollaborationProcess", .logical⟩,
    ⟨"soa", "Composition", .logical⟩,
    ⟨"soa", "Effect", .logical⟩,
    ⟨"soa", "Element", .logical⟩,
    ⟨"soa", "Event", .logical⟩,
    ⟨"soa", "InformationType", .logical⟩,
    ⟨"soa", "Orchestration", .logical⟩,
    ⟨"soa", "OrchestrationProcess", .logical⟩,
    ⟨"soa", "Policy", .logical⟩,
    ⟨"soa", "PolicySubject", .logical⟩,
    ⟨"soa", "Process", .logical⟩,
    ⟨"soa", "Service", .logical⟩,
    ⟨"soa", "ServiceContract", .logical⟩,
    ⟨"soa", "ServiceComposition", .logical⟩,
    ⟨"soa", "ServiceInterface", .logical⟩,
    ⟨"soa", "System", .logical⟩,
    ⟨"soa", "Task", .logical⟩]

namespace ArtifactType

/-- A type that users have defined. -/
def extended : ArtifactType :=
  ⟨extendedModel, false, .extended⟩

/-- The fixed type with exactly a given name. -/
def builtin? (name : String) : Option ArtifactType :=
  (builtinTypes.find? (·.name == name)).map fun type => ⟨type.model, true, type.family⟩

/-- The type with a given name. -/
def ofName (name : String) : ArtifactType :=
  (builtin? name).getD extended

end ArtifactType

end Sramp
