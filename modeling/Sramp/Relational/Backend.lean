import Sramp.Backend
import Sramp.Relational.Statement

/-!
# The relational backend

States plans for the relational store.  A property is a column of the table for
its kind of node, a node stored beneath another refers to it by a key, and the
path below which artifacts are live is known only as a mark against trash.
-/

namespace Sramp.Relational

/-- The name of the backend in messages. -/
def backendName : String := "relational"

/-- Stating a plan: it counts the classifier look-ups stated so far, also when it
fails. -/
abbrev Numbered := ExceptT Error (StateM Nat)

/-- The error that something cannot be expressed. -/
def gap (capability : Capability) : Error :=
  .gap backendName capability

/-- The column of a core property. -/
def coreColumn : CoreProperty → String
  | .createdBy => "created_by"
  | .createdTimestamp => "created_timestamp"
  | .lastModifiedBy => "last_modified_by"
  | .lastModifiedTimestamp => "last_modified_timestamp"
  | .version => "version"
  | .uuid => "uuid"
  | .description => "description"
  | .name => "name"
  | .contentType => "content_type"
  | .contentSize => "content_size"
  | .contentHash => "content_hash"
  | .contentEncoding => "content_encoding"
  | .extendedType => "extended_type"
  | .derived => "derived"
  | .ncName => "nc_name"
  | .namespace => "namespace"
  | .targetNamespace => "target_namespace"
  | .style => "style"
  | .transport => "transport"
  | .soapLocation => "soap_location"

/-- The name of the column that holds a property of nodes of a kind. -/
def columnName? (kind : NodeKind) : Property → Option String
  | .id => some "id"
  | .core property => if kind = .artifact then some (coreColumn property) else none
  | .artifactType => if kind = .artifact then some "artifact_type" else none
  | .artifactModel => if kind = .artifact then some "artifact_model" else none
  | .relationshipType => if kind = .relationship then some "relationship_type" else none
  | .targetArtifact => if kind = .target then some "target_artifact_id" else none
  | .entryKey => if kind.isEntry then some "entry_key" else none
  | .entryValue => if kind.isEntry then some "entry_value" else none
  | .classifier _ => none

/-- The column of an operand. -/
def column (operand : Operand) : Except Error Column :=
  match columnName? operand.selector.kind operand.property with
  | some name => .ok ⟨operand.selector.aliasName, name⟩
  | none => .error (gap (.propertyOf operand.property operand.selector.kind))

/-- The key by which a node of one kind refers to the node it is stored beneath. -/
def parentKey? (child parent : NodeKind) : Option String :=
  match child, parent with
  | .relationship, .artifact => some "owner_id"
  | .target, .relationship => some "relationship_id"
  | .propertyEntry, .artifact => some "artifact_id"
  | .relationshipAttribute, .relationship => some "relationship_id"
  | .targetAttribute, .target => some "target_id"
  | .artifact, .artifact => some "derived_from_id"
  | _, _ => none

/-- The two columns that are equal in joined rows. -/
def joinColumns : JoinCondition → Except Error (Column × Column)
  | .equal left right => do
      let left ← column left
      let right ← column right
      return (left, right)
  | .child child parent =>
      match parentKey? child.kind parent.kind with
      | some key => .ok (⟨child.aliasName, key⟩, ⟨parent.aliasName, "id"⟩)
      | none => .error (gap (.storedBeneath child.kind parent.kind))

/-- States the comparison of an operand.  Classifiers are looked up, and compared
for equality only. -/
def comparison (operand : Operand) (operator : Operator) (value : Value) :
    Numbered Condition :=
  match operand.property with
  | .classifier normalized =>
      if operator = .eq then do
        let number ← modifyGet fun count => (count + 1, count + 1)
        return .classified number normalized operand.selector.aliasName value
      else throw (gap (.classifierComparison operator))
  | _ => do return .comparison (← column operand) operator value

/-- States that an operand is one of some values; without values nothing is. -/
def oneOf (operand : Operand) (values : List Value) : Except Error Condition :=
  if values.isEmpty then .ok .never else do return .oneOf (← column operand) values

/-- States that a correlated row exists. -/
def existence (rows : Rows) (correlated outer : Column) : Option Condition → Condition
  | none => .existsRow rows correlated outer
  | some inner => .existsRowWith rows correlated outer inner

/-- States that an artifact is not in the trash. -/
def descendant (root : String) (selector : Selector) (path : String) : Except Error Condition :=
  if selector.kind = .artifact ∧ path = root then .ok (.live selector.aliasName)
  else .error (gap (.locatedUnder selector.kind path))

/-- States the order of the results. -/
def order : Option SortOrder → Except Error (Option Order)
  | none => .ok none
  | some sorting => do return some ⟨← column sorting.operand, sorting.ascending⟩

/-- The path of the live artifacts unless another one is chosen. -/
def defaultRoot : String := "/s-ramp"

/-- The backend for a store whose live artifacts are those below a path. -/
def backend (root : String) : Backend Numbered Rows Condition Statement where
  name := backendName
  rowsText := Rows.text
  conditionText := Condition.text
  selector selector := return .table selector.kind selector.aliasName
  join left right kind condition := do
    let (first, second) ← joinColumns condition
    return .join left right kind first second
  comparison := comparison
  present operand := do return .present (← column operand)
  oneOf operand values := oneOf operand values
  existence subquery rows condition := do
    let rows ← rows
    let correlated ← column subquery.rows.correlated
    let outer ← column subquery.rows.outer
    return existence rows correlated outer (← condition)
  descendant selector path := descendant root selector path
  negation inner := return .not inner
  conjunction left right := return .and left right
  disjunction left right := return .or left right
  statement rows condition result sorting := do
    return ⟨result.aliasName, rows, condition, ← order sorting⟩

/-- States a plan, when `count` classifier look-ups have been stated before.  The
new count is part of the answer. -/
def realize (root : String) (plan : Plan) (count : Nat) : Except Error Statement × Nat :=
  ((backend root).realize plan).run.run count

end Sramp.Relational
