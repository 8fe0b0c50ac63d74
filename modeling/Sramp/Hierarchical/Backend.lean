import Sramp.Backend
import Sramp.Hierarchical.Statement

/-!
# The hierarchical backend

States plans for the hierarchical store.  A test over the entries of a node
becomes a test of a property of that node; every other existence test selects the
correlated operands in a second query.
-/

namespace Sramp.Hierarchical

/-- The name of the backend in messages. -/
def backendName : String := "hierarchical"

/-- The error that something cannot be expressed. -/
def gap (capability : Capability) : Error :=
  .gap backendName capability

/-- The node type for nodes of a kind. -/
def nodeType (kind : NodeKind) : Except Error NodeType :=
  match kind with
  | .artifact => .ok .artifact
  | .relationship => .ok .relationship
  | .target => .ok .target
  | .propertyEntry | .relationshipAttribute | .targetAttribute =>
      .error (gap (.entrySelector kind))

/-- The name of the node property for a core property. -/
def coreName : CoreProperty → String
  | .createdBy => "jcr:createdBy"
  | .createdTimestamp => "jcr:created"
  | .lastModifiedBy => "jcr:lastModifiedBy"
  | .lastModifiedTimestamp => "jcr:lastModified"
  | .version => "version"
  | property => "sramp:" ++ property.localName

/-- The name of the node property for a property. -/
def propertyName (property : Property) : Except Error String :=
  match property with
  | .core core => .ok (coreName core)
  | .artifactType => .ok "sramp:artifactType"
  | .artifactModel => .ok "sramp:artifactModel"
  | .relationshipType => .ok "sramp:relationshipType"
  | .targetArtifact => .ok "sramp:targetArtifact"
  | .id => .ok "jcr:uuid"
  | .classifier true => .ok "sramp:normalizedClassifiedBy"
  | .classifier false => .ok "sramp:classifiedBy"
  | .entryKey | .entryValue => .error (gap (.entryProperty property))

/-- The node property of an operand. -/
def nodeProperty (operand : Operand) : Except Error NodeProperty := do
  return ⟨operand.selector.aliasName, ← propertyName operand.property⟩

/-- The label of the node properties that hold entries of a kind. -/
def entryLabel? : NodeKind → Option String
  | .propertyEntry => some "sramp-properties"
  | .relationshipAttribute | .targetAttribute => some "sramp-otherAttributes"
  | .artifact | .relationship | .target => none

/-- A test over the entries of a node: one with the key exists, and its value
compares as asked if a comparison is given. -/
structure EntryTest where
  label : String
  key : String
  comparison : Option (Operator × Value)
  deriving DecidableEq

namespace EntryTest

/-- The owner and the entry of rows that join the entries of a node to it, and are
correlated by that node. -/
def rows? (rows : Correlation) : Option (Selector × Selector) :=
  match rows.source with
  | .join (.single owner) entry .inner (.child child parent) =>
      if child = entry ∧ parent = owner ∧ rows.correlated = owner.operand .id then
        some (owner, entry)
      else none
  | _ => none

/-- The key that a constraint asks an entry to have. -/
def key? (entry : Selector) : Constraint → Option String
  | .comparison operand .eq (.string key) =>
      if operand = entry.operand .entryKey then some key else none
  | _ => none

/-- The comparison that a constraint makes with the value of an entry. -/
def comparison? (entry : Selector) : Constraint → Option (Operator × Value)
  | .comparison operand operator value =>
      if operand = entry.operand .entryValue then some (operator, value) else none
  | _ => none

/-- The test that a condition makes of an entry. -/
def ofCondition? (entry : Selector) (label : String) : Constraint → Option EntryTest
  | .and key value => do
      let key ← key? entry key
      let comparison ← comparison? entry value
      return ⟨label, key, some comparison⟩
  | key => do return ⟨label, ← key? entry key, none⟩

/-- The entry test that a subquery amounts to, if it is one. -/
def ofSubquery? (subquery : Subquery) : Option EntryTest := do
  let (_, entry) ← rows? subquery.rows
  let label ← entryLabel? entry.kind
  ofCondition? entry label (← subquery.condition)

/-- The condition on the node property that holds the entry.  A name with a closing
bracket cannot be written between brackets. -/
def state (test : EntryTest) (aliasName : String) : Except Error Condition :=
  if test.key.toList.contains ']' then .error (gap (.bracketedName test.key))
  else
    let property : NodeProperty := ⟨aliasName, test.label ++ ":" ++ test.key⟩
    match test.comparison with
    | none => .ok (.present property)
    | some (operator, value) => .ok (.comparison property operator value)

end EntryTest

/-- States when nodes are joined. -/
def link : JoinCondition → Except Error Link
  | .equal left right => do
      let left ← nodeProperty left
      let right ← nodeProperty right
      return .equal left right
  | .child lower upper => .ok (.child lower.aliasName upper.aliasName)

/-- States that an operand is one of some values; without values nothing is. -/
def oneOf (operand : Operand) (values : List Value) : Except Error Condition :=
  if values.isEmpty then .ok (.never operand.selector.aliasName)
  else do return .oneOf (← nodeProperty operand) values

/-- States that a property is among those selected by a second query. -/
def within (outer selected : NodeProperty) (rows : Rows) : Option Condition → Condition
  | none => .within outer selected rows
  | some inner => .withinWhere outer selected rows inner

/-- States an existence test. -/
def existence (subquery : Subquery) (rows : Except Error Rows)
    (condition : Except Error (Option Condition)) : Except Error Condition :=
  match EntryTest.ofSubquery? subquery with
  | some test => test.state subquery.rows.outer.selector.aliasName
  | none => do
      let rows ← rows
      let outer ← nodeProperty subquery.rows.outer
      let selected ← nodeProperty subquery.rows.correlated
      return within outer selected rows (← condition)

/-- States the order of the results. -/
def order : Option SortOrder → Except Error (Option Order)
  | none => .ok none
  | some sorting => do return some ⟨← nodeProperty sorting.operand, sorting.ascending⟩

/-- The backend for the hierarchical store. -/
def backend : Backend (Except Error) Rows Condition Statement where
  name := backendName
  rowsText := Rows.text
  conditionText := Condition.text
  selector selector := do return .nodes (← nodeType selector.kind) selector.aliasName
  join left right kind condition := do return .join left right kind (← link condition)
  comparison operand operator value := do
    return .comparison (← nodeProperty operand) operator value
  present operand := do return .present (← nodeProperty operand)
  oneOf := oneOf
  existence := existence
  descendant selector path := .ok (.descendant selector.aliasName path)
  negation inner := .ok (.not inner)
  conjunction left right := .ok (.and left right)
  disjunction left right := .ok (.or left right)
  statement rows condition result sorting := do
    return ⟨result.aliasName, rows, condition, ← order sorting⟩

/-- States a plan. -/
def realize (plan : Plan) : Except Error Statement :=
  backend.realize plan

end Sramp.Hierarchical
