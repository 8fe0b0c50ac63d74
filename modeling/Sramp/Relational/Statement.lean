import Sramp.Connective
import Sramp.Plan.Constraint

/-!
# Statements of the relational store

Artifacts, relationships, targets and entries are rows of one table each; the
classifiers of artifacts are kept in two further tables.  Values never occur in
the text of a statement: each is bound to a question mark, in the order of the
text.
-/

namespace Sramp.Relational

/-- The table that holds the nodes of a kind. -/
def tableName : NodeKind → String
  | .artifact => "artifact"
  | .relationship => "relationship"
  | .target => "target"
  | .propertyEntry => "artifact_property"
  | .relationshipAttribute => "relationship_attribute"
  | .targetAttribute => "target_attribute"

/-- The table that links artifacts to their classifiers. -/
def classifierTable (normalized : Bool) : String :=
  if normalized then "artifact_normalized_classifier" else "artifact_classifier"

/-- A column of a row that bears an alias. -/
structure Column where
  aliasName : String
  name : String
  deriving DecidableEq, Repr

namespace Column

/-- The text of a column. -/
def text (column : Column) : String :=
  column.aliasName ++ "." ++ column.name

end Column

/-- A table, or rows joined where two columns are equal. -/
inductive Rows where
  | table (kind : NodeKind) (aliasName : String)
  | join (left right : Rows) (kind : JoinKind) (first second : Column)
  deriving DecidableEq, Repr

namespace Rows

/-- The keyword of a join. -/
def joinText : JoinKind → String
  | .inner => "JOIN"
  | .leftOuter => "LEFT JOIN"

/-- The text of rows. -/
def text : Rows → String
  | .table kind aliasName => tableName kind ++ " " ++ aliasName
  | .join left right kind first second =>
      left.text ++ " " ++ joinText kind ++ " " ++ right.text ++ " ON " ++ first.text ++ " = "
        ++ second.text

end Rows

/-- The condition of a statement.  `classified` looks up a classifier of an
artifact, under an alias of its own. -/
inductive Condition where
  | comparison (column : Column) (operator : Operator) (value : Value)
  | present (column : Column)
  | never
  | oneOf (column : Column) (values : List Value)
  | live (aliasName : String)
  | classified (number : Nat) (normalized : Bool) (artifact : String) (classifier : Value)
  | existsRow (rows : Rows) (correlated outer : Column)
  | existsRowWith (rows : Rows) (correlated outer : Column) (inner : Condition)
  | not (inner : Condition)
  | and (left right : Condition)
  | or (left right : Condition)
  deriving DecidableEq

namespace Condition

/-- The connective of a condition that has one. -/
def connective : Condition → Option Connective
  | .and .. => some .and
  | .or .. => some .or
  | _ => none

/-- The alias of a classifier. -/
def classifierAlias (number : Nat) : String :=
  "classifier" ++ toString number

/-- The text of a classifier look-up. -/
def classifiedText (number : Nat) (normalized : Bool) (artifact : String) : String :=
  let classifier := classifierAlias number
  "EXISTS (SELECT 1 FROM " ++ classifierTable normalized ++ " " ++ classifier ++ " WHERE "
    ++ classifier ++ ".artifact_id = " ++ artifact ++ ".id AND " ++ classifier
    ++ ".classification = ?)"

/-- The text that opens an existence test. -/
def existsText (rows : Rows) (correlated outer : Column) : String :=
  "EXISTS (SELECT 1 FROM " ++ rows.text ++ " WHERE " ++ correlated.text ++ " = " ++ outer.text

/-- The text of a condition, with a question mark for each value. -/
def text : Condition → String
  | .comparison column operator _ => column.text ++ " " ++ operator.symbol ++ " ?"
  | .present column => column.text ++ " IS NOT NULL"
  | .never => "1 = 0"
  | .oneOf column values =>
      column.text ++ " IN (" ++ ", ".intercalate (values.map fun _ => "?") ++ ")"
  | .live aliasName => aliasName ++ ".trashed = FALSE"
  | .classified number normalized artifact _ => classifiedText number normalized artifact
  | .existsRow rows correlated outer => existsText rows correlated outer ++ ")"
  | .existsRowWith rows correlated outer inner =>
      existsText rows correlated outer ++ " AND "
        ++ enclosed (some .and) inner.connective inner.text ++ ")"
  | .not inner => "NOT " ++ enclosed none inner.connective inner.text
  | .and left right =>
      enclosed (some .and) left.connective left.text ++ " AND "
        ++ enclosed (some .and) right.connective right.text
  | .or left right =>
      enclosed (some .or) left.connective left.text ++ " OR "
        ++ enclosed (some .or) right.connective right.text

/-- The values of a condition in the order of their question marks. -/
def parameters : Condition → List Value
  | .comparison _ _ value => [value]
  | .oneOf _ values => values
  | .classified _ _ _ classifier => [classifier]
  | .existsRowWith _ _ _ inner => inner.parameters
  | .not inner => inner.parameters
  | .and left right | .or left right => left.parameters ++ right.parameters
  | .present _ | .never | .live _ | .existsRow .. => []

end Condition

/-- The column that orders the results. -/
structure Order where
  column : Column
  ascending : Bool
  deriving DecidableEq, Repr

namespace Order

/-- The text of an order. -/
def text (order : Order) : String :=
  " ORDER BY " ++ order.column.text ++ (if order.ascending then " ASC" else " DESC")

end Order

/-- A query of the relational store. -/
structure Statement where
  result : String
  rows : Rows
  condition : Option Condition
  order : Option Order
  deriving DecidableEq

namespace Statement

/-- The text of a statement. -/
def text (statement : Statement) : String :=
  "SELECT DISTINCT " ++ statement.result ++ ".* FROM " ++ statement.rows.text
    ++ (match statement.condition with
      | none => ""
      | some condition => " WHERE " ++ condition.text)
    ++ (match statement.order with
      | none => ""
      | some order => order.text)

/-- The values that a statement binds, in the order of their question marks. -/
def parameters (statement : Statement) : List Value :=
  match statement.condition with
  | none => []
  | some condition => condition.parameters

end Statement

end Sramp.Relational
