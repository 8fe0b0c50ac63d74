import Sramp.Connective
import Sramp.Plan.Constraint

/-!
# Statements of the hierarchical store

Artifacts, relationships and targets are nodes of a tree; entries are properties of
the node they belong to.  Values stand in the text of a statement as literals.
-/

namespace Sramp.Hierarchical

/-- The types of nodes that can be selected. -/
inductive NodeType where
  | artifact
  | relationship
  | target
  deriving DecidableEq, Repr

namespace NodeType

/-- The name of a node type. -/
def text : NodeType → String
  | .artifact => "sramp:baseArtifactType"
  | .relationship => "sramp:relationship"
  | .target => "sramp:target"

end NodeType

/-- A property of the node that bears an alias. -/
structure NodeProperty where
  aliasName : String
  name : String
  deriving DecidableEq, Repr

namespace NodeProperty

/-- The text of a property, its name in brackets. -/
def text (property : NodeProperty) : String :=
  property.aliasName ++ ".[" ++ property.name ++ "]"

end NodeProperty

/-- When nodes are joined: properties are equal, or one is a child of the other. -/
inductive Link where
  | equal (left right : NodeProperty)
  | child (child parent : String)
  deriving DecidableEq, Repr

namespace Link

/-- The text of a link. -/
def text : Link → String
  | .equal left right => left.text ++ " = " ++ right.text
  | .child lower upper => "ISCHILDNODE(" ++ lower ++ ", " ++ upper ++ ")"

end Link

/-- The nodes of a type, or joined nodes. -/
inductive Rows where
  | nodes (type : NodeType) (aliasName : String)
  | join (left right : Rows) (kind : JoinKind) (link : Link)
  deriving DecidableEq, Repr

namespace Rows

/-- The keywords of a join. -/
def joinText : JoinKind → String
  | .inner => "INNER JOIN"
  | .leftOuter => "LEFT OUTER JOIN"

/-- The text of rows. -/
def text : Rows → String
  | .nodes type aliasName => "[" ++ type.text ++ "] AS " ++ aliasName
  | .join left right kind link =>
      left.text ++ " " ++ joinText kind ++ " " ++ right.text ++ " ON " ++ link.text

end Rows

/-- A value as a literal.  Every value but a string is cast from its text. -/
def literalText : Value → String
  | .string text => Text.quoted text
  | .boolean true => "CAST('true' AS BOOLEAN)"
  | .boolean false => "CAST('false' AS BOOLEAN)"
  | .double value => "CAST('" ++ value.text ++ "' AS DOUBLE)"
  | .date day => "CAST('" ++ day.text ++ "T00:00:00.000Z' AS DATE)"

/-- The condition of a statement.  The language has no correlated existence test, so
`within` asks for a property among those of the nodes that a second query selects. -/
inductive Condition where
  | comparison (property : NodeProperty) (operator : Operator) (value : Value)
  | present (property : NodeProperty)
  | never (aliasName : String)
  | oneOf (property : NodeProperty) (values : List Value)
  | descendant (aliasName path : String)
  | within (outer selected : NodeProperty) (rows : Rows)
  | withinWhere (outer selected : NodeProperty) (rows : Rows) (inner : Condition)
  | not (inner : Condition)
  | and (left right : Condition)
  | or (left right : Condition)
  deriving DecidableEq

namespace Condition

/-- The connective of a condition that has one. -/
def connective : Condition → Option Connective
  | .and .. => some .and
  | .or .. => some .or
  | _ => none

/-- The text that opens a second query. -/
def withinText (outer selected : NodeProperty) (rows : Rows) : String :=
  outer.text ++ " IN (SELECT " ++ selected.text ++ " FROM " ++ rows.text

/-- The text of a condition. -/
def text : Condition → String
  | .comparison property operator value =>
      property.text ++ " " ++ operator.symbol ++ " " ++ literalText value
  | .present property => property.text ++ " IS NOT NULL"
  | .never aliasName => "NOT ISDESCENDANTNODE(" ++ aliasName ++ ", '/')"
  | .oneOf property values =>
      property.text ++ " IN (" ++ ", ".intercalate (values.map literalText) ++ ")"
  | .descendant aliasName path =>
      "ISDESCENDANTNODE(" ++ aliasName ++ ", " ++ Text.quoted path ++ ")"
  | .within outer selected rows => withinText outer selected rows ++ ")"
  | .withinWhere outer selected rows inner =>
      withinText outer selected rows ++ " WHERE " ++ inner.text ++ ")"
  | .not inner => "NOT (" ++ inner.text ++ ")"
  | .and left right =>
      enclosed (some .and) left.connective left.text ++ " AND "
        ++ enclosed (some .and) right.connective right.text
  | .or left right =>
      enclosed (some .or) left.connective left.text ++ " OR "
        ++ enclosed (some .or) right.connective right.text

end Condition

/-- The property that orders the results. -/
structure Order where
  property : NodeProperty
  ascending : Bool
  deriving DecidableEq, Repr

namespace Order

/-- The text of an order. -/
def text (order : Order) : String :=
  " ORDER BY " ++ order.property.text ++ (if order.ascending then " ASC" else " DESC")

end Order

/-- A query of the hierarchical store. -/
structure Statement where
  result : String
  rows : Rows
  condition : Option Condition
  order : Option Order
  deriving DecidableEq

namespace Statement

/-- The text of a statement. -/
def text (statement : Statement) : String :=
  "SELECT " ++ statement.result ++ ".* FROM " ++ statement.rows.text
    ++ (match statement.condition with
      | none => ""
      | some condition => " WHERE " ++ condition.text)
    ++ (match statement.order with
      | none => ""
      | some order => order.text)

end Statement

end Sramp.Hierarchical
