import Sramp.Double.Text
import Sramp.Query.Syntax
import Sramp.Text.Quoted

/-!
# Query text

The canonical text of queries and their parts.  Messages quote it for the
fragment at fault.
-/

namespace Sramp.Query

namespace LocationPath

/-- The text of a location path; a type is shown only below a model. -/
def text (path : LocationPath) : String :=
  match path.model, path.artifactType with
  | none, _ => "/s-ramp"
  | some model, none => "/s-ramp/" ++ model
  | some model, some artifactType => "/s-ramp/" ++ model ++ "/" ++ artifactType

end LocationPath

namespace Primary

/-- The text of a primary.  A whole number shows all its digits. -/
def text : Primary → String
  | .literal value => Text.quoted value
  | .number value => if value.isWhole then value.wholeText else value.text
  | .property name => "$" ++ name.text
  | .contextItem => "."

end Primary

/-- The text of a property test. -/
def propertyText (name : QName) : String :=
  "@" ++ name.text

/-- The text of a comparison after its subject; nothing if there is none. -/
def comparisonText : Option (Operator × Primary) → String
  | none => ""
  | some (operator, value) => " " ++ operator.queryText ++ " " ++ value.text

mutual

/-- The text of a predicate. -/
def Expr.text : Expr → String
  | .single left => left.text
  | .chain left right => left.text ++ " and " ++ right.text

/-- The text of a chain of alternatives. -/
def OrExpr.text : OrExpr → String
  | .single left => left.text
  | .chain left right => left.text ++ " or " ++ right.text

/-- The text of a step, group or test. -/
def EqualityExpr.text : EqualityExpr → String
  | .subartifacts set => set.text
  | .grouped expr => "(" ++ expr.text ++ ")"
  | .test subject comparison => subject.text ++ comparisonText comparison

/-- The text of the subject of a test. -/
def Subject.text : Subject → String
  | .property name => propertyText name
  | .call call => call.text
  | .primary primary => primary.text

/-- The text of a function call. -/
def FunctionCall.text : FunctionCall → String
  | .mk name arguments => name.functionText ++ "(" ++ Argument.listText arguments ++ ")"

/-- The text of an argument. -/
def Argument.text : Argument → String
  | .primary primary => primary.text
  | .expr expr => expr.text

/-- The text of arguments, with commas between them. -/
def Argument.listText : List Argument → String
  | [] => ""
  | [argument] => argument.text
  | argument :: next :: rest => argument.text ++ ", " ++ Argument.listText (next :: rest)

/-- The text of a step. -/
def SubartifactSet.text : SubartifactSet → String
  | .call call => call.text
  | .relationship relationshipType none none => relationshipType
  | .relationship relationshipType (some predicate) none =>
      relationshipType ++ "[" ++ predicate.text ++ "]"
  | .relationship relationshipType none (some next) => relationshipType ++ "/" ++ next.text
  | .relationship relationshipType (some predicate) (some next) =>
      relationshipType ++ "[" ++ predicate.text ++ "]" ++ "/" ++ next.text

end

/-- The text of a query. -/
def text (query : Query) : String :=
  query.path.text
    ++ (match query.predicate with
      | none => ""
      | some predicate => "[" ++ predicate.text ++ "]")
    ++ (match query.subartifacts with
      | none => ""
      | some set => "/" ++ set.text)

end Sramp.Query
