import Sramp.Query.Syntax

/-!
# Building queries

Constructors for the common shapes of queries.  Connecting two predicates keeps
their structure: an operand is put into parentheses wherever the grammar would
otherwise regroup it.
-/

namespace Sramp

namespace Query

namespace LocationPath

/-- The path of all artifacts. -/
def all : LocationPath :=
  ⟨none, none⟩

/-- The path of the artifacts of a model. -/
def ofModel (model : String) : LocationPath :=
  ⟨some model, none⟩

/-- The path of the artifacts of a type. -/
def ofType (model artifactType : String) : LocationPath :=
  ⟨some model, some artifactType⟩

end LocationPath

namespace FunctionCall

/-- A call of an S-RAMP function. -/
def sramp (localName : String) (arguments : List Argument) : FunctionCall :=
  mk (.sramp localName) arguments

/-- A call of an XPath function. -/
def xpath (localName : String) (arguments : List Argument) : FunctionCall :=
  mk (.xpath localName) arguments

end FunctionCall

namespace Expr

/-- The predicate that consists of one part. -/
def ofEquality (part : EqualityExpr) : Expr :=
  .single (.single part)

/-- `@name`: the property has a value. -/
def «exists» (property : String) : Expr :=
  ofEquality (.test (.property (.plain property)) none)

/-- `@name op value`. -/
def compare (property : String) (operator : Operator) (value : Primary) : Expr :=
  ofEquality (.test (.property (.plain property)) (some (operator, value)))

/-- `@name = 'text'`. -/
def equals (property text : String) : Expr :=
  compare property .eq (.literal text)

/-- A function call as a test. -/
def function (call : FunctionCall) : Expr :=
  ofEquality (.test (.call call) none)

/-- `function(…) op value`. -/
def functionCompare (call : FunctionCall) (operator : Operator) (value : Primary) : Expr :=
  ofEquality (.test (.call call) (some (operator, value)))

/-- A step to related artifacts as a test. -/
def subartifacts (set : SubartifactSet) : Expr :=
  ofEquality (.subartifacts set)

/-- `fn:not(expr)`. -/
def negate (expr : Expr) : Expr :=
  function (.xpath "not" [.expr expr])

/-- A predicate as a single conjunct. -/
def toOr : Expr → OrExpr
  | .single left => left
  | chained => .single (.grouped chained)

/-- A predicate as a single alternative. -/
def toEquality : Expr → EqualityExpr
  | .single (.single part) => part
  | chained => .grouped chained

/-- Both predicates hold. -/
def and (left right : Expr) : Expr :=
  .chain left.toOr right

/-- One of the predicates holds. -/
def or (left right : Expr) : Expr :=
  .single (.chain left.toEquality right.toOr)

end Expr

namespace Argument

/-- A string argument. -/
def literal (text : String) : Argument :=
  .primary (.literal text)

/-- The argument `.`. -/
def context : Argument :=
  .primary .contextItem

/-- The argument `@name`. -/
def property (name : String) : Argument :=
  .expr (.exists name)

end Argument

namespace SubartifactSet

/-- A step along relationships of a type. -/
def ofRelationship (relationshipType : String) : SubartifactSet :=
  .relationship relationshipType none none

/-- A relationship step with a predicate; a function step is left as it is. -/
def withPredicate (set : SubartifactSet) (predicate : Expr) : SubartifactSet :=
  match set with
  | .relationship relationshipType _ next =>
      .relationship relationshipType (some predicate) next
  | .call step => .call step

/-- A relationship step followed by another step; a function step is left as it
is. -/
def andThen (set next : SubartifactSet) : SubartifactSet :=
  match set with
  | .relationship relationshipType predicate _ =>
      .relationship relationshipType predicate (some next)
  | .call step => .call step

end SubartifactSet

end Query

namespace Query

/-- A query with a predicate. -/
def withPredicate (query : Query) (predicate : Expr) : Query :=
  { query with predicate := some predicate }

/-- A query with a step to related artifacts. -/
def withSubartifacts (query : Query) (set : SubartifactSet) : Query :=
  { query with subartifacts := some set }

end Query

end Sramp
