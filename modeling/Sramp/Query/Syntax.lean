import Sramp.Double.Basic
import Sramp.Vocabulary

/-!
# Queries

The abstract syntax of the S-RAMP query language.  A query selects the artifacts
at a location path, narrows them by a predicate and may step from them to related
artifacts.  A predicate is a chain of conjuncts, each a chain of alternatives.
-/

namespace Sramp

namespace Query

/-- The path `/s-ramp`, `/s-ramp/model` or `/s-ramp/model/type`. -/
structure LocationPath where
  model : Option String
  artifactType : Option String
  deriving DecidableEq, Repr

/-- A value written in a query, a property reference, or the context item. -/
inductive Primary where
  | literal (text : String)
  | number (value : Double)
  | property (name : QName)
  | contextItem
  deriving DecidableEq, Repr

mutual

/-- A predicate: conjuncts joined by `and`. -/
inductive Expr where
  | single (left : OrExpr)
  | chain (left : OrExpr) (right : Expr)

/-- Alternatives joined by `or`. -/
inductive OrExpr where
  | single (left : EqualityExpr)
  | chain (left : EqualityExpr) (right : OrExpr)

/-- A step to related artifacts, a predicate in parentheses, or a test.  A test
without a comparison asks whether its subject exists. -/
inductive EqualityExpr where
  | subartifacts (set : SubartifactSet)
  | grouped (expr : Expr)
  | test (subject : Subject) (comparison : Option (Operator × Primary))

/-- What a test is about. -/
inductive Subject where
  | property (name : QName)
  | call (call : FunctionCall)
  | primary (primary : Primary)

/-- A function with its arguments. -/
inductive FunctionCall where
  | mk (name : QName) (arguments : List Argument)

/-- An argument of a function. -/
inductive Argument where
  | primary (primary : Primary)
  | expr (expr : Expr)

/-- A function step, or a relationship with a predicate on the artifacts it leads
to and a further step. -/
inductive SubartifactSet where
  | call (call : FunctionCall)
  | relationship (relationshipType : String) (predicate : Option Expr)
      (next : Option SubartifactSet)

end

namespace FunctionCall

/-- The name of the function called. -/
def name : FunctionCall → QName
  | mk name _ => name

/-- The arguments of a call. -/
def arguments : FunctionCall → List Argument
  | mk _ arguments => arguments

end FunctionCall

end Query

/-- A query: a location path, a predicate on the artifacts there, and a step away
from them. -/
structure Query where
  path : Query.LocationPath
  predicate : Option Query.Expr := none
  subartifacts : Option Query.SubartifactSet := none

end Sramp
