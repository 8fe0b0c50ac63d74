import Sramp.Compile.Test

/-!
# Predicates

Each part of a predicate stands for exactly one constraint.  A step to related
artifacts stands for an existence test over the relationships of the artifact;
its predicate is compiled in the scope of the artifacts it leads to, and holds no
further step.
-/

namespace Sramp.Compile

/-- What a function call stands for: a constraint, or entries of a node that may
still be compared with a value. -/
inductive Outcome where
  | settled (constraint : Constraint)
  | entries (probe : Probe)
  deriving DecidableEq

namespace Outcome

/-- The constraint of a call that is not compared with a value. -/
def constraint : Outcome → Constraint
  | .settled constraint => constraint
  | .entries probe => probe.exists?

end Outcome

/-- The type of a relationship. -/
def typeTest (relationship : Selector) (relationshipType : String) : Constraint :=
  .equals relationship .relationshipType (.string relationshipType)

/-- The targets of relationships, and the artifacts that these point at. -/
def joinFar (source : Source) (edge : Edge) (far : Selector) : Source :=
  (source.joinChild edge.target edge.relationship).joinEqual far
    (edge.target.operand .targetArtifact) (far.operand .id)

/-- The rows of a source with an owner beneath which `child` is stored; the owner
is the artifact outside. -/
def ownedBy (source : Source) (child owner outer : Selector) : Correlation where
  source := source.joinParent owner child
  correlated := owner.operand .id
  outer := outer.operand .id

/-- The documents beneath which an artifact is stored; that artifact, under a new
alias, is the one outside. -/
def documentsOf (document owner outer : Selector) : Correlation where
  source := (Source.single document).join owner .inner (.child owner document)
  correlated := owner.operand .id
  outer := outer.operand .id

@[simp] theorem selectors_joinFar (source : Source) (edge : Edge) (far : Selector) :
    (joinFar source edge far).selectors = source.selectors ++ [edge.target] ++ [far] := rfl

@[simp] theorem selectors_ownedBy (source : Source) (child owner outer : Selector) :
    (ownedBy source child owner outer).source.selectors = source.selectors ++ [owner] := rfl

@[simp] theorem selectors_documentsOf (document owner outer : Selector) :
    (documentsOf document owner outer).source.selectors = [document, owner] := rfl

end Sramp.Compile

namespace Sramp.Query

open Compile

mutual

/-- The constraint of a predicate. -/
def Expr.constraint (env : Environment) (scope : Scope) (nested : Bool) :
    Expr → Fresh Constraint
  | .single left => left.constraint env scope nested
  | .chain left right => do
      let left ← left.constraint env scope nested
      let right ← right.constraint env scope nested
      return .and left right

/-- The constraint of a chain of alternatives. -/
def OrExpr.constraint (env : Environment) (scope : Scope) (nested : Bool) :
    OrExpr → Fresh Constraint
  | .single left => left.constraint env scope nested
  | .chain left right => do
      let left ← left.constraint env scope nested
      let right ← right.constraint env scope nested
      return .or left right

/-- The constraint of a step, group or test.  Of the function calls, only those
that look up entries may be compared with a value. -/
def EqualityExpr.constraint (env : Environment) (scope : Scope) (nested : Bool) :
    EqualityExpr → Fresh Constraint
  | .subartifacts set => set.constraint env scope nested
  | .grouped expr => expr.constraint env scope nested
  | .test (.property name) comparison => do
      let tested ← testedProperty scope name
      testConstraint env tested comparison
  | .test (.call call) comparison => do
      match ← call.outcome env scope nested, comparison with
      | .entries probe, comparison => testConstraint env (.entries probe) comparison
      | .settled constraint, none => return constraint
      | .settled _, some comparison =>
          unsupported (.comparedFunction call.name.localName)
            (EqualityExpr.test (.call call) (some comparison)).text
  | .test (.primary primary) comparison =>
      unsupported .untestable (EqualityExpr.test (.primary primary) comparison).text

/-- What a function call stands for. -/
def FunctionCall.outcome (env : Environment) (scope : Scope) (nested : Bool) :
    FunctionCall → Fresh Outcome
  | .mk name arguments =>
      let call := FunctionCall.mk name arguments
      match Function.ofName name with
      | .error cause => unsupported cause call.text
      | .ok (.classifiedBy any normalized) => do
          return .settled (← classificationTest env scope any normalized call)
      | .ok (.attributeOf part) => do return .entries (← attributeProbe scope part call)
      | .ok .matching => do return .settled (← matchTest env scope call)
      | .ok .negation =>
          match arguments with
          | [.expr expr] => do
              return .settled (.not (← expr.constraint env scope nested))
          | [.primary _] => unsupported .expressionExpected call.text
          | _ => unsupported (.argumentCount "not" 1 arguments.length) call.text

/-- The constraint of a step to related artifacts. -/
def SubartifactSet.constraint (env : Environment) (scope : Scope) (nested : Bool) :
    SubartifactSet → Fresh Constraint
  | .call call => do return (← call.outcome env scope nested).constraint
  | .relationship relationshipType predicate next =>
      if nested || next.isSome then
        unsupported .nestedTraversal
          (SubartifactSet.relationship relationshipType predicate next).text
      else if env.settings.isDerived relationshipType then
        match predicate with
        | none => do
            let document ← fresh .artifact
            let owner ← fresh .artifact
            return .existsRow (documentsOf document owner scope.artifact)
        | some predicate => do
            let document ← fresh .artifact
            let condition ← predicate.constraint env ⟨document, none⟩ true
            let owner ← fresh .artifact
            return .existsRowWith (documentsOf document owner scope.artifact) condition
      else
        match predicate with
        | none => do
            let relationship ← fresh .relationship
            let owner ← fresh .artifact
            return .existsRowWith
              (ownedBy (.single relationship) relationship owner scope.artifact)
              (typeTest relationship relationshipType)
        | some predicate => do
            let relationship ← fresh .relationship
            let target ← fresh .target
            let far ← fresh .artifact
            let edge : Edge := ⟨relationship, target⟩
            let condition ← predicate.constraint env ⟨far, some edge⟩ true
            let owner ← fresh .artifact
            return .existsRowWith
              (ownedBy (joinFar (.single relationship) edge far) relationship owner
                scope.artifact)
              (.and (typeTest relationship relationshipType) condition)

end

end Sramp.Query
