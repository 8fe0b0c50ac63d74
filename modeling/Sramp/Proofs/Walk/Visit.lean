import Sramp.Proofs.Walk.Frame

/-!
# Visiting expressions

One visiting function for each kind of expression.  A visit of an expression with a right
side opens a frame, visits both sides in it and connects what the frame has collected; a test
leaves its subject in the frame until its value is known.  That a frame has collected
something, that a test has a subject, and that `not` has a single constraint to negate is
checked where it is needed.
-/

namespace Sramp.Compile

open Query

/-- What a visit of a function call leaves behind: a constraint among those collected, or a
subject that the enclosing test has to finish. -/
inductive Finish where
  | constraint
  | subject
  deriving DecidableEq, Repr

namespace Visit

/-- Makes a constraint of the subject at hand, and of the value if there is an operator. -/
def finishTest (operator : Option Operator) (fragment : String) : Visit Unit := do
  let frame ← top
  change (·.update Frame.settled)
  match frame.tested, operator, frame.value with
  | none, _, _ => reject .nothingTested fragment
  | some tested, some operator, some value => collect [tested.compare operator value]
  | some tested, _, _ => collect [tested.exists?]

/-- Finishes a test after its subject. -/
def finishComparison (env : Environment) (fragment : String) :
    Option (Operator × Primary) → Visit Unit
  | none => finishTest none fragment
  | some (operator, right) => do
      let frame ← top
      let value ← allocate
        (answer (Value.coerce (frame.tested.map Tested.property) right env.dateFormat))
      change (·.update fun frame => { frame with value := some value })
      finishTest (some operator) fragment

/-- `@name` as the subject of a test. -/
def property (name : QName) : Visit Unit := do
  let frame ← top
  let tested ← allocate (testedProperty frame.scope name)
  leave tested

/-- A classification function. -/
def classification (env : Environment) (any normalized : Bool) (call : FunctionCall) :
    Visit Finish := do
  let frame ← top
  let constraint ← allocate (classificationTest env frame.scope any normalized call)
  collect [constraint]
  return .constraint

/-- An attribute of the edge of the enclosing traversal as the subject of a test. -/
def edgeAttribute (part : EdgePart) (call : FunctionCall) : Visit Finish :=
  match call.arguments with
  | [_, key] => do
      let key ← allocate (literalArgument key)
      let frame ← top
      match frame.part part with
      | some node => do
          let found ← allocate (probe node part.attributeKind key)
          leave (.entries found)
          return .subject
      | none => reject (.noEdge call.name.localName) call.text
  | arguments =>
      reject (.argumentCount call.name.localName 2 arguments.length) call.text

/-- The hits of a full-text search.  Without a group of hits nothing is added. -/
def fullText (env : Environment) (pattern : String) : Visit Unit := do
  let ids ← allocate
    (answer ((env.services.search pattern env.settings.fullTextFields).mapError .fullText))
  let frame ← top
  match Constraint.any (hitTests frame.scope env.settings.chunkSize ids) with
  | some group => collect [group]
  | none => return

/-- `matches` on a property or on the full text. -/
def matching (env : Environment) (call : FunctionCall) : Visit Finish :=
  match call.arguments with
  | [subject, pattern] => do
      let pattern ← allocate (literalArgument pattern)
      if isContextItem subject then
        fullText env pattern
        return .constraint
      else
        let name ← allocate (propertyArgument subject)
        property name
        change (·.update fun frame =>
          { frame with value := some (.string (likePattern pattern)) })
        finishTest (some .like) call.text
        return .constraint
  | arguments =>
      reject (.argumentCount "matches" 2 arguments.length) call.text

/-- Adds the connection of some constraints, of which there has to be one. -/
def combine (join : List Constraint → Option Constraint) (fragment : String)
    (collected : List Constraint) : Visit Unit :=
  match join collected with
  | some combined => collect [combined]
  | none => reject .noConstraint fragment

/-- Visits both sides of a connective in a frame of their own and connects what they have
added there. -/
def connected (join : List Constraint → Option Constraint) (fragment : String)
    (left right : Visit Unit) : Visit Unit := do
  change Walk.isolated
  left
  right
  combine join fragment (← pop)

/-- Visits an expression in a frame of its own and negates the one constraint it has added
there. -/
def negated (fragment : String) (inner : Visit Unit) : Visit Finish := do
  change Walk.isolated
  inner
  let collected ← pop
  match collected with
  | [only] => do
      collect [.not only]
      return .constraint
  | _ => reject .notOneConstraint fragment

/-- Visits the predicate of a step, if there is one, in the frame of the artifacts that the
step leads to, and gives what it has added there. -/
def inside (scope : Scope) : Option (Visit Unit) → Visit (List Constraint)
  | none => return []
  | some predicate => do
      change (·.push (.ofScope scope))
      predicate
      pop

/-- A step to the documents that the artifact was derived from. -/
def documents (predicate : Option (Visit Unit)) : Visit Unit := do
  let frame ← top
  let document ← allocate (fresh .artifact)
  let collected ← inside ⟨document, none⟩ predicate
  let owner ← allocate (fresh .artifact)
  collect [.ofSubquery ⟨documentsOf document owner frame.artifact, Constraint.all collected⟩]

/-- A step along relationships.  The artifacts they lead to take part only if there is a
predicate on them. -/
def relationships (relationshipType : String) (predicate : Option (Visit Unit)) :
    Visit Unit := do
  let frame ← top
  let relationship ← allocate (fresh .relationship)
  let (source, collected) ←
    if predicate.isNone then
      pure (Source.single relationship, [])
    else do
      let target ← allocate (fresh .target)
      let far ← allocate (fresh .artifact)
      let edge : Edge := ⟨relationship, target⟩
      let collected ← inside ⟨far, some edge⟩ predicate
      pure (joinFar (.single relationship) edge far, collected)
  let owner ← allocate (fresh .artifact)
  collect [.ofSubquery ⟨ownedBy source relationship owner frame.artifact,
    Constraint.all (typeTest relationship relationshipType :: collected)⟩]

/-- A step of either kind. -/
def across (env : Environment) (relationshipType : String) (predicate : Option (Visit Unit)) :
    Visit Unit :=
  if env.settings.isDerived relationshipType then documents predicate
  else relationships relationshipType predicate

/-- A step, with the steps around the place reached counted. -/
def step (env : Environment) (relationshipType : String) (predicate : Option (Visit Unit)) :
    Visit Unit := do
  change fun walk => { walk with depth := walk.depth + 1 }
  across env relationshipType predicate
  change fun walk => { walk with depth := walk.depth - 1 }

end Visit

end Sramp.Compile

namespace Sramp.Query

open Compile

mutual

/-- Visits a predicate. -/
def Expr.visit (env : Environment) : Expr → Visit Unit
  | .single left => left.visit env
  | .chain left right =>
      Visit.connected Constraint.all (Expr.chain left right).text (left.visit env)
        (right.visit env)

/-- Visits a chain of alternatives. -/
def OrExpr.visit (env : Environment) : OrExpr → Visit Unit
  | .single left => left.visit env
  | .chain left right =>
      Visit.connected Constraint.any (OrExpr.chain left right).text (left.visit env)
        (right.visit env)

/-- Visits a step, group or test. -/
def EqualityExpr.visit (env : Environment) : EqualityExpr → Visit Unit
  | .subartifacts set => set.visit env
  | .grouped expr => expr.visit env
  | .test (.property name) comparison => do
      Visit.property name
      Visit.finishComparison env (EqualityExpr.test (.property name) comparison).text comparison
  | .test (.call call) comparison => do
      let fragment := (EqualityExpr.test (.call call) comparison).text
      match ← call.visit env, comparison with
      | .subject, comparison => Visit.finishComparison env fragment comparison
      | .constraint, none => return
      | .constraint, some _ => Visit.reject (.comparedFunction call.name.localName) fragment
  | .test (.primary primary) comparison =>
      Visit.reject .untestable (EqualityExpr.test (.primary primary) comparison).text

/-- Visits a function call. -/
def FunctionCall.visit (env : Environment) : FunctionCall → Visit Finish
  | .mk name arguments =>
      let call := FunctionCall.mk name arguments
      match Function.ofName name with
      | .error cause => Visit.reject cause call.text
      | .ok (.classifiedBy any normalized) => Visit.classification env any normalized call
      | .ok (.attributeOf part) => Visit.edgeAttribute part call
      | .ok .matching => Visit.matching env call
      | .ok .negation =>
          match arguments with
          | [.expr expr] => Visit.negated call.text (expr.visit env)
          | [.primary _] => Visit.reject .expressionExpected call.text
          | _ => Visit.reject (.argumentCount "not" 1 arguments.length) call.text

/-- Visits a step to related artifacts. -/
def SubartifactSet.visit (env : Environment) : SubartifactSet → Visit Unit
  | .call call => do
      match ← call.visit env with
      | .constraint => return
      | .subject => Visit.finishTest none call.text
  | .relationship relationshipType predicate next => do
      let walk ← get
      if walk.nested || next.isSome then
        Visit.reject .nestedTraversal
          (SubartifactSet.relationship relationshipType predicate next).text
      else
        match predicate with
        | none => Visit.step env relationshipType none
        | some predicate => Visit.step env relationshipType (some (predicate.visit env))

end

end Sramp.Query

namespace Sramp.Compile

open Query

namespace Visit

/-- Moves the outermost frame to the artifacts that a relationship leads to. -/
def traverse (env : Environment) (relationshipType : String) : Visit Unit := do
  let frame ← top
  if env.settings.isDerived relationshipType then
    let document ← allocate (fresh .artifact)
    change fun walk =>
      { walk with
        source := walk.source.joinParent document frame.artifact
        stack := walk.stack.retarget ⟨document, none⟩ }
  else
    let relationship ← allocate (fresh .relationship)
    let target ← allocate (fresh .target)
    let far ← allocate (fresh .artifact)
    let edge : Edge := ⟨relationship, target⟩
    change fun walk =>
      { walk with source := joinFar (walk.source.joinChild relationship frame.artifact) edge far }
    collect [typeTest relationship relationshipType]
    change fun walk => { walk with stack := walk.stack.retarget ⟨far, some edge⟩ }

/-- Visits a predicate if there is one. -/
def restrict (env : Environment) : Option Expr → Visit Unit
  | none => return
  | some predicate => predicate.visit env

/-- Visits the step after the artifact set. -/
def outerStep (env : Environment) : Option SubartifactSet → Visit Unit
  | none => return
  | some (.relationship relationshipType predicate none) => do
      traverse env relationshipType
      restrict env predicate
  | some (.relationship relationshipType predicate (some next)) =>
      reject .secondTraversal
        (SubartifactSet.relationship relationshipType predicate (some next)).text
  | some (.call call) => reject .functionStep (SubartifactSet.call call).text

/-- Visits a query. -/
def query (env : Environment) (query : Query) : Visit Unit := do
  let frame ← top
  collect (pathTests env frame.artifact query.path)
  restrict env query.predicate
  outerStep env query.subartifacts

end Visit

/-- The plan of a finished walk. -/
def Walk.finish (env : Environment) (walk : Walk) (order : Option OrderBy) :
    Except Error Plan := do
  let column := walk.top.artifact
  let ordering ← sortOrder column order
  let live := liveTest env.settings walk.root column
  let constraint :=
    match Constraint.all walk.stack.root.constraints with
    | some body => Constraint.and body live
    | none => live
  return ⟨walk.source, some constraint, column, ordering⟩

end Sramp.Compile

namespace Sramp.Query

open Compile

/-- The plan of a query, by a walk over it. -/
def walkedPlan (env : Environment) (query : Query) (order : Option OrderBy) :
    Except Error Plan :=
  match env.settings.fault? with
  | some fault => .error (.invalidSettings fault)
  | none => do
      let ((), walk) ← (Visit.query env query).run Walk.start
      walk.finish env order

end Sramp.Query
