import Sramp.Compile.Predicate

/-!
# Plans of queries

Compiles a whole query: the location path and the predicate restrict the root, a
step after them moves the result to the artifacts it leads to, and neither the
root nor the result may lie in the trash.
-/

namespace Sramp

/-- A request to order the results by a property, such as `name` or
`s-ramp:lastModifiedTimestamp`. -/
structure OrderBy where
  property : String
  ascending : Bool := true
  deriving DecidableEq, Repr

namespace OrderBy

/-- The core property that a name denotes.  White space around it and marks `@` in
front are ignored, and of labels only `s-ramp` is known. -/
def resolve (order : OrderBy) : Except Error CoreProperty :=
  let chars := (Text.trim order.property).toList.dropWhile (· == '@')
  let name := String.ofList chars
  let label := chars.takeWhile (· != ':')
  let found (localName : String) : Except Error CoreProperty :=
    match CoreProperty.ofLocalName? localName with
    | some property => .ok property
    | none => .error (.unknownOrder name)
  match chars.dropWhile (· != ':') with
  | [] => found name
  | _ :: rest =>
      if String.ofList label = "s-ramp" then found (String.ofList rest)
      else .error (.foreignOrder name)

end OrderBy

namespace Compile

open Query

/-- The constraints of a location path.  A type that users have defined is an
extended type of the extended model. -/
def pathTests (env : Environment) (root : Selector) (path : LocationPath) : List Constraint :=
  match path.artifactType, path.model with
  | some artifactType, model =>
      if !(env.services.artifactType artifactType).builtin || model == some extendedModel then
        [.equals root .artifactModel (.string extendedModel),
          .equals root (.core .extendedType) (.string artifactType)]
      else [.equals root .artifactType (.string artifactType)]
  | none, some model => [.equals root .artifactModel (.string model)]
  | none, none => []

/-- The outermost level of a plan while it is built. -/
structure Level where
  source : Source
  scope : Scope
  tests : List Constraint
  deriving DecidableEq

namespace Level

/-- The level that ranges over all artifacts. -/
def ofRoot (root : Selector) : Level :=
  ⟨.single root, ⟨root, none⟩, []⟩

/-- A level with more constraints. -/
def add (level : Level) (tests : List Constraint) : Level :=
  { level with tests := level.tests ++ tests }

end Level

/-- Adds a predicate on the artifact of a level. -/
def restrict (env : Environment) (level : Level) : Option Expr → Fresh Level
  | none => return level
  | some predicate => do
      return level.add [← predicate.constraint env level.scope false]

/-- Moves a level to the artifacts that a relationship leads to. -/
def traverse (env : Environment) (level : Level) (relationshipType : String) : Fresh Level := do
  let start := level.scope.artifact
  if env.settings.isDerived relationshipType then
    let document ← fresh .artifact
    return { level with
      source := level.source.joinParent document start
      scope := ⟨document, none⟩ }
  else
    let relationship ← fresh .relationship
    let target ← fresh .target
    let far ← fresh .artifact
    let edge : Edge := ⟨relationship, target⟩
    return {
      source := joinFar (level.source.joinChild relationship start) edge far
      scope := ⟨far, some edge⟩
      tests := level.tests ++ [typeTest relationship relationshipType] }

/-- Adds the step after the artifact set: a single relationship with a predicate on
the artifacts it leads to. -/
def step (env : Environment) (level : Level) : Option SubartifactSet → Fresh Level
  | none => return level
  | some (.relationship relationshipType predicate none) => do
      restrict env (← traverse env level relationshipType) predicate
  | some (.relationship relationshipType predicate (some next)) =>
      unsupported .secondTraversal
        (SubartifactSet.relationship relationshipType predicate (some next)).text
  | some (.call call) => unsupported .functionStep (SubartifactSet.call call).text

/-- The outermost level of a query whose artifacts are bound to `root`. -/
def level (env : Environment) (root : Selector) (query : Query) : Fresh Level := do
  let start := (Level.ofRoot root).add (pathTests env root query.path)
  step env (← restrict env start query.predicate) query.subartifacts

/-- Neither the root nor the result lies in the trash. -/
def liveTest (settings : Settings) (root column : Selector) : Constraint :=
  let live (selector : Selector) := Constraint.descendant selector settings.artifactRoot
  if column = root then live root else .and (live root) (live column)

/-- The plan of a finished level. -/
def Level.plan (settings : Settings) (root : Selector) (level : Level)
    (ordering : Option SortOrder) : Plan where
  source := level.source
  constraint :=
    match Constraint.all level.tests with
    | some body => some (.and body (liveTest settings root level.scope.artifact))
    | none => some (liveTest settings root level.scope.artifact)
  column := level.scope.artifact
  ordering := ordering

/-- The ordering of the results in a column. -/
def sortOrder (column : Selector) : Option OrderBy → Except Error (Option SortOrder)
  | none => .ok none
  | some order => do
      let property ← order.resolve
      return some ⟨column.operand (.core property), order.ascending⟩

end Compile

namespace Query

open Compile

/-- The plan of a query. -/
def plan (env : Environment) (query : Query) (order : Option OrderBy) : Except Error Plan :=
  match env.settings.fault? with
  | some fault => .error (.invalidSettings fault)
  | none => do
      let (root, aliases) := (Aliases.next {} .artifact, Aliases.bump {} .artifact)
      let (level, _) ← (level env root query).run aliases
      let ordering ← sortOrder level.scope.artifact order
      return level.plan env.settings root ordering

end Query

end Sramp
