import Sramp.Catalog
import Sramp.Coercion
import Sramp.Compile.Alias
import Sramp.Plan.Constraint

/-!
# Scopes

What a part of a query is compiled with: the services it may ask, how it reads
dates, the selectors its tests refer to, and the aliases given so far.
-/

namespace Sramp

/-- The services that compilation asks about classifications, artifact types and
full-text hits. -/
structure Services where
  resolveAll : List String → Except ResolveError UriSet
  artifactType : String → ArtifactType
  search : String → List String → Except SearchError (List String)

namespace Compile

/-- What stays fixed during a compilation.  A text is read as the date that it writes
in a format, or there is a reason why it writes none. -/
structure Environment where
  services : Services
  settings : Settings
  readDate : (format text : String) → Except String Calendar.Date

/-- The format in which literals are read as dates. -/
def Environment.dateFormat (env : Environment) : DateFormat :=
  ⟨env.settings.dateFormat, env.readDate env.settings.dateFormat⟩

/-- The relationship and the target by which a traversal reached an artifact. -/
structure Edge where
  relationship : Selector
  target : Selector
  deriving DecidableEq, Repr

/-- The artifact that tests refer to, and the edge that leads to it. -/
structure Scope where
  artifact : Selector
  edge : Option Edge
  deriving DecidableEq, Repr

/-- Compilation: it gives aliases and may fail. -/
abbrev Fresh := StateT Aliases (Except Error)

/-- A selector with a new alias. -/
def fresh (kind : NodeKind) : Fresh Selector := fun aliases =>
  .ok (aliases.next kind, aliases.bump (.ofKind kind))

/-- Fails with an error. -/
def refuse {α : Type} (error : Error) : Fresh α := fun _ => .error error

/-- Fails because a fragment lies outside the supported language. -/
def unsupported {α : Type} (cause : Unsupported) (fragment : String) : Fresh α :=
  refuse (.unsupported cause fragment)

/-- The answer of a service or rule that gives no aliases. -/
def answer {α : Type} (result : Except Error α) : Fresh α := fun aliases =>
  result.map fun value => (value, aliases)

/-- An existence test over the entries of a node.  The entry is joined to `owner`,
a new alias for the node; so the test stands on its own and may be negated. -/
structure Probe where
  outer : Selector
  owner : Selector
  entry : Selector
  key : String
  deriving DecidableEq, Repr

namespace Probe

/-- The entries of the node. -/
def rows (probe : Probe) : Correlation where
  source := (Source.single probe.owner).joinChild probe.entry probe.owner
  correlated := probe.owner.operand .id
  outer := probe.outer.operand .id

/-- The entry has the key looked for. -/
def keyTest (probe : Probe) : Constraint :=
  .equals probe.entry .entryKey (.string probe.key)

/-- Some entry has the key. -/
def exists? (probe : Probe) : Constraint :=
  .existsRowWith probe.rows probe.keyTest

/-- Some entry has the key and a value that compares as asked. -/
def compare (probe : Probe) (operator : Operator) (value : Value) : Constraint :=
  .existsRowWith probe.rows
    (.and probe.keyTest (.comparison (probe.entry.operand .entryValue) operator value))

end Probe

/-- What a test is about: a property of a node, or entries of a node. -/
inductive Tested where
  | direct (operand : Operand)
  | entries (probe : Probe)
  deriving DecidableEq, Repr

namespace Tested

/-- The property that decides the type of a value compared with. -/
def property : Tested → Property
  | .direct operand => operand.property
  | .entries _ => .entryValue

/-- What is tested exists. -/
def exists? : Tested → Constraint
  | .direct operand => .present operand
  | .entries probe => probe.exists?

/-- What is tested compares with a value as asked. -/
def compare (tested : Tested) (operator : Operator) (value : Value) : Constraint :=
  match tested with
  | .direct operand => .comparison operand operator value
  | .entries probe => probe.compare operator value

end Tested

/-- A probe for a key among the entries of a node. -/
def probe (outer : Selector) (kind : NodeKind) (key : String) : Fresh Probe := do
  let owner ← fresh outer.kind
  let entry ← fresh kind
  return ⟨outer, owner, entry, key⟩

end Compile

end Sramp
