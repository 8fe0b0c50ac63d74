import Sramp.Text.Escaped
import Sramp.UriSet

/-!
# Ontologies

Classes arranged below parent classes, and the terms that name them.  The URI of
a class is the base of its ontology, a hash and the class's identifier.  A term is
such a URI, or an identifier alone, with or without a hash in front; an identifier
alone must belong to exactly one ontology.
-/

namespace Sramp

/-- Why a term does not name a class. -/
inductive ResolveError where
  | unknown (term : String)
  | ambiguous (term : String) (candidates : List String)
  | unavailable (reason : String)
  deriving DecidableEq, Repr

namespace ResolveError

/-- The name of the kind of an error. -/
def kindName : ResolveError → String
  | .unknown _ => "Unknown"
  | .ambiguous .. => "Ambiguous"
  | .unavailable _ => "Backend"

/-- A candidate in a message. -/
def candidateText (uri : String) : String :=
  "ClassificationUri(" ++ Text.escaped uri ++ ")"

/-- The wording of an error. -/
def message : ResolveError → String
  | .unknown term => "unknown classification: " ++ term
  | .ambiguous term candidates =>
      "ambiguous classification " ++ term ++ ": matches ["
        ++ ", ".intercalate (candidates.map candidateText) ++ "]"
  | .unavailable reason => "classification backend failure: " ++ reason

end ResolveError

/-- The classes of an ontology with their parents.  Of two entries for a class the
first one counts. -/
abbrev Classes := List (String × Option String)

namespace Classes

/-- The classes other than a given one. -/
def without (classes : Classes) (id : String) : Classes :=
  classes.filter fun entry => entry.1 != id

theorem length_without_lt {classes : Classes} {id : String} {parent : Option String}
    (found : classes.lookup id = some parent) :
    (classes.without id).length < classes.length := by
  refine List.length_filter_lt_length_iff_exists.mpr ?_
  obtain ⟨before, after, rfl, _⟩ := List.lookup_eq_some_iff.mp found
  exact ⟨(id, parent), by simp, by simp⟩

/-- The ancestors of a class, itself first.  A class that was visited is taken
out, so the walk ends where a chain of parents runs into itself; a parent that is
not declared ends it too. -/
def lineage (classes : Classes) (id : String) : List String :=
  match _found : classes.lookup id with
  | some (some parent) => id :: lineage (classes.without id) parent
  | _ => [id]
termination_by classes.length
decreasing_by exact length_without_lt _found

end Classes

/-- A classification scheme. -/
structure Ontology where
  base : String
  classes : Classes
  deriving DecidableEq, Repr

namespace Ontology

/-- An ontology without classes. -/
def ofBase (base : String) : Ontology :=
  ⟨base, []⟩

/-- Declares a class below a parent, or at the top; an earlier declaration of the
class is replaced. -/
def withClass (ontology : Ontology) (id : String) (parent : Option String) : Ontology :=
  { ontology with classes := (id, parent) :: ontology.classes }

/-- The URI of a class. -/
def uri (ontology : Ontology) (id : String) : String :=
  ontology.base ++ "#" ++ id

/-- Whether an ontology declares a class. -/
def declares (ontology : Ontology) (id : String) : Bool :=
  (ontology.classes.lookup id).isSome

/-- A class and all its ancestors. -/
def ancestors (ontology : Ontology) (id : String) : UriSet :=
  .ofList ((ontology.classes.lineage id).map ontology.uri)

end Ontology

/-- How a term names a class. -/
inductive Term where
  | qualified (base id : String)
  | bare (id : String)
  deriving DecidableEq, Repr

namespace Term

/-- The parts of a text before and after its last hash. -/
def splitLastHash (chars : List Char) : Option (List Char × List Char) :=
  let reversed := chars.reverse
  match reversed.dropWhile (· != '#') with
  | [] => none
  | _ :: before => some (before.reverse, (reversed.takeWhile (· != '#')).reverse)

/-- A text with something before its last hash names a class of the ontology with
that base; any other names a class by identifier, after a hash or without one. -/
def ofString (text : String) : Term :=
  match splitLastHash text.toList with
  | some (c :: base, id) => .qualified (String.ofList (c :: base)) (String.ofList id)
  | some ([], id) => .bare (String.ofList id)
  | none => .bare text

end Term

/-- Ontologies in the order in which they were added. -/
abbrev Ontologies := List Ontology

namespace Ontologies

/-- Adds an ontology after the others. -/
def add (ontologies : Ontologies) (ontology : Ontology) : Ontologies :=
  ontologies ++ [ontology]

/-- The ontology and the identifier of the class that a term names. -/
def locate (ontologies : Ontologies) (term : String) :
    Except ResolveError (Ontology × String) :=
  match Term.ofString term with
  | .qualified base id =>
      match ontologies.find? fun ontology => ontology.base == base && ontology.declares id with
      | some ontology => .ok (ontology, id)
      | none => .error (.unknown term)
  | .bare id =>
      match ontologies.filter (·.declares id) with
      | [] => .error (.unknown term)
      | [ontology] => .ok (ontology, id)
      | many => .error (.ambiguous term (many.map (·.uri id)))

/-- The URI of the class that a term names. -/
def resolve (ontologies : Ontologies) (term : String) : Except ResolveError String := do
  let (ontology, id) ← ontologies.locate term
  return ontology.uri id

/-- The class that a term names and all its ancestors: the normalized
classifications of an artifact with that class. -/
def normalize (ontologies : Ontologies) (term : String) : Except ResolveError UriSet := do
  let (ontology, id) ← ontologies.locate term
  return ontology.ancestors id

end Ontologies

/-- Resolves every term by itself, and fails as the first that does not resolve. -/
def UriSet.resolveEach (resolve : String → Except ResolveError String) (terms : List String) :
    Except ResolveError UriSet := do
  return .ofList (← terms.mapM resolve)

end Sramp
