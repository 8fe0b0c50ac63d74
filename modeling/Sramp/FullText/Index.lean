import Sramp.FullText.Pattern
import Sramp.Text.Blank
import Sramp.Text.Escaped

/-!
# A full-text index

The searchable texts of artifacts by field.  Artifacts keep the order in which
they were first indexed; indexing a field again replaces its text.
-/

namespace Sramp

/-- Why a search fails. -/
inductive SearchError where
  | blankPattern (pattern : String)
  | unavailable (reason : String)
  deriving DecidableEq, Repr

namespace SearchError

/-- The name of the kind of an error. -/
def kindName : SearchError → String
  | .blankPattern _ => "InvalidPattern"
  | .unavailable _ => "Backend"

/-- The wording of an error. -/
def message : SearchError → String
  | .blankPattern pattern =>
      "invalid full-text pattern " ++ Text.escaped pattern ++ ": empty pattern"
  | .unavailable reason => "full-text index failure: " ++ reason

end SearchError

namespace FullText

/-- Replaces the value of a key, or adds it at the end. -/
def put (key : String) {α : Type} (change : Option α → α) :
    List (String × α) → List (String × α)
  | [] => [(key, change none)]
  | (name, value) :: rest =>
      if name = key then (name, change (some value)) :: rest
      else (name, value) :: put key change rest

/-- The texts of each artifact by field. -/
structure Index where
  documents : List (String × List (String × String))
  deriving DecidableEq, Repr

namespace Index

/-- The index without artifacts. -/
def empty : Index :=
  ⟨[]⟩

/-- Gives a field of an artifact its text. -/
def add (index : Index) (id field text : String) : Index :=
  ⟨put id (fun fields => put field (fun _ => text) (fields.getD [])) index.documents⟩

/-- Whether some text of an artifact, in one of the fields if any are named,
matches a pattern. -/
def isHit (variants : CaseVariants) (pattern : Text.Wildcard) (fields : List String)
    (texts : List (String × String)) : Bool :=
  texts.any fun (field, text) =>
    (fields.isEmpty || fields.contains field) && matches? variants pattern text.toList

/-- The artifacts that match a pattern up to case, in the order of the index. -/
def searchUpTo (variants : CaseVariants) (index : Index) (pattern : String)
    (fields : List String) : Except SearchError (List String) :=
  if Text.isBlankText pattern then .error (.blankPattern pattern)
  else
    let wildcard := Text.Wildcard.ofString pattern
    .ok ((index.documents.filter fun (_, texts) =>
      isHit variants wildcard fields texts).map (·.1))

end Index

end FullText

end Sramp
