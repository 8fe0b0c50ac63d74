import Sramp.Text.AsciiCase
import Sramp.Text.Blank
import Sramp.Text.Escaped

/-!
# Settings of the compiler

The tunable parts of compilation, with a default for each, and the conditions
that make settings valid.
-/

namespace Sramp

/-- How queries are compiled. -/
structure Settings where
  /-- The largest number of values in one membership test. -/
  chunkSize : Nat := 1000
  /-- The format of the literals that timestamps are compared with. -/
  dateFormat : String := "%Y-%m-%d"
  /-- The relationship from an artifact to the document it was derived from. -/
  derivedRelationship : String := "relatedDocument"
  /-- The path below which all artifacts are stored that are not in the trash. -/
  artifactRoot : String := "/s-ramp"
  /-- The fields that a full-text search looks at. -/
  fullTextFields : List String :=
    ["description", "name", "comments.text", "properties.key", "properties.value"]
  deriving DecidableEq, Repr

/-- Why settings are not valid. -/
inductive SettingsFault where
  | zeroChunkSize
  | emptyDerivedRelationship
  | relativeRoot (path : String)
  deriving DecidableEq, Repr

namespace SettingsFault

/-- The wording of a fault. -/
def message : SettingsFault → String
  | .zeroChunkSize => "in_list_chunk_size must be at least 1"
  | .emptyDerivedRelationship => "derived_relationship must not be empty"
  | .relativeRoot path => "artifact_root_path must be absolute, got " ++ Text.escaped path

end SettingsFault

namespace Settings

/-- What makes settings valid. -/
structure Valid (settings : Settings) : Prop where
  chunkSize_pos : 0 < settings.chunkSize
  derived_not_blank : Text.isBlankText settings.derivedRelationship = false
  root_absolute : settings.artifactRoot.toList.head? = some '/'

/-- The first fault of some settings. -/
def fault? (settings : Settings) : Option SettingsFault :=
  if settings.chunkSize = 0 then some .zeroChunkSize
  else if Text.isBlankText settings.derivedRelationship then some .emptyDerivedRelationship
  else if settings.artifactRoot.toList.head? ≠ some '/' then
    some (.relativeRoot settings.artifactRoot)
  else none

/-- Settings have no fault exactly if they are valid. -/
theorem fault?_eq_none_iff {settings : Settings} : settings.fault? = none ↔ settings.Valid := by
  unfold fault?
  constructor
  · intro sound
    split at sound <;> try contradiction
    split at sound <;> try contradiction
    split at sound <;> try contradiction
    exact ⟨by omega, by simp_all, by simp_all⟩
  · intro ⟨chunkSize_pos, derived_not_blank, root_absolute⟩
    rw [if_neg (by omega), if_neg (by simp [derived_not_blank]), if_neg (by simp [root_absolute])]

/-- Whether a relationship leads to the document an artifact was derived from; the
case of ASCII letters does not matter. -/
def isDerived (settings : Settings) (relationshipType : String) : Bool :=
  Text.sameIgnoringCase relationshipType settings.derivedRelationship

end Settings

end Sramp
