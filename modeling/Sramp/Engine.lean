import Sramp.Calendar.Reading
import Sramp.Compile.Plan
import Sramp.Config
import Sramp.Hierarchical.Backend
import Sramp.Plan.Outline
import Sramp.Relational.Backend
import Sramp.Text.CaseFold

/-!
# Engines

An engine owns the services and the configuration that queries are compiled with.
Every compilation is independent of the others.  Here is settled what compilation
and search leave open: dates are read by the calendar, and full texts are searched up
to simple case folding.
-/

namespace Sramp

/-- The date that a text writes in a format, or the wording of the fault. -/
def Calendar.Date.readText (format text : String) : Except String Date :=
  (read format text).mapError Fault.message

/-- A format as the calendar reads it. -/
def DateFormat.ofText (format : String) : DateFormat :=
  ⟨format, Calendar.Date.readText format⟩

/-- Outside of compilations a literal is coerced in a format that is given as a text. -/
instance : Coe String DateFormat :=
  ⟨.ofText⟩

namespace FullText

/-- The case variants of simple case folding. -/
def CaseVariants.folded : CaseVariants :=
  ⟨Text.sameFolded, Text.equivalence_sameFolded⟩

/-- The artifacts that match a pattern up to simple case folding. -/
def Index.search : Index → String → List String → Except SearchError (List String) :=
  searchUpTo .folded

end FullText

namespace Settings

/-- A list of texts in brackets, each between double quotes. -/
def debugList (texts : List String) : String :=
  "[" ++ ", ".intercalate (texts.map Text.escaped) ++ "]"

/-- The text that shows settings in full. -/
def debugText (settings : Settings) : String :=
  "CompilerConfig \x7b in_list_chunk_size: " ++ toString settings.chunkSize
    ++ ", date_format: " ++ Text.escaped settings.dateFormat
    ++ ", derived_relationship: " ++ Text.escaped settings.derivedRelationship
    ++ ", artifact_root_path: " ++ Text.escaped settings.artifactRoot
    ++ ", full_text_fields: " ++ debugList settings.fullTextFields ++ " \x7d"

end Settings

/-- Services and a configuration. -/
structure Engine where
  services : Services
  config : Config

namespace Engine

/-- What queries of an engine are compiled with. -/
def environment (engine : Engine) : Compile.Environment :=
  ⟨engine.services, engine.config.compiler, Calendar.Date.readText⟩

/-- The plan of a query. -/
def plan (engine : Engine) (query : Query) (order : Option OrderBy) : Except Failure Plan :=
  (query.plan engine.environment order).mapError .query

/-- The statement of a query for the relational store, whose live artifacts are those
below the configured root. -/
def relational (engine : Engine) (query : Query) (order : Option OrderBy) :
    Except Failure Relational.Statement := do
  let plan ← engine.plan query order
  (Relational.realize engine.config.compiler.artifactRoot plan 0).1.mapError .query

/-- The statement of a query for the hierarchical store. -/
def hierarchical (engine : Engine) (query : Query) (order : Option OrderBy) :
    Except Failure Hierarchical.Statement := do
  let plan ← engine.plan query order
  (Hierarchical.realize plan).mapError .query

/-- The outline of the plan of a query. -/
def explain (engine : Engine) (query : Query) : Except Failure String := do
  return (← engine.plan query none).explain

/-- The text that shows the configuration of an engine. -/
def debugText (engine : Engine) : String :=
  "QueryEngine \x7b config: Config \x7b compiler: " ++ engine.config.compiler.debugText
    ++ " \x7d, .. \x7d"

end Engine

end Sramp
