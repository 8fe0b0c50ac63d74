import Sramp.Error
import Sramp.Json.Reading

/-!
# Configuration files

The configuration of an engine, read from JSON.  Missing sections and fields take
their defaults; a section may be written as an object, or as an array of its fields
in their order.
-/

namespace Sramp

/-- Why an engine cannot do what is asked: the configuration file is missing, is no
text or is malformed, or a query is at fault. -/
inductive Failure where
  | fileNotFound
  | fileNotText
  | malformedConfig
  | query (error : Error)
  deriving DecidableEq, Repr

namespace Failure

/-- The wording of a failure. -/
def message : Failure → String
  | .fileNotFound => "IO error: No such file or directory (os error 2)"
  | .fileNotText => "IO error: stream did not contain valid UTF-8"
  | .malformedConfig => "config error"
  | .query error => "query error: " ++ error.message

end Failure

namespace Json

/-- The values that a section gives for some field names.  In an object a field may
occur once, and names that are not asked for are passed over; in an array the values
stand in the order of the names. -/
def fields? (names : List String) : Json → Option (List (Option Json))
  | .array items =>
      if items.length ≤ names.length then
        some (names.zipIdx.map fun (_, index) => items[index]?)
      else none
  | .object members => do
      let named ← members.mapM fun (units, value) => do return (← decodeString units, value)
      names.mapM fun name =>
        match named.filter (·.1 == name) with
        | [] => some none
        | [(_, value)] => some (some value)
        | _ => none
  | _ => none

/-- A natural number that fits a 64-bit word. -/
def toWord? : Json → Option Nat
  | .number numeral => numeral.toNat?.filter (· < UInt64.size)
  | _ => none

/-- The text of a string. -/
def toText? : Json → Option String
  | .string units => decodeString units
  | _ => none

/-- The texts of an array of strings. -/
def toTexts? : Json → Option (List String)
  | .array items => items.mapM toText?
  | _ => none

/-- The value of a field, or its default if the field is missing. -/
def orDefault {α : Type} (read : Json → Option α) (default : α) : Option Json → Option α
  | none => some default
  | some json => read json

end Json

namespace Settings

/-- The names of the fields of settings in JSON, in their order. -/
def fieldNames : List String :=
  ["in_list_chunk_size", "date_format", "derived_relationship", "artifact_root_path",
    "full_text_fields"]

/-- The settings that a JSON value describes. -/
def ofJson? (json : Json) : Option Settings := do
  let defaults : Settings := {}
  match ← json.fields? fieldNames with
  | [chunkSize, dateFormat, derivedRelationship, artifactRoot, fullTextFields] =>
      return {
        chunkSize := ← Json.orDefault Json.toWord? defaults.chunkSize chunkSize
        dateFormat := ← Json.orDefault Json.toText? defaults.dateFormat dateFormat
        derivedRelationship :=
          ← Json.orDefault Json.toText? defaults.derivedRelationship derivedRelationship
        artifactRoot := ← Json.orDefault Json.toText? defaults.artifactRoot artifactRoot
        fullTextFields := ← Json.orDefault Json.toTexts? defaults.fullTextFields fullTextFields }
  | _ => none

end Settings

/-- The configuration of an engine. -/
structure Config where
  compiler : Settings := {}
  deriving DecidableEq, Repr

namespace Config

/-- The configuration that a JSON value describes. -/
def ofJson? (json : Json) : Option Config := do
  match ← json.fields? ["compiler"] with
  | [compiler] => return ⟨← Json.orDefault Settings.ofJson? {} compiler⟩
  | _ => none

/-- The valid configuration that a text describes. -/
def ofText (text : String) : Except Failure Config :=
  match (Json.read? text).bind ofJson? with
  | none => .error .malformedConfig
  | some config =>
      match config.compiler.fault? with
      | some fault => .error (.query (.invalidSettings fault))
      | none => .ok config

/-- The configuration in a file, given by its bytes unless it is missing. -/
def load (file : Option ByteArray) : Except Failure Config :=
  match file with
  | none => .error .fileNotFound
  | some bytes =>
      match String.fromUTF8? bytes with
      | none => .error .fileNotText
      | some text => ofText text

/-- The configuration in a file, or the default one if the file is missing. -/
def loadOrDefault (file : Option ByteArray) : Except Failure Config :=
  match file with
  | none => .ok {}
  | some bytes => load (some bytes)

end Config

end Sramp
