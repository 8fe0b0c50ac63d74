import Sramp.Json.Value

/-!
# Reading JSON

Reads a text as JSON by the letter of its grammar: no byte order mark, no comments,
no trailing commas, no control characters in strings, and nothing but white space
around the value.
-/

namespace Sramp.Json

/-- Whether a character is white space of JSON. -/
def isSpace (c : Char) : Bool :=
  c == ' ' || c == '\n' || c == '\r' || c == '\t'

/-- A text without the white space in front. -/
def skipSpace (text : List Char) : List Char :=
  text.dropWhile isSpace

/-- The rest of a text after some characters. -/
def after? (chars text : List Char) : Option (List Char) :=
  if chars.isPrefixOf text then some (text.drop chars.length) else none

/-- The value of a hexadecimal digit. -/
def hexValue? (c : Char) : Option Nat :=
  if '0' ≤ c ∧ c ≤ '9' then some (c.toNat - '0'.toNat)
  else if 'a' ≤ c ∧ c ≤ 'f' then some (c.toNat - 'a'.toNat + 10)
  else if 'A' ≤ c ∧ c ≤ 'F' then some (c.toNat - 'A'.toNat + 10)
  else none

/-- The code unit that four hexadecimal digits denote. -/
def hexCode? (a b c d : Char) : Option Nat := do
  return (((← hexValue? a) * 16 + (← hexValue? b)) * 16 + (← hexValue? c)) * 16 + (← hexValue? d)

/-- The character that a letter stands for after a backslash. -/
def escapeChar? : Char → Option Char
  | '\x22' => some '\x22'
  | '\\' => some '\\'
  | '/' => some '/'
  | 'b' => some '\x08'
  | 'f' => some '\x0c'
  | 'n' => some '\n'
  | 'r' => some '\r'
  | 't' => some '\t'
  | _ => none

/-- Reads the rest of a string after its opening quote; `read` holds the units read
so far, the latest first. -/
def stringRest (read : List Unit) : List Char → Option (List Unit × List Char)
  | [] => none
  | '\x22' :: rest => some (read.reverse, rest)
  | '\\' :: 'u' :: a :: b :: c :: d :: rest =>
      match hexCode? a b c d with
      | some code => stringRest (.escape code :: read) rest
      | none => none
  | '\\' :: letter :: rest =>
      match escapeChar? letter with
      | some c => stringRest (.char c :: read) rest
      | none => none
  | c :: rest => if c.toNat < 0x20 ∨ c = '\\' then none else stringRest (.char c :: read) rest

/-- Reads at least one digit. -/
def digits (text : List Char) : Option (List Char × List Char) :=
  match text.takeWhile Char.isDigit with
  | [] => none
  | read => some (read, text.dropWhile Char.isDigit)

/-- Reads the digits before the point: a zero alone, or digits that do not start
with zero. -/
def wholePart : List Char → Option (List Char × List Char)
  | '0' :: rest => if (rest.head?.map Char.isDigit).getD false then none else some (['0'], rest)
  | text => digits text

/-- Reads a point and the digits after it, if there is a point. -/
def fractionPart : List Char → Option (Option (List Char) × List Char)
  | '.' :: rest => do
      let (read, rest) ← digits rest
      return (some read, rest)
  | text => some (none, text)

/-- Reads the sign and the digits of an exponent. -/
def exponentDigits : List Char → Option ((Bool × List Char) × List Char)
  | '-' :: rest => do
      let (read, rest) ← digits rest
      return ((true, read), rest)
  | '+' :: rest => do
      let (read, rest) ← digits rest
      return ((false, read), rest)
  | text => do
      let (read, rest) ← digits text
      return ((false, read), rest)

/-- Reads an exponent, if there is one. -/
def exponentPart : List Char → Option (Option (Bool × List Char) × List Char)
  | 'e' :: rest | 'E' :: rest => do
      let (read, rest) ← exponentDigits rest
      return (some read, rest)
  | text => some (none, text)

/-- Reads a number without its sign. -/
def unsignedNumber (negative : Bool) (text : List Char) : Option (Numeral × List Char) := do
  let (whole, rest) ← wholePart text
  let (fraction, rest) ← fractionPart rest
  let (exponent, rest) ← exponentPart rest
  return (⟨negative, whole, fraction, exponent⟩, rest)

/-- Reads a number. -/
def readNumber : List Char → Option (Numeral × List Char)
  | '-' :: rest => unsignedNumber true rest
  | text => unsignedNumber false text

mutual

/-- Reads a value.  The depth bounds how far values may lie inside each other; the
length of the text always suffices. -/
def readValue : (depth : Nat) → List Char → Option (Json × List Char)
  | 0, _ => none
  | depth + 1, text =>
      match skipSpace text with
      | '\x22' :: rest => (stringRest [] rest).map fun (units, rest) => (.string units, rest)
      | '[' :: rest =>
          match skipSpace rest with
          | ']' :: rest => some (.array [], rest)
          | _ => (readItems depth rest).map fun (items, rest) => (.array items, rest)
      | '\x7b' :: rest =>
          match skipSpace rest with
          | '\x7d' :: rest => some (.object [], rest)
          | _ => (readMembers depth rest).map fun (members, rest) => (.object members, rest)
      | 'n' :: rest => (after? ['u', 'l', 'l'] rest).map fun rest => (.null, rest)
      | 't' :: rest => (after? ['r', 'u', 'e'] rest).map fun rest => (.boolean true, rest)
      | 'f' :: rest => (after? ['a', 'l', 's', 'e'] rest).map fun rest => (.boolean false, rest)
      | text => (readNumber text).map fun (numeral, rest) => (.number numeral, rest)

/-- Reads the items of an array up to its closing bracket. -/
def readItems : (depth : Nat) → List Char → Option (List Json × List Char)
  | 0, _ => none
  | depth + 1, text =>
      match readValue depth text with
      | none => none
      | some (item, rest) =>
          match skipSpace rest with
          | ']' :: rest => some ([item], rest)
          | ',' :: rest => (readItems depth rest).map fun (more, rest) => (item :: more, rest)
          | _ => none

/-- Reads the members of an object up to its closing brace. -/
def readMembers : (depth : Nat) → List Char → Option (List (List Unit × Json) × List Char)
  | 0, _ => none
  | depth + 1, text =>
      match skipSpace text with
      | '\x22' :: rest =>
          match stringRest [] rest with
          | none => none
          | some (name, rest) =>
              match skipSpace rest with
              | ':' :: rest =>
                  match readValue depth rest with
                  | none => none
                  | some (member, rest) =>
                      match skipSpace rest with
                      | '\x7d' :: rest => some ([(name, member)], rest)
                      | ',' :: rest =>
                          (readMembers depth rest).map fun (more, rest) =>
                            ((name, member) :: more, rest)
                      | _ => none
              | _ => none
      | _ => none

end

/-- Reads a whole text as a JSON value. -/
def read? (text : String) : Option Json :=
  let chars := text.toList
  match readValue (2 * chars.length + 2) chars with
  | some (json, rest) => if (skipSpace rest).isEmpty then some json else none
  | none => none

end Sramp.Json
