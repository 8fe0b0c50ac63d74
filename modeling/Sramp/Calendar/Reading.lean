import Sramp.Calendar.Fields
import Sramp.Text.AsciiCase

/-!
# Reading dates

Reads a text item by item along a date format, then puts the fields together.
The first fault from the left is the one reported; text left over after the last
item counts before the fields are looked at.  This is the reader that engines are
given; queries are compiled with any other one in the same way.
-/

namespace Sramp.Calendar

/-- The rest of a text after some characters, which must stand at its front.  A
text with fewer bytes than those characters is too short to hold them. -/
def expect (chars text : List Char) : Except Fault (List Char) :=
  if (String.ofList text).utf8ByteSize < (String.ofList chars).utf8ByteSize then
    .error .tooShort
  else if chars.isPrefixOf text then .ok (text.drop chars.length)
  else .error .invalid

/-- The value of decimal digits; it must fit a signed 64-bit word. -/
def digitsValue (digits : List Char) : Except Fault Int :=
  let value := digits.foldl (fun value c => value * 10 + (c.toNat - '0'.toNat)) 0
  if value < Nat.pow 2 63 then .ok value else .error .outOfRange

/-- Reads at least one digit, and as many as a limit allows. -/
def readDigits (limit : Option Nat) (text : List Char) : Except Fault (Int × List Char) :=
  let run := text.takeWhile Char.isDigit
  let digits := (limit.map run.take).getD run
  if text.isEmpty then .error .tooShort
  else if digits.isEmpty then .error .invalid
  else do return (← digitsValue digits, text.drop digits.length)

/-- Reads a number after white space.  A year may bear a sign, and then has any
number of digits. -/
def readNumber (field : Field) (text : List Char) : Except Fault (Int × List Char) :=
  match field, Text.trimStart text with
  | .year, '-' :: rest => do
      let (value, rest) ← readDigits none rest
      return (-value, rest)
  | .year, '+' :: rest => readDigits none rest
  | field, rest => readDigits (some field.width) rest

/-- The English names of the months, each split after its short form. -/
def monthNames : List (String × String) :=
  [("jan", "uary"), ("feb", "ruary"), ("mar", "ch"), ("apr", "il"), ("may", ""),
    ("jun", "e"), ("jul", "y"), ("aug", "ust"), ("sep", "tember"), ("oct", "ober"),
    ("nov", "ember"), ("dec", "ember")]

/-- The English names of the days of the week, each split after its short form. -/
def weekdayNames : List (String × String) :=
  [("mon", "day"), ("tue", "sday"), ("wed", "nesday"), ("thu", "rsday"), ("fri", "day"),
    ("sat", "urday"), ("sun", "day")]

/-- Whether a name stands at the front of a text, in letters of any case. -/
def startsWith (name : String) (text : List Char) : Bool :=
  Text.sameLetters name.toList (text.take name.length)

/-- Reads a short name and, where a long one is allowed, the rest of it if it
follows.  Answers the position of the name in the list. -/
def readName (names : List (String × String)) (long : Bool) (text : List Char) :
    Except Fault (Nat × List Char) :=
  if (String.ofList text).utf8ByteSize < 3 then .error .tooShort
  else
    match names.findIdx? fun (short, _) => startsWith short text with
    | none => .error .invalid
    | some index =>
        let rest := text.drop 3
        let ending := (names[index]?.map Prod.snd).getD ""
        if long && startsWith ending rest then .ok (index, rest.drop ending.length)
        else .ok (index, rest)

/-- Reads one item. -/
def readItem (fields : Fields) (text : List Char) : Item → Except Fault (Fields × List Char)
  | .literal chars => do return (fields, ← expect chars text)
  | .blank => .ok (fields, Text.trimStart text)
  | .number field => do
      let (value, rest) ← readNumber field text
      return (← fields.set field value, rest)
  | .monthName long => do
      let (index, rest) ← readName monthNames long text
      return (← fields.set .month (index + 1), rest)
  | .weekdayName long => do
      let (index, rest) ← readName weekdayNames long text
      return (← fields.setWeekday index, rest)
  | .unknown => .error .badFormat

/-- Reads items from left to right. -/
def readItems : List Item → Fields → List Char → Except Fault (Fields × List Char)
  | [], fields, text => .ok (fields, text)
  | item :: items, fields, text => do
      let (fields, rest) ← readItem fields text item
      readItems items fields rest

/-- Reads a whole text as a date in a format. -/
def Date.read (format text : String) : Except Fault Date := do
  let (fields, rest) ← readItems (Item.ofFormat format.toList) {} text.toList
  if rest.isEmpty then fields.date else .error .tooLong

/-- Reads a date in the form in which `Date.text` writes it; white space may
stand after each number. -/
def Date.ofText? (text : String) : Option Date :=
  (Date.read "%Y -%m -%d " text).toOption

end Sramp.Calendar
