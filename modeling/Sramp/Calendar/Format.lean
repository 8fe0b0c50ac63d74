import Sramp.Text.Blank

/-!
# Date formats

A format is read as a list of items: literal text, white space, and the fields
and names introduced by a percent sign.  A percent sign that introduces nothing
known here is an item of its own, at which reading a date fails; centuries, weeks of
a year, days of a week in numbers, time zones and parts of a second are not known.
-/

namespace Sramp.Calendar

/-- A field written as a number. -/
inductive Field where
  | year
  | yearOfCentury
  | month
  | day
  | dayOfYear
  | hour
  | minute
  | second
  deriving DecidableEq, Repr

namespace Field

/-- The largest number of digits read for a field without a sign. -/
def width : Field → Nat
  | .year => 4
  | .dayOfYear => 3
  | _ => 2

end Field

/-- One part of a date format. -/
inductive Item where
  | literal (chars : List Char)
  | blank
  | number (field : Field)
  | monthName (long : Bool)
  | weekdayName (long : Bool)
  | unknown
  deriving DecidableEq, Repr

namespace Item

/-- The items that a letter stands for after a percent sign. -/
def ofLetter : Char → List Item
  | 'Y' => [.number .year]
  | 'y' => [.number .yearOfCentury]
  | 'm' => [.number .month]
  | 'd' | 'e' => [.number .day]
  | 'j' => [.number .dayOfYear]
  | 'H' | 'k' => [.number .hour]
  | 'M' => [.number .minute]
  | 'S' => [.number .second]
  | 'b' | 'h' => [.monthName false]
  | 'B' => [.monthName true]
  | 'a' => [.weekdayName false]
  | 'A' => [.weekdayName true]
  | 'F' => [.number .year, .literal ['-'], .number .month, .literal ['-'], .number .day]
  | 'D' | 'x' =>
      [.number .month, .literal ['/'], .number .day, .literal ['/'], .number .yearOfCentury]
  | 'v' =>
      [.number .day, .literal ['-'], .monthName false, .literal ['-'], .number .year]
  | 'T' | 'X' =>
      [.number .hour, .literal [':'], .number .minute, .literal [':'], .number .second]
  | 'R' => [.number .hour, .literal [':'], .number .minute]
  | 'n' | 't' => [.blank]
  | '%' => [.literal ['%']]
  | _ => [.unknown]

/-- The items that a letter stands for after a percent sign and a flag for padding.
Only a single number may bear a flag, which makes no difference to reading it. -/
def ofFlagged (letter : Char) : List Item :=
  match ofLetter letter with
  | [.number field] => [.number field]
  | _ => [.unknown]

/-- Whether a character of a format stands for itself. -/
def isPlain (c : Char) : Bool :=
  c != '%' && !Text.isBlank c

/-- The items of a format.  A run of white space is one item, and so is a run of
characters that stand for themselves. -/
def ofFormat : List Char → List Item
  | [] => []
  | ['%'] => [.unknown]
  | '%' :: '-' :: letter :: rest | '%' :: '_' :: letter :: rest
  | '%' :: '0' :: letter :: rest => ofFlagged letter ++ ofFormat rest
  | '%' :: letter :: rest => ofLetter letter ++ ofFormat rest
  | c :: rest =>
      if Text.isBlank c then .blank :: ofFormat (rest.dropWhile Text.isBlank)
      else .literal (c :: rest.takeWhile isPlain) :: ofFormat (rest.dropWhile isPlain)
termination_by format => format.length
decreasing_by
  · simp only [List.length_cons]; omega
  · simp only [List.length_cons]; omega
  · simp only [List.length_cons]; omega
  · simp only [List.length_cons]; omega
  · have := (List.dropWhile_sublist Text.isBlank (l := rest)).length_le
    simp only [List.length_cons]; omega
  · have := (List.dropWhile_sublist isPlain (l := rest)).length_le
    simp only [List.length_cons]; omega

end Item

end Sramp.Calendar
