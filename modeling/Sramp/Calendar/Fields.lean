import Sramp.Calendar.Date
import Sramp.Calendar.Format

/-!
# Fields of a date

The fields read from a text, and the date they determine together.  A field may
be given twice if both agree.
-/

namespace Sramp.Calendar

/-- Why a text is not read as a date. -/
inductive Fault where
  | outOfRange
  | contradiction
  | tooFewFields
  | invalid
  | tooShort
  | tooLong
  | badFormat
  deriving DecidableEq, Repr

namespace Fault

/-- The wording of a fault. -/
def message : Fault → String
  | .outOfRange => "input is out of range"
  | .contradiction => "no possible date and time matching input"
  | .tooFewFields => "input is not enough for unique date and time"
  | .invalid => "input contains invalid characters"
  | .tooShort => "premature end of input"
  | .tooLong => "trailing input"
  | .badFormat => "bad or unsupported format string"

end Fault

/-- The fields read so far. -/
structure Fields where
  year : Option Int := none
  yearOfCentury : Option Int := none
  month : Option Int := none
  day : Option Int := none
  dayOfYear : Option Int := none
  weekday : Option Nat := none
  hour : Option Int := none
  minute : Option Int := none
  second : Option Int := none
  deriving DecidableEq, Repr

namespace Fields

/-- A field after one more reading of it: both readings must agree. -/
def agree {α : Type} [DecidableEq α] (known : Option α) (value : α) :
    Except Fault (Option α) :=
  match known with
  | none => .ok (some value)
  | some old => if old = value then .ok (some value) else .error .contradiction

/-- The values a field can have; a year only has to fit a 32-bit word here. -/
def range : Field → Int × Int
  | .year => (-2147483648, 2147483647)
  | .yearOfCentury => (0, 99)
  | .month => (1, 12)
  | .day => (1, 31)
  | .dayOfYear => (1, 366)
  | .hour => (0, 23)
  | .minute => (0, 59)
  | .second => (0, 60)

/-- Records the value of a field, which must lie in the range of that field. -/
def set (fields : Fields) (field : Field) (value : Int) : Except Fault Fields :=
  let (low, high) := range field
  if value < low ∨ high < value then .error .outOfRange
  else
    match field with
    | .year => do return { fields with year := ← agree fields.year value }
    | .yearOfCentury => do
        return { fields with yearOfCentury := ← agree fields.yearOfCentury value }
    | .month => do return { fields with month := ← agree fields.month value }
    | .day => do return { fields with day := ← agree fields.day value }
    | .dayOfYear => do return { fields with dayOfYear := ← agree fields.dayOfYear value }
    | .hour => do return { fields with hour := ← agree fields.hour value }
    | .minute => do return { fields with minute := ← agree fields.minute value }
    | .second => do return { fields with second := ← agree fields.second value }

/-- Records the day of the week. -/
def setWeekday (fields : Fields) (value : Nat) : Except Fault Fields := do
  return { fields with weekday := ← agree fields.weekday value }

/-- The year that the fields give.  A year of the century below 70 belongs to the
century from 2000 and any other to the one from 1900. -/
def givenYear (fields : Fields) : Except Fault (Option Int) :=
  match fields.year, fields.yearOfCentury with
  | year, none => .ok year
  | none, some short => .ok (some (if short < 70 then 2000 + short else 1900 + short))
  | some year, some short =>
      if year < 0 ∨ year % 100 ≠ short then .error .contradiction else .ok (some year)

/-- Whether a field is absent or has a value. -/
def admits {α : Type} [DecidableEq α] (known : Option α) (value : α) : Bool :=
  match known with
  | none => true
  | some old => old = value

/-- Whether a date has every field that was given. -/
def fits (fields : Fields) (date : Date) : Bool :=
  admits fields.month date.month && admits fields.day date.day &&
    admits fields.dayOfYear date.dayOfYear && admits fields.weekday date.weekday

/-- The date that the fields determine.  Month and day come before the day of the
year; whatever else is given must fit. -/
def date (fields : Fields) : Except Fault Date := do
  let found ←
    match ← fields.givenYear, fields.month, fields.day, fields.dayOfYear with
    | some year, some month, some day, _ => .ok (Date.ofParts? year month.toNat day.toNat)
    | some year, _, _, some position => .ok (Date.ofDayOfYear? year position.toNat)
    | _, _, _, _ => .error .tooFewFields
  match found with
  | none => .error .outOfRange
  | some date => if fields.fits date then .ok date else .error .contradiction

end Fields

end Sramp.Calendar
