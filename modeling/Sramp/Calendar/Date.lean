/-!
# Dates of the proleptic Gregorian calendar

A date carries the evidence that its month and day exist.  Years run from
-262143 to 262142; year 0 precedes year 1.
-/

namespace Sramp.Calendar

/-- Whether a year has a 29th of February. -/
def isLeap (year : Int) : Bool :=
  year % 4 == 0 && (year % 100 != 0 || year % 400 == 0)

/-- The number of days of a month; zero if there is no such month. -/
def daysInMonth (year : Int) (month : Nat) : Nat :=
  match month with
  | 1 | 3 | 5 | 7 | 8 | 10 | 12 => 31
  | 4 | 6 | 9 | 11 => 30
  | 2 => if isLeap year then 29 else 28
  | _ => 0

/-- Whether a day exists and its year is one of the years covered. -/
def IsDate (year : Int) (month day : Nat) : Prop :=
  -262143 ≤ year ∧ year ≤ 262142 ∧ 1 ≤ day ∧ day ≤ daysInMonth year month

instance (year : Int) (month day : Nat) : Decidable (IsDate year month day) :=
  inferInstanceAs (Decidable (_ ∧ _))

/-- A day of the calendar. -/
structure Date where
  year : Int
  month : Nat
  day : Nat
  exists_day : IsDate year month day
  deriving DecidableEq

namespace Date

/-- The date with given parts, if there is one. -/
def ofParts? (year : Int) (month day : Nat) : Option Date :=
  if valid : IsDate year month day then some ⟨year, month, day, valid⟩ else none

/-- The days of a year before the first of a month. -/
def daysBefore (year : Int) : (month : Nat) → Nat
  | 0 => 0
  | month + 1 => daysBefore year month + daysInMonth year month

/-- The position of a date within its year, from 1. -/
def dayOfYear (date : Date) : Nat :=
  daysBefore date.year date.month + date.day

/-- The month and day at a position of a year, looked for from `month` on. -/
def monthAndDay (year : Int) (position : Nat) : (months month : Nat) → Nat × Nat
  | 0, month => (month, position)
  | months + 1, month =>
      if position ≤ daysInMonth year month then (month, position)
      else monthAndDay year (position - daysInMonth year month) months (month + 1)

/-- The date at a position of a year, if the year is that long. -/
def ofDayOfYear? (year : Int) (position : Nat) : Option Date :=
  let (month, day) := monthAndDay year position 12 1
  ofParts? year month day

/-- The day of the week, Monday being 0. -/
def weekday (date : Date) : Nat :=
  let before := date.year - 1
  let days := 365 * before + before / 4 - before / 100 + before / 400 + date.dayOfYear
  ((days - 1) % 7).toNat

/-- Digits filled up with leading zeros. -/
def padded (width : Nat) (value : Nat) : List Char :=
  let digits := Nat.toDigits 10 value
  List.replicate (width - digits.length) '0' ++ digits

/-- A year in at least four digits; outside 0 to 9999 it bears a sign. -/
def yearText (year : Int) : List Char :=
  if year < 0 then '-' :: padded 4 year.natAbs
  else if 9999 < year then '+' :: padded 4 year.natAbs
  else padded 4 year.natAbs

/-- The text `YYYY-MM-DD`. -/
def text (date : Date) : String :=
  String.ofList
    (yearText date.year ++ '-' :: padded 2 date.month ++ '-' :: padded 2 date.day)

end Date

end Sramp.Calendar
