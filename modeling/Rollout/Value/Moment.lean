import Rollout.Text.Hex
import Rollout.Number.Integer

/-!
# Dates and moments

A date is a day of the Gregorian calendar in the years 1 to 9999; a moment adds
a time of day to the microsecond and, where it is known, the offset from
universal time in minutes. Values of both types are only made by `Date.make?`
and `Moment.make?`, which refuse days and times that do not exist.
-/

namespace Rollout

/-- A day of the calendar. -/
structure Date where
  year : Nat
  month : Nat
  day : Nat
  deriving DecidableEq, Repr

/-- A time of day on a date, with the offset from universal time in minutes if it is known. -/
structure Moment where
  date : Date
  hour : Nat
  minute : Nat
  second : Nat
  microsecond : Nat
  offset : Option Int
  deriving DecidableEq, Repr

/-- A number in decimal, padded with zeros to a width. -/
def padded (width n : Nat) : String :=
  let ds := Nat.toDigits 10 n
  String.ofList (List.replicate (width - ds.length) '0' ++ ds)

namespace Date

/-- Leap years of the Gregorian calendar. -/
def isLeap (year : Nat) : Bool :=
  year % 4 == 0 && (year % 100 != 0 || year % 400 == 0)

def daysIn (year month : Nat) : Nat :=
  if month = 2 then (if isLeap year then 29 else 28)
  else if month = 4 ∨ month = 6 ∨ month = 9 ∨ month = 11 then 30
  else 31

/-- The date, if the calendar has it. -/
def make? (year month day : Nat) : Option Date :=
  if 1 ≤ year ∧ year ≤ 9999 ∧ 1 ≤ month ∧ month ≤ 12 ∧ 1 ≤ day ∧ day ≤ daysIn year month
  then some ⟨year, month, day⟩ else none

/-- Year, month and day between hyphens. -/
def text (d : Date) : String :=
  padded 4 d.year ++ "-" ++ padded 2 d.month ++ "-" ++ padded 2 d.day

/-- The date as it is shown inside a list or a mapping. -/
def quoted (d : Date) : String :=
  "datetime.date(" ++ ", ".intercalate ([d.year, d.month, d.day].map toString) ++ ")"

end Date

namespace Moment

/-- The moment, if the time of day exists and the offset is less than a day. -/
def make? (date : Date) (hour minute second microsecond : Nat) (offset : Option Int) :
    Option Moment :=
  if hour < 24 ∧ minute < 60 ∧ second < 60 ∧ (offset.getD 0).natAbs < 1440
  then some ⟨date, hour, minute, second, microsecond, offset⟩ else none

/-- The offset with its sign, in hours and minutes. -/
def offsetText (offset : Option Int) : String :=
  match offset with
  | none => ""
  | some o =>
      (if o < 0 then "-" else "+") ++ padded 2 (o.natAbs / 60) ++ ":" ++ padded 2 (o.natAbs % 60)

/-- Date and time with a character between them; a fraction is shown unless it is zero. -/
def textWith (between : String) (t : Moment) : String :=
  t.date.text ++ between ++ padded 2 t.hour ++ ":" ++ padded 2 t.minute ++ ":" ++
    padded 2 t.second ++
    (if t.microsecond = 0 then "" else "." ++ padded 6 t.microsecond) ++ offsetText t.offset

/-- Date and time with a blank between them. -/
def text (t : Moment) : String := textWith " " t

/-- Date and time in the standard form. -/
def isoText (t : Moment) : String := textWith "T" t

/-- The time zone as it is shown inside a list or a mapping. -/
def zoneQuoted (offset : Int) : String :=
  if offset = 0 then "datetime.timezone.utc"
  else
    let span :=
      if offset < 0 then "days=-1, seconds=" ++ toString ((1440 + offset) * 60)
      else "seconds=" ++ toString (offset * 60)
    "datetime.timezone(datetime.timedelta(" ++ span ++ "))"

/-- The moment as it is shown inside a list or a mapping: zeros at its end are left out. -/
def quoted (t : Moment) : String :=
  let base := [t.date.year, t.date.month, t.date.day, t.hour, t.minute]
  let tail := if t.microsecond ≠ 0 then [t.second, t.microsecond]
    else if t.second ≠ 0 then [t.second] else []
  let zone := match t.offset with
    | none => []
    | some o => ["tzinfo=" ++ zoneQuoted o]
  "datetime.datetime(" ++ ", ".intercalate ((base ++ tail).map toString ++ zone) ++ ")"

/-- Microseconds since the start of the year 0, in universal time where the offset is known. -/
def instant (t : Moment) : Int :=
  let y := t.date.year - 1
  let before := (List.range (t.date.month - 1)).foldl
    (fun n m => n + Date.daysIn t.date.year (m + 1)) 0
  let days := 365 * y + y / 4 - y / 100 + y / 400 + before + t.date.day
  let minutes : Int := (days * 1440 + t.hour * 60 + t.minute : Nat) - t.offset.getD 0
  (minutes * 60 + t.second) * 1000000 + t.microsecond

/-- Two moments are the same when they name one instant, or neither knows its offset. -/
def same (s t : Moment) : Bool :=
  s.offset.isSome == t.offset.isSome && s.instant == t.instant

end Moment

end Rollout
