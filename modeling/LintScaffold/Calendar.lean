import LintScaffold.Text.Basic

/-!
# Dates and times

The dates, times of day and points in time that a configuration file may hold, with
the two ways of writing them: the plain form, and the constructor form that shows
them inside a list or a table.
-/

namespace LintScaffold

/-- A day of the proleptic Gregorian calendar. -/
structure Date where
  year : Nat
  month : Nat
  day : Nat
  deriving DecidableEq

/-- A time of day, to the microsecond. -/
structure TimeOfDay where
  hour : Nat
  minute : Nat
  second : Nat
  micro : Nat
  deriving DecidableEq

/-- A distance from universal time, in minutes. -/
structure Offset where
  west : Bool
  minutes : Nat
  deriving DecidableEq

/-- A date, a time of day, or both together with an optional offset. -/
inductive Moment
  | date (date : Date)
  | time (time : TimeOfDay)
  | stamp (date : Date) (time : TimeOfDay) (offset : Option Offset)
  deriving DecidableEq

/-! ## Validity -/

/-- The year has a 29th of February. -/
def isLeap (year : Nat) : Bool := year % 4 = 0 && (year % 100 != 0 || year % 400 = 0)

/-- The number of days of a month. -/
def daysIn (year month : Nat) : Nat :=
  if month = 2 then (if isLeap year then 29 else 28)
  else if month = 4 ∨ month = 6 ∨ month = 9 ∨ month = 11 then 30
  else 31

/-- The date is a day of the calendar. -/
def Date.isValid (date : Date) : Bool :=
  decide (1 ≤ date.year) && decide (1 ≤ date.month) && decide (date.month ≤ 12) &&
    decide (1 ≤ date.day) && decide (date.day ≤ daysIn date.year date.month)

/-! ## Writing -/

/-- A number with zeros in front up to `width` digits. -/
def zeroPadded (width n : Nat) : Text :=
  let digits := Text.ofNat n
  List.replicate (width - digits.length) '0' ++ digits

/-- The date as year, month and day. -/
def Date.text (date : Date) : Text :=
  zeroPadded 4 date.year ++ ['-'] ++ zeroPadded 2 date.month ++ ['-'] ++ zeroPadded 2 date.day

/-- The time with seconds, and with microseconds unless there are none. -/
def TimeOfDay.text (time : TimeOfDay) : Text :=
  zeroPadded 2 time.hour ++ [':'] ++ zeroPadded 2 time.minute ++ [':'] ++
    zeroPadded 2 time.second ++ (if time.micro = 0 then [] else '.' :: zeroPadded 6 time.micro)

/-- The offset as hours and minutes. -/
def Offset.text (offset : Offset) : Text :=
  (if offset.west && offset.minutes != 0 then '-' else '+') ::
    (zeroPadded 2 (offset.minutes / 60) ++ [':'] ++ zeroPadded 2 (offset.minutes % 60))

/-- The plain form. -/
def Moment.text : Moment → Text
  | .date day => day.text
  | .time clock => clock.text
  | .stamp day clock zone =>
      day.text ++ [' '] ++ clock.text ++
        match zone with
        | none => []
        | some offset => offset.text

/-- The arguments that name a day. -/
def Date.arguments (date : Date) : List Text :=
  [Text.ofNat date.year, Text.ofNat date.month, Text.ofNat date.day]

/-- The arguments that name a time: seconds and microseconds only where needed. -/
def TimeOfDay.arguments (time : TimeOfDay) : List Text :=
  let base := [Text.ofNat time.hour, Text.ofNat time.minute]
  if time.micro != 0 then base ++ [Text.ofNat time.second, Text.ofNat time.micro]
  else if time.second != 0 then base ++ [Text.ofNat time.second]
  else base

/-- The constructor form of an offset; a western one counts from the day before. -/
def Offset.constructorText (offset : Offset) : Text :=
  if offset.minutes = 0 then "datetime.timezone.utc".toList
  else
    let span :=
      if offset.west then
        "days=-1, seconds=".toList ++ Text.ofNat (86400 - offset.minutes * 60)
      else "seconds=".toList ++ Text.ofNat (offset.minutes * 60)
    "datetime.timezone(datetime.timedelta(".toList ++ span ++ "))".toList

/-- The constructor form. -/
def Moment.constructorText : Moment → Text
  | .date day => "datetime.date(".toList ++ Text.join ", ".toList day.arguments ++ [')']
  | .time clock => "datetime.time(".toList ++ Text.join ", ".toList clock.arguments ++ [')']
  | .stamp day clock zone =>
      let offset :=
        match zone with
        | none => []
        | some offset => ["tzinfo=".toList ++ offset.constructorText]
      "datetime.datetime(".toList ++
        Text.join ", ".toList (day.arguments ++ clock.arguments ++ offset) ++ [')']

/-- The word for the kind of moment. -/
def Moment.kindName : Moment → String
  | .date _ => "date"
  | .time _ => "time"
  | .stamp _ _ _ => "datetime"

end LintScaffold
