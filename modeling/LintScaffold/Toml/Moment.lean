import LintScaffold.Json.Numeral
import LintScaffold.Toml.Quoted

/-!
# TOML dates and times

A date has four, two and two digits with hyphens between them.  A time has three times two
digits with colons between them, and perhaps a fraction.  A date may be followed by a time,
and that by an offset; what does not complete a time or an offset is left in the text.
Months, days, hours and so on are within their ranges, but a date need not be a day of the
calendar; that is checked once it is read.
-/

namespace LintScaffold.Toml

/-! ## Parts -/

/-- Takes a mark. -/
def takeMark? (mark : Char) : Text → Option Text
  | c :: rest => if c = mark then some rest else none
  | [] => none

/-- Takes two digits that write a number from `low` to `high`. -/
def takePair? (low high : Nat) : Text → Option (Nat × Text)
  | c :: d :: rest => do
      let n := (← Text.decimalValue? c) * 10 + (← Text.decimalValue? d)
      if low ≤ n ∧ n ≤ high then some (n, rest) else none
  | _ => none

/-- Takes a date. -/
def takeDate? (text : Text) : Option (Date × Text) := do
  let (century, rest) ← takePair? 0 99 text
  let (year, rest) ← takePair? 0 99 rest
  let (month, rest) ← takePair? 1 12 (← takeMark? '-' rest)
  let (day, rest) ← takePair? 1 31 (← takeMark? '-' rest)
  return (⟨century * 100 + year, month, day⟩, rest)

/-- Takes the fraction of a second, in microseconds; further digits are dropped. -/
def takeMicro (text : Text) : Nat × Text :=
  match text with
  | '.' :: rest =>
      match Json.takeDigits rest with
      | ([], _) => (0, text)
      | (digits, rest) =>
          (Json.natOfDigits ((digits ++ List.replicate 6 '0').take 6), rest)
  | _ => (0, text)

/-- Takes a time of day. -/
def takeTime? (text : Text) : Option (TimeOfDay × Text) := do
  let (hour, rest) ← takePair? 0 23 text
  let (minute, rest) ← takePair? 0 59 (← takeMark? ':' rest)
  let (second, rest) ← takePair? 0 59 (← takeMark? ':' rest)
  let (micro, rest) := takeMicro rest
  return (⟨hour, minute, second, micro⟩, rest)

/-- Takes the hours and minutes of an offset. -/
def takeOffsetSpan? (text : Text) : Option (Nat × Text) := do
  let (hours, rest) ← takePair? 0 23 text
  let (minutes, rest) ← takePair? 0 59 (← takeMark? ':' rest)
  return (hours * 60 + minutes, rest)

/-- Takes an offset, if one is there. -/
def takeOffset (text : Text) : Option Offset × Text :=
  let signed (west : Bool) (rest : Text) : Option Offset × Text :=
    match takeOffsetSpan? rest with
    | some (minutes, rest) => (some ⟨west, minutes⟩, rest)
    | none => (none, text)
  match text with
  | 'Z' :: rest => (some ⟨false, 0⟩, rest)
  | 'z' :: rest => (some ⟨false, 0⟩, rest)
  | '+' :: rest => signed false rest
  | '-' :: rest => signed true rest
  | _ => (none, text)

/-! ## Moments -/

/-- What separates a time from the date before it. -/
def isTimeMark (c : Char) : Bool := c = 'T' || c = 't' || c = ' '

/-- Takes the time that follows a date, if one is there. -/
def takeTimeBehind (date : Date) (text : Text) : Moment × Text :=
  match text with
  | [] => (.date date, text)
  | c :: rest =>
      match if isTimeMark c then takeTime? rest else none with
      | none => (.date date, text)
      | some (time, rest) =>
          let (offset, rest) := takeOffset rest
          (.stamp date time offset, rest)

/-- Reads a date or a time, if one begins here. -/
def readMoment? (text : Text) : Option (Except Fault (Datum × Text)) :=
  match takeDate? text with
  | some (date, rest) =>
      if date.isValid then
        let (moment, rest) := takeTimeBehind date rest
        some (.ok (.moment moment, rest))
      else some (.error (.mistaken .badDate text.length))
  | none => (takeTime? text).map fun (time, rest) => .ok (.moment (.time time), rest)

end LintScaffold.Toml
