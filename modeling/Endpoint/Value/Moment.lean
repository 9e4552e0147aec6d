import Endpoint.Text.Numeral

/-!
# Dates and times

A day of the calendar, a time of day, and the two together, with a zone where its offset from universal time is known.
-/

namespace Endpoint

/-- Why a value cannot be written. -/
inductive TextFault where
  /-- An integer has more decimal digits than are ever written. -/
  | tooManyDigits
  /-- The offset of a zone is a day or more. -/
  | offsetTooLarge
  deriving DecidableEq, Repr

/-- The wording of a failure to write. -/
def TextFault.message : TextFault → String
  | .tooManyDigits =>
    "Exceeds the limit (4300 digits) for integer string conversion; use sys.set_int_max_str_digits() to increase " ++
      "the limit"
  | .offsetTooLarge =>
    "offset must be a timedelta strictly between -timedelta(hours=24) and timedelta(hours=24)."

/-- A day of the calendar. -/
structure Date where
  year : Nat
  month : Nat
  day : Nat
  deriving DecidableEq, Repr

/-- A time of day. -/
structure TimeOfDay where
  hour : Nat
  minute : Nat
  second : Nat
  microsecond : Nat
  deriving DecidableEq, Repr

/-- A zone: its offset from universal time in minutes, and where it lies in memory, which shows when a moment is written
with its kind. -/
structure Zone where
  offset : Int
  address : Nat
  deriving DecidableEq, Repr

/-- A day, a time of day, or a time on a day, with a zone where it is known. -/
inductive Moment where
  | date (d : Date)
  | time (t : TimeOfDay)
  | dateTime (d : Date) (t : TimeOfDay) (zone : Option Zone)
  deriving DecidableEq, Repr

/-- Whether a year has a 29th of February. -/
def Date.isLeapYear (y : Nat) : Bool :=
  (y % 4 == 0 && y % 100 != 0) || y % 400 == 0

/-- The number of days of a month. -/
def Date.daysInMonth (y m : Nat) : Nat :=
  if m == 2 then (if isLeapYear y then 29 else 28)
  else if m == 4 || m == 6 || m == 9 || m == 11 then 30
  else 31

/-- Whether the fields lie within the calendar. -/
def Date.isValid (d : Date) : Bool :=
  1 ≤ d.year && d.year ≤ 9999 && 1 ≤ d.month && d.month ≤ 12 && 1 ≤ d.day &&
    d.day ≤ daysInMonth d.year d.month

/-- Whether the fields lie on the clock. -/
def TimeOfDay.isValid (t : TimeOfDay) : Bool :=
  t.hour < 24 && t.minute < 60 && t.second < 60 && t.microsecond < 1000000

namespace Moment

/-- A number in at least two digits. -/
private def two (n : Nat) : String :=
  String.ofList (Text.decimalPadded 2 n)

/-- A day as year, month and day. -/
def dateText (d : Date) : String :=
  String.ofList (Text.decimalPadded 4 d.year) ++ "-" ++ two d.month ++ "-" ++ two d.day

/-- A time of day, with six decimals of the second unless they are zero. -/
def timeText (t : TimeOfDay) : String :=
  let whole := two t.hour ++ ":" ++ two t.minute ++ ":" ++ two t.second
  if t.microsecond = 0 then whole
  else whole ++ "." ++ String.ofList (Text.decimalPadded 6 t.microsecond)

/-- An offset as a sign, hours and minutes. -/
def offsetText (minutes : Int) : String :=
  (if minutes < 0 then "-" else "+") ++ two (minutes.natAbs / 60) ++ ":" ++ two (minutes.natAbs % 60)

/-- A moment as it is shown bare, unless its offset is a day or more. -/
def text : Moment → Except TextFault String
  | .date d => .ok (dateText d)
  | .time t => .ok (timeText t)
  | .dateTime d t none => .ok (dateText d ++ " " ++ timeText t)
  | .dateTime d t (some z) =>
    if z.offset.natAbs < 1440 then .ok (dateText d ++ " " ++ timeText t ++ offsetText z.offset)
    else .error .offsetTooLarge

/-- The name of a moment's kind. -/
def kindName : Moment → String
  | .date _ => "datetime.date"
  | .time _ => "datetime.time"
  | .dateTime _ _ _ => "datetime.datetime"

/-- Hour and minute, with the second and the microsecond as far as they are not zero. -/
def timeFields (t : TimeOfDay) : List Nat :=
  if t.microsecond ≠ 0 then [t.hour, t.minute, t.second, t.microsecond]
  else if t.second ≠ 0 then [t.hour, t.minute, t.second]
  else [t.hour, t.minute]

/-- The numbers that make up a moment, from the largest unit to the smallest. -/
def fields : Moment → List Nat
  | .date d => [d.year, d.month, d.day]
  | .time t => timeFields t
  | .dateTime d t _ => [d.year, d.month, d.day] ++ timeFields t

/-- A zone as an object: its offset is not told, but where it lies. -/
def zoneLiteral (z : Zone) : String :=
  "tzinfo=<toml.tz.TomlTz object at 0x" ++ String.ofList (Text.hex z.address) ++ ">"

/-- The zone of a moment. -/
def zone? : Moment → Option Zone
  | .dateTime _ _ zone => zone
  | _ => none

/-- A moment as its kind, its numbers and its zone. -/
def literal (m : Moment) : String :=
  m.kindName ++ "(" ++
    String.intercalate ", " (m.fields.map toString ++ (m.zone?.map zoneLiteral).toList) ++ ")"

end Moment

end Endpoint
