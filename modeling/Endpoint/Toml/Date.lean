import Endpoint.Decimal.Binary64
import Endpoint.Text.Integer
import Endpoint.Toml.Fault
import Endpoint.Value.Moment

/-!
# Dates and times

A date has its numbers in fixed places: `YYYY-MM-DD`, a time on a day has `YYYY-MM-DDTHH:MM:SS` and then decimals of
the second and an offset. What stands between the numbers is not looked at, but one hyphen has to be among it.
-/

namespace Endpoint.Toml

open Text

/-- The characters from one place up to another. -/
def slice (start stop : Nat) (s : List Char) : List Char :=
  (s.drop start).take (stop - start)

/-- The integer between two places. -/
def field? (start stop : Nat) (s : List Char) : Option Int :=
  Text.integer? (String.ofList (slice start stop s))

/-- The number that is not negative between two places. -/
def natField? (start stop : Nat) (s : List Char) : Option Nat :=
  (field? start stop s).bind Int.toNat?

/-- The offset in minutes that a sign, two digits of hours and two of minutes make, or the letter of universal
time. -/
def offset? (s : List Char) : Option Int :=
  if s = ['Z'] then some 0
  else (field? 1 3 s).bind fun h => (field? 4 6 s).map fun m =>
    if s.head? = some '-' then -(60 * h + m) else 60 * h + m

/-- The product of two magnitudes, rounded to the next integer below. -/
def floorProduct : Binary64 → Binary64 → Nat
  | .finite _ m e, .finite _ n f =>
    match Binary64.ofRatio false (m * n * Binary64.twoTo (e + f).toNat) (Binary64.twoTo (-(e + f)).toNat) with
    | .finite _ m e => m * Binary64.twoTo e.toNat / Binary64.twoTo (-e).toNat
    | _ => 0
  | _, _ => 0

/-- The microseconds in `count` decimals that make a number. More than six are scaled as binary64 numbers. -/
def microseconds (count : Nat) (n : Int) : Except Fault Int :=
  if count ≤ 6 then .ok (n * (Binary64.tenTo (6 - count) : Nat))
  else match Binary64.ofRatio false n.natAbs 1 with
    | .finite s m e =>
      let size : Int := floorProduct (.finite s m e) (.ofDecimal false 1 (6 - (count : Int)))
      .ok (if n < 0 then -size else size)
    | _ => .error .decimalsTooLarge

/-- The decimals of a second and the text of the offset after them, from what follows the point. -/
def cutDecimals (s : List Char) : List Char × Option (List Char) :=
  let cutAt (c : Char) : List Char × Option (List Char) := (s.takeWhile (· != c), some (s.dropWhile (· != c)))
  if s.getLast? = some 'Z' ∨ s.getLast? = some 'z' then (s.dropLast, some ['Z'])
  else if s.contains '+' then cutAt '+'
  else if s.contains '-' then cutAt '-'
  else (s, none)

/-- Microseconds and offset from what follows the seconds. If any of it cannot be read, all of it is left out. -/
def afterSeconds (s : List Char) : Except Fault (Int × Option Int) :=
  match s with
  | [] => .ok (0, none)
  | '.' :: r =>
    let cut := cutDecimals r
    let offset := cut.2.map offset?
    match Text.integer? (String.ofList cut.1) with
    | none => .ok (0, none)
    | some n =>
      if offset = some none then .ok (0, none)
      else (microseconds cut.1.length n).map fun u => (u, offset.join)
  | r => .ok (0, offset? r)

/-- The day in the first ten places. -/
def day? (s : List Char) : Option Date :=
  (natField? 0 4 s).bind fun y => (natField? 5 7 s).bind fun m => (natField? 8 10 s).bind fun d =>
    if Date.isValid ⟨y, m, d⟩ then some ⟨y, m, d⟩ else none

/-- The time in the places after the day. -/
def timeOfDay? (s : List Char) (microsecond : Int) : Option TimeOfDay :=
  (natField? 11 13 s).bind fun h => (natField? 14 16 s).bind fun m => (natField? 17 19 s).bind fun sec =>
    microsecond.toNat?.bind fun u =>
      if TimeOfDay.isValid ⟨h, m, sec, u⟩ then some ⟨h, m, sec, u⟩ else none

/-- The date, or the time on a day, that a text denotes, if it denotes one. Where its zone lies is not known yet. -/
def date? (s : List Char) : Except Fault (Option Moment) :=
  (afterSeconds (s.drop 19)).map fun rest =>
    if !(s.drop 1).contains '-' then none
    else if s.length = 10 then (day? s).map .date
    else (day? s).bind fun d => (timeOfDay? s rest.1).map fun t =>
      .dateTime d t (rest.2.map fun offset => ⟨offset, 0⟩)

/-- The numbers of the clock at the beginning of a text: hour, minute and second in two digits each, and three to six
digits after a point, which count microseconds. -/
def clock? : List Char → Option TimeOfDay
  | a :: b :: ':' :: c :: d :: ':' :: e :: f :: r =>
    if [a, b, c, d, e, f].all Char.isDigit then
      let decimals := match r with
        | '.' :: r => (r.takeWhile Char.isDigit).take 6
        | _ => []
      let microsecond := if decimals.length < 3 then 0 else decimalValue decimals
      some ⟨decimalValue [a, b], decimalValue [c, d], decimalValue [e, f], microsecond⟩
    else none
  | _ => none

end Endpoint.Toml
