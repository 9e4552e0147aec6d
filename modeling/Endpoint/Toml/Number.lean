import Endpoint.Decimal.Binary64
import Endpoint.Text.Blank
import Endpoint.Text.Integer
import Endpoint.Value.Basic

/-!
# Numbers

Integers in four bases and decimal fractions. Underscores are left out. Digits may be those of any script, and blanks
around a number do no harm.
-/

namespace Endpoint.Toml

open Text

/-- Whether two characters stand next to each other somewhere in a text. -/
def hasPair (a b : Char) (s : List Char) : Bool :=
  (s.zip (s.drop 1)).contains (a, b)

/-- Whether a numeral begins with a zero that goes on with another character than those allowed. -/
def hasIdleZero (allowed : List Char) : List Char → Bool
  | '0' :: c :: _ => !allowed.contains c
  | _ => false

/-- Whether a numeral is written in good order: its underscores stand inside, next to neither a point nor each other,
and it does not begin with a zero but for a point or the letter of a base after it. -/
def isOrderly (s : List Char) : Bool :=
  let n := strip s
  let (idle, magnitude) := match n with
    | '+' :: r => (hasIdleZero ['.'] r, r)
    | '-' :: r => (hasIdleZero ['.'] r, r)
    | r => (hasIdleZero ['.', 'o', 'b', 'x'] r, r)
  n != [] && n.head? != some '_' && n.getLast? != some '_' && !hasPair '_' '.' n && !hasPair '.' '_' n &&
    !idle && !hasPair '_' '_' magnitude

/-- A text without blanks around it, and with the digits of all scripts as those of ASCII. -/
def plainNumeral (s : List Char) : List Char :=
  let bare := ((s.dropWhile isIntegerBlank).reverse.dropWhile isIntegerBlank).reverse
  bare.map fun c => ((digitValue? c).map Nat.digitChar).getD c

/-- The binary64 number that a text denotes. -/
def real? (s : List Char) : Option Binary64 :=
  Binary64.read? (String.ofList (plainNumeral s))

/-- The number that digits of a base denote. -/
def inBase? (base : Nat) (s : List Char) : Option Nat :=
  if s = [] then none
  else s.foldl (fun acc c => acc.bind fun n => (hexDigit? c).bind fun d =>
    if d < base then some (base * n + d) else none) (some 0)

/-- The number that a numeral without sign denotes. A decimal numeral begins with a zero only if it is zero. -/
def unsigned? (s : List Char) : Option Nat :=
  match s with
  | '0' :: 'x' :: r => inBase? 16 r
  | '0' :: 'X' :: r => inBase? 16 r
  | '0' :: 'o' :: r => inBase? 8 r
  | '0' :: 'O' :: r => inBase? 8 r
  | '0' :: 'b' :: r => inBase? 2 r
  | '0' :: 'B' :: r => inBase? 2 r
  | _ =>
    if maxIntegerDigits < s.length then none
    else (inBase? 10 s).bind fun n => if s.head? = some '0' ∧ n ≠ 0 then none else some n

/-- The integer that a text with an optional sign denotes. -/
def integer? (s : List Char) : Option Int :=
  match plainNumeral s with
  | '-' :: r => (unsigned? r).map fun n => -(n : Int)
  | '+' :: r => (unsigned? r).map fun n => (n : Int)
  | r => (unsigned? r).map fun n => (n : Int)

/-- Whether a numeral is a decimal fraction or has an exponent. -/
def isFractional (s : List Char) : Bool :=
  s.contains '.' || (!s.contains 'x' && (s.contains 'e' || s.contains 'E'))

/-- Whether a numeral ends with its first point. -/
def endsInPoint (s : List Char) : Bool :=
  (s.dropWhile (· != '.')).length == 1

/-- The number that a numeral without its first sign and without underscores denotes. A fraction begins with a digit
and does not end with its point. -/
def magnitude? (s : List Char) : Option Value :=
  if isFractional s then
    if endsInPoint s || !s.head?.any Char.isDigit then none else (real? s).map .real
  else
    let lower := s.map Char.toLower
    if lower = "inf".toList then some (.real (.infinite false))
    else if lower = "nan".toList then some (.real .nan)
    else (integer? s).map .int

/-- Zero minus a number. -/
def negated : Value → Value
  | .int n => .int (-n)
  | .real x => .real x.fromZero
  | v => v

/-- The number that a text denotes. -/
def number? (s : List Char) : Option Value :=
  let read (r : List Char) : Option Value := magnitude? (r.filter (· != '_'))
  match s with
  | '-' :: r => (read r).map negated
  | '+' :: r => read r
  | r => read r

end Endpoint.Toml
