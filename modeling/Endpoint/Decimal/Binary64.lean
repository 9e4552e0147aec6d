import Endpoint.Text.Numeral

/-!
# Binary floating-point numbers

The numbers of IEEE 754 binary64 as exact values, and the rounding of a decimal to the nearest of them, all in
integer arithmetic.
-/

namespace Endpoint

/-- A binary64 number. A finite one is `mantissa * 2 ^ exponent`, with a mantissa below `2 ^ 53`. -/
inductive Binary64 where
  | nan
  | infinite (negative : Bool)
  | finite (negative : Bool) (mantissa : Nat) (exponent : Int)
  deriving DecidableEq, Repr

namespace Binary64

/-- A power of two. -/
def twoTo (n : Nat) : Nat := Nat.pow 2 n

/-- A power of ten. -/
def tenTo (n : Nat) : Nat := Nat.pow 10 n

/-- The least exponent of a finite number. -/
def minExponent : Int := -1074

/-- The greatest exponent of a finite number. -/
def maxExponent : Int := 971

/-- Zero of either sign. -/
def zero (negative : Bool) : Binary64 :=
  .finite negative 0 minExponent

/-- Whether a number equals zero. -/
def isZero : Binary64 → Bool
  | .finite _ m _ => m == 0
  | _ => false

/-- Zero minus the number; zero of either sign goes to positive zero. -/
def fromZero : Binary64 → Binary64
  | .nan => .nan
  | .infinite n => .infinite !n
  | .finite n m e => if m = 0 then zero false else .finite (!n) m e

/-- The quotient rounded to the nearest integer, a half to the even one. -/
def roundDiv (num den : Nat) : Nat :=
  let q := num / den
  let r := num % den
  if den < 2 * r ∨ (2 * r = den ∧ q % 2 = 1) then q + 1 else q

/-- `num / den` over `2 ^ e`, as a numerator and a denominator. -/
def scaled (num den : Nat) (e : Int) : Nat × Nat :=
  if 0 ≤ e then (num, den * twoTo e.toNat) else (num * twoTo (-e).toNat, den)

/-- The number nearest to `num / den`, with a tie to the even mantissa. -/
def ofRatio (negative : Bool) (num den : Nat) : Binary64 :=
  if num = 0 then zero negative
  else
    let guess : Int := (Nat.log2 num : Int) - (Nat.log2 den : Int)
    let top := scaled num den guess
    let lead := if top.1 < top.2 then guess - 1 else guess
    let e := max minExponent (lead - 52)
    let s := scaled num den e
    let q := roundDiv s.1 s.2
    let m := if q = twoTo 53 then twoTo 52 else q
    let e' := if q = twoTo 53 then e + 1 else e
    if maxExponent < e' then .infinite negative else .finite negative m e'

/-- The number nearest to `digits * 10 ^ exponent`. Exponents far outside the range are settled at once. -/
def ofDecimal (negative : Bool) (digits : Nat) (exponent : Int) : Binary64 :=
  let size : Int := (Text.decimal digits).length + exponent
  if digits = 0 ∨ size < -400 then zero negative
  else if 400 < size then .infinite negative
  else if 0 ≤ exponent then ofRatio negative (digits * tenTo exponent.toNat) 1
  else ofRatio negative digits (tenTo (-exponent).toNat)

/-- Digits that may be grouped by single underscores, without them. -/
def ungroup? : List Char → Option (List Char)
  | [] => some []
  | [c] => if c.isDigit then some [c] else none
  | c :: '_' :: d :: r =>
    if c.isDigit && d.isDigit then (ungroup? (d :: r)).map (c :: ·) else none
  | c :: r => if c.isDigit then (ungroup? r).map (c :: ·) else none

/-- The exponent part of a numeral, without its letter: an optional sign and digits. -/
def exponent? (s : List Char) : Option Int :=
  let magnitude (r : List Char) : Option Nat :=
    if r.isEmpty then none else (ungroup? r).map Text.decimalValue
  match s with
  | '-' :: r => (magnitude r).map fun n => -(n : Int)
  | '+' :: r => (magnitude r).map fun n => (n : Int)
  | r => (magnitude r).map fun n => (n : Int)

/-- The unsigned numeral: digits, an optional point with digits, and an optional exponent. -/
def magnitude? (negative : Bool) (s : List Char) : Option Binary64 :=
  let body := s.takeWhile fun c => c != 'e' && c != 'E'
  let tail := s.drop body.length
  let whole := body.takeWhile (· != '.')
  let part := (body.drop whole.length).drop 1
  (ungroup? whole).bind fun w => (ungroup? part).bind fun f =>
    if w.isEmpty && f.isEmpty then none
    else
      let e := match tail with
        | [] => some 0
        | _ :: r => exponent? r
      e.map fun e => ofDecimal negative (Text.decimalValue (w ++ f)) (e - f.length)

/-- The number a text denotes: a numeral, or a name of infinity or of no number, in either case. -/
def read? (s : String) : Option Binary64 :=
  let t := s.toList.map Char.toLower
  let negative := t.head? == some '-'
  let r := if t.head? == some '-' || t.head? == some '+' then t.drop 1 else t
  if r = "nan".toList then some .nan
  else if r = "inf".toList ∨ r = "infinity".toList then some (.infinite negative)
  else magnitude? negative r

end Binary64

end Endpoint
