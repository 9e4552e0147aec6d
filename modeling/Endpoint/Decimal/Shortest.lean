import Endpoint.Decimal.Binary64

/-!
# Shortest decimals

The text of a binary64 number has the fewest digits that read back as the number, and of those the nearest to it;
a tie goes to the even digit. From `10 ^ 16` up and below `10 ^ -4` it is written with an exponent.
-/

namespace Endpoint.Binary64

/-- `a * 10 ^ p ≤ b * 2 ^ q`. -/
def decimalLe (a : Nat) (p : Int) (b : Nat) (q : Int) : Bool :=
  a * tenTo p.toNat * twoTo (-q).toNat ≤ b * twoTo q.toNat * tenTo (-p).toNat

/-- `b * 2 ^ q ≤ a * 10 ^ p`. -/
def binaryLe (b : Nat) (q : Int) (a : Nat) (p : Int) : Bool :=
  b * twoTo q.toNat * tenTo (-p).toNat ≤ a * tenTo p.toNat * twoTo (-q).toNat

/-- Whether `a * 10 ^ p` reads back as `m * 2 ^ e`: it lies no further than half way to the neighbours, and on the
half way only if the mantissa is even. Bounds are counted in quarters of the last place. -/
def readsBack (m : Nat) (e : Int) (a : Nat) (p : Int) : Bool :=
  let low := if m = twoTo 52 ∧ minExponent < e then 4 * m - 1 else 4 * m - 2
  let high := 4 * m + 2
  if m % 2 = 0 then binaryLe low (e - 2) a p && decimalLe a p high (e - 2)
  else !decimalLe a p low (e - 2) && !binaryLe high (e - 2) a p

/-- The number of places before the decimal point, zero or less for numbers below one: the `k` with
`10 ^ (k - 1) ≤ m * 2 ^ e < 10 ^ k`. -/
def places (m : Nat) (e : Int) : Int :=
  let whole := m * twoTo e.toNat / twoTo (-e).toNat
  if whole = 0 then
    let leading : Nat := ((List.range 330).find? fun j : Nat => decimalLe 1 (-(j : Int)) m e).getD 0
    1 - (leading : Int)
  else (Text.decimal whole).length

/-- The decimals with `n` digits next to `m * 2 ^ e` that read back as it: the nearer one, as digits and a power of
ten. -/
def withDigits? (m : Nat) (e : Int) (k : Int) (n : Nat) : Option (Nat × Int) :=
  let p := k - n
  let below := m * twoTo e.toNat * tenTo (-p).toNat / (twoTo (-e).toNat * tenTo p.toNat)
  let lowFits := readsBack m e below p
  let highFits := readsBack m e (below + 1) p
  if lowFits && highFits then
    -- twice the number against the sum of the two candidates
    let notAbove := binaryLe (2 * m) e (2 * below + 1) p
    let notBelow := decimalLe (2 * below + 1) p (2 * m) e
    let up := !notAbove || (notBelow && below % 2 == 1)
    some (if up then below + 1 else below, p)
  else if lowFits then some (below, p)
  else if highFits then some (below + 1, p)
  else none

/-- The shortest digits that read back as `m * 2 ^ e`, with the power of ten of the last one. -/
def shortest (m : Nat) (e : Int) : Nat × Int :=
  let k := places m e
  (((List.range 17).map (· + 1)).findSome? (withDigits? m e k)).getD (m, 0)

/-- Digits and the place of the point as a positional numeral with at least one digit on either side of the
point. -/
def positional (ds : List Char) (point : Int) : List Char :=
  if point ≤ 0 then '0' :: '.' :: (List.replicate (-point).toNat '0' ++ ds)
  else if ds.length ≤ point.toNat then ds ++ List.replicate (point.toNat - ds.length) '0' ++ ['.', '0']
  else ds.take point.toNat ++ '.' :: ds.drop point.toNat

/-- Digits and the place of the point as a numeral with an exponent of at least two digits. -/
def withExponent (ds : List Char) (point : Int) : List Char :=
  let lead := match ds with
    | d :: x :: r => d :: '.' :: x :: r
    | _ => ds
  let e := point - 1
  lead ++ 'e' :: (if e < 0 then '-' else '+') :: Text.decimalPadded 2 e.natAbs

/-- The text of a finite number other than zero, without its sign. -/
def magnitudeText (m : Nat) (e : Int) : List Char :=
  let (d, p) := shortest m e
  let all := Text.decimal d
  let point : Int := all.length + p
  let ds := (all.reverse.dropWhile (· == '0')).reverse
  if -4 < point ∧ point ≤ 16 then positional ds point else withExponent ds point

/-- The text of a number. -/
def text : Binary64 → String
  | .nan => "nan"
  | .infinite negative => if negative then "-inf" else "inf"
  | .finite negative m e =>
    let body := if m = 0 then "0.0" else String.ofList (magnitudeText m e)
    if negative then "-" ++ body else body

end Endpoint.Binary64
