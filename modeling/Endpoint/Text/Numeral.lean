/-!
# Decimal and hexadecimal numerals

The digits are the ASCII ones only. `Nat.toDigits` writes a number; reading here is by value, so leading zeros
do no harm.
-/

namespace Endpoint.Text

/-- A text of one or more ASCII decimal digits. -/
def isDecimal (s : List Char) : Bool :=
  !s.isEmpty && s.all Char.isDigit

/-- The number a text of ASCII decimal digits denotes. -/
def decimalValue (s : List Char) : Nat :=
  Nat.ofDigitChars 10 s 0

/-- The value of an ASCII hexadecimal digit of either case. -/
def hexDigit? (c : Char) : Option Nat :=
  if '0' ≤ c ∧ c ≤ '9' then some (c.toNat - '0'.toNat)
  else if 'a' ≤ c ∧ c ≤ 'f' then some (c.toNat - 'a'.toNat + 10)
  else if 'A' ≤ c ∧ c ≤ 'F' then some (c.toNat - 'A'.toNat + 10)
  else none

/-- The number that more hexadecimal digits make after those already read. -/
def hexFrom (acc : Nat) : List Char → Option Nat
  | [] => some acc
  | c :: r => (hexDigit? c).bind fun d => hexFrom (16 * acc + d) r

/-- The number a text of one or more hexadecimal digits denotes. -/
def hexValue? : List Char → Option Nat
  | [] => none
  | s => hexFrom 0 s

/-- A number in decimal digits. -/
def decimal (n : Nat) : List Char :=
  Nat.toDigits 10 n

/-- A number in lower-case hexadecimal digits without leading zeros. -/
def hex (n : Nat) : List Char :=
  Nat.toDigits 16 n

/-- A number in at least `width` lower-case hexadecimal digits. -/
def hexPadded (width n : Nat) : List Char :=
  List.replicate (width - (hex n).length) '0' ++ hex n

/-- A number in at least `width` decimal digits. -/
def decimalPadded (width n : Nat) : List Char :=
  List.replicate (width - (decimal n).length) '0' ++ decimal n

end Endpoint.Text
