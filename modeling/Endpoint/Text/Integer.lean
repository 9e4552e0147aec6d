import Endpoint.Text.Numeral

/-!
# Integers written in any script

An integer is one optional sign and decimal digits, of any script, with single underscores allowed between
digits and blanks around the whole. Texts of more than 4300 digits are refused.
-/

namespace Endpoint.Text

/-- The zeros of the decimal digits of Unicode 14; the ten digits of a script follow each other. -/
def decimalZeros : List Nat :=
  [
    0x30, 0x660, 0x6F0, 0x7C0, 0x966, 0x9E6, 0xA66, 0xAE6, 0xB66, 0xBE6, 0xC66, 0xCE6, 0xD66, 0xDE6, 0xE50,
    0xED0, 0xF20, 0x1040, 0x1090, 0x17E0, 0x1810, 0x1946, 0x19D0, 0x1A80, 0x1A90, 0x1B50, 0x1BB0, 0x1C40,
    0x1C50, 0xA620, 0xA8D0, 0xA900, 0xA9D0, 0xA9F0, 0xAA50, 0xABF0, 0xFF10, 0x104A0, 0x10D30, 0x11066,
    0x110F0, 0x11136, 0x111D0, 0x112F0, 0x11450, 0x114D0, 0x11650, 0x116C0, 0x11730, 0x118E0, 0x11950,
    0x11C50, 0x11D50, 0x11DA0, 0x16A60, 0x16AC0, 0x16B50, 0x1D7CE, 0x1D7D8, 0x1D7E2, 0x1D7EC, 0x1D7F6,
    0x1E140, 0x1E2F0, 0x1E950, 0x1FBF0]

/-- The value of a decimal digit of any script. -/
def digitValue? (c : Char) : Option Nat :=
  (decimalZeros.find? fun z => z ≤ c.toNat && c.toNat ≤ z + 9).map (c.toNat - ·)

/-- The blanks allowed around an integer: the five control characters from tab to carriage return, the space,
and the white space beyond ASCII. -/
def isIntegerBlank (c : Char) : Bool :=
  let n := c.toNat
  (0x09 ≤ n && n ≤ 0x0D) || n == 0x20 || n == 0x85 || n == 0xA0 || n == 0x1680 || (0x2000 ≤ n && n ≤ 0x200A) ||
    n == 0x2028 || n == 0x2029 || n == 0x202F || n == 0x205F || n == 0x3000

/-- The most digits an integer may be written with. -/
def maxIntegerDigits : Nat := 4300

/-- The digits of a numeral, where an underscore may stand between two digits. -/
def groupedDigits? : List Char → Option (List Nat)
  | [] => none
  | [c] => (digitValue? c).map ([·])
  | c :: '_' :: r => (digitValue? c).bind fun d => (groupedDigits? r).map (d :: ·)
  | c :: r => (digitValue? c).bind fun d => (groupedDigits? r).map (d :: ·)

/-- The number with these decimal digits, most significant first. -/
def ofDigits (ds : List Nat) : Nat :=
  ds.foldl (fun n d => 10 * n + d) 0

/-- The number a numeral without sign denotes. -/
def natural? (s : List Char) : Option Nat :=
  (groupedDigits? s).bind fun ds => if ds.length ≤ maxIntegerDigits then some (ofDigits ds) else none

/-- The integer a text denotes. -/
def integer? (s : String) : Option Int :=
  let t := ((s.toList.dropWhile isIntegerBlank).reverse.dropWhile isIntegerBlank).reverse
  match t with
  | '-' :: r => (natural? r).map fun n => -(n : Int)
  | '+' :: r => (natural? r).map fun n => (n : Int)
  | r => (natural? r).map fun n => (n : Int)

end Endpoint.Text
