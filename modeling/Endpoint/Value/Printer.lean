import Endpoint.Address.Literal
import Endpoint.Decimal.Shortest
import Endpoint.Text.Integer
import Endpoint.Text.Quoted
import Endpoint.Value.Basic

/-!
# Values as text

`Value.literal` writes a value so that its kind shows: texts and octets are quoted. `Value.display` shows a text, an
address and a moment bare, and any other value as its literal. Integers that are too long are not written, alone or
within another value, nor are moments shown bare whose offset is a day or more.
-/

namespace Endpoint.Value

open Text

/-- One octet as it is written between marks. -/
def quoteOctet (mark : Char) (n : Nat) : List Char :=
  if n < 0x80 then quoteChar mark (Char.ofNat n) else '\\' :: 'x' :: hexPadded 2 n

/-- Octets between quotation marks. -/
def quoteOctets (bytes : List Nat) : List Char :=
  let mark := quoteMark (bytes.map Char.ofNat)
  'b' :: mark :: bytes.flatMap (quoteOctet mark) ++ [mark]

/-- The kind of an address and its text. -/
def addressLiteral (a : IpAddress) : String :=
  "IPv" ++ toString a.version ++ "Address(" ++ quoted a.text ++ ")"

/-- An integer in decimal, unless it has too many digits. -/
def integerLiteral (n : Int) : Except TextFault String :=
  if (decimal n.natAbs).length ≤ maxIntegerDigits then .ok (toString n) else .error .tooManyDigits

mutual

/-- A value written so that its kind shows. -/
def literal : Value → Except TextFault String
  | .null => .ok "None"
  | .bool b => .ok (if b then "True" else "False")
  | .int n => integerLiteral n
  | .real x => .ok x.text
  | .text s => .ok (quoted s)
  | .octets isMutable bytes =>
    let body := String.ofList (quoteOctets bytes)
    .ok (if isMutable then "bytearray(" ++ body ++ ")" else body)
  | .address a => .ok (addressLiteral a)
  | .moment m => .ok m.literal
  | .list xs => (literals xs).map fun ls => "[" ++ String.intercalate ", " ls ++ "]"
  | .table entries => (entryLiterals entries).map fun ls => "\x7b" ++ String.intercalate ", " ls ++ "\x7d"

/-- The literals of some values. -/
def literals : List Value → Except TextFault (List String)
  | [] => .ok []
  | v :: vs => (literal v).bind fun l => (literals vs).map (l :: ·)

/-- The literals of the keys and values of a table. -/
def entryLiterals : List (String × Value) → Except TextFault (List String)
  | [] => .ok []
  | (k, v) :: r => (literal v).bind fun l => (entryLiterals r).map ((quoted k ++ ": " ++ l) :: ·)

end

/-- A value as text: a text is shown bare. -/
def display : Value → Except TextFault String
  | .text s => .ok s
  | .address a => .ok a.text
  | .moment m => m.text
  | v => literal v

/-- A port as text. One that is a number is written whatever its length. -/
def portText : Value → Except TextFault String
  | .int n => .ok (toString n)
  | v => v.display

end Endpoint.Value
