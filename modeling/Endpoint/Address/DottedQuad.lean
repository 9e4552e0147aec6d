import Endpoint.Address.Basic
import Endpoint.Text.Numeral
import Endpoint.Text.Split

/-!
# Dotted quads

The text form of an address of version 4: four decimal fields of one to three digits, none above 255 and none with
a leading zero.
-/

namespace Endpoint.DottedQuad

open Text

/-- The number in one field. -/
def field? (s : List Char) : Option Nat :=
  if isDecimal s ∧ s.length ≤ 3 ∧ (s.head? = some '0' → s.length = 1) ∧ decimalValue s ≤ 255 then
    some (decimalValue s)
  else none

/-- The octets a dotted quad denotes. -/
def read? (s : List Char) : Option Octets :=
  ((splitOn '.' s).mapM field?).bind (Words.ofList? 4 256)

/-- The dotted quad of four octets. -/
def write (o : Octets) : List Char :=
  joinWith '.' (o.vals.map decimal)

end Endpoint.DottedQuad
