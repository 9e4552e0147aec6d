import Endpoint.Address.Basic
import Endpoint.Decimal.Binary64
import Endpoint.Value.Moment

/-!
# Values

What a caller hands over where any value is possible, and what a configuration file holds.
-/

namespace Endpoint

/-- A value of any kind. -/
inductive Value where
  | null
  | bool (b : Bool)
  | int (n : Int)
  | real (x : Binary64)
  | text (s : String)
  | octets (mutable : Bool) (bytes : List Nat)
  | address (a : IpAddress)
  | moment (m : Moment)
  | list (xs : List Value)
  | table (entries : List (String × Value))

namespace Value

/-- The name of a value's kind, as messages give it. -/
def kindName : Value → String
  | .null => "NoneType"
  | .bool _ => "bool"
  | .int _ => "int"
  | .real _ => "float"
  | .text _ => "str"
  | .octets isMutable _ => if isMutable then "bytearray" else "bytes"
  | .address (.v4 _) => "IPv4Address"
  | .address (.v6 _ _) => "IPv6Address"
  | .moment m => m.kindName
  | .list _ => "list"
  | .table _ => "dict"

/-- Whether a value counts as true where a condition is asked: null, false, zero and what is empty do not. -/
def isTruthy : Value → Bool
  | .null => false
  | .bool b => b
  | .int n => n != 0
  | .real x => !x.isZero
  | .text s => !s.toList.isEmpty
  | .octets _ bytes => !bytes.isEmpty
  | .address _ => true
  | .moment _ => true
  | .list xs => !xs.isEmpty
  | .table entries => !entries.isEmpty

/-- The entry of a table under a key. -/
def entry? (entries : List (String × Value)) (key : String) : Option Value :=
  (entries.find? fun e => e.1 == key).map (·.2)

end Value

end Endpoint
