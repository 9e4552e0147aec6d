import Endpoint.Value.Basic

/-!
# Ports

A server may bind to the ports 0 to 65535, where 0 asks for any free one; a client may connect to 1 to 65535. Booleans
are no ports.
-/

namespace Endpoint.Port

/-- The greatest port. -/
def max : Nat := 65535

/-- Whether an integer is a port that a server may bind to. -/
def isHostPort (n : Int) : Bool :=
  0 ≤ n && n ≤ (max : Int)

/-- Whether a value is a port that a server may bind to. -/
def isHostValue : Value → Bool
  | .int n => isHostPort n
  | _ => false

/-- Whether a value is a port that a client may connect to. -/
def isClientValue : Value → Bool
  | .int n => 1 ≤ n && n ≤ (max : Int)
  | _ => false

end Endpoint.Port
