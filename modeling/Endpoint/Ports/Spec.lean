import Endpoint.Host.Port
import Endpoint.Text.Blank
import Endpoint.Text.Numeral
import Endpoint.Text.Quoted
import Endpoint.Text.Split

/-!
# Port specifications

A specification such as `50000-50050, 51234` is a list of tokens between commas. A token is a port or two ports
with a hyphen between them, each of one to five digits, with blanks allowed around each port. The whole text is
checked before any port is used.
-/

namespace Endpoint

open Text

/-- The ports from `low` to `high`, both included. -/
structure PortRange where
  low : Nat
  high : Nat
  low_le_high : low ≤ high
  high_le_max : high ≤ Port.max
  deriving DecidableEq

namespace PortRange

/-- The number of ports in a range. -/
def size (r : PortRange) : Nat :=
  r.high - r.low + 1

/-- The ports in a range, in ascending order. -/
def ports (r : PortRange) : List Nat :=
  List.range' r.low r.size

end PortRange

/-- Why a specification is refused. -/
inductive PortSpecError where
  | missing
  /-- A token that is neither a port nor two ports with a hyphen between them. -/
  | token (token spec : String)
  /-- A range whose first port is above its last one. -/
  | descending (low high : Nat)
  /-- A port above the greatest one. -/
  | tooHigh (port : Nat)
  deriving DecidableEq

/-- The wording of a refusal. -/
def PortSpecError.message : PortSpecError → String
  | .missing => "Port range must not be None"
  | .token t s => "Invalid port range token " ++ quoted t ++ " in " ++ quoted s
  | .descending low high => "Port range " ++ toString low ++ "-" ++ toString high ++ " is descending"
  | .tooHigh port => "Port " ++ toString port ++ " exceeds " ++ toString Port.max

namespace PortSpec

/-- The number in one to five digits with blanks around them. -/
def bound? (s : List Char) : Option Nat :=
  let t := strip s
  if isDecimal t ∧ t.length ≤ 5 then some (decimalValue t) else none

/-- The two ends of the range in a token; a single port is both. -/
def bounds? (token : List Char) : Option (Nat × Nat) :=
  match cutFirst '-' token with
  | (a, none) => (bound? a).map fun n => (n, n)
  | (a, some b) => (bound? a).bind fun low => (bound? b).map fun high => (low, high)

/-- The range in a token of a specification. -/
def range (spec : String) (token : List Char) : Except PortSpecError PortRange :=
  match bounds? token with
  | none => .error (.token (String.ofList (strip token)) spec)
  | some (low, high) =>
    if h : low ≤ high then
      if h' : high ≤ Port.max then .ok ⟨low, high, h, h'⟩
      else .error (.tooHigh high)
    else .error (.descending low high)

/-- The ranges in the tokens of a specification, up to the first token that is refused. -/
def ranges (spec : String) : List (List Char) → Except PortSpecError (List PortRange)
  | [] => .ok []
  | t :: ts => match range spec t with
    | .error e => .error e
    | .ok r => (ranges spec ts).map (r :: ·)

/-- The ranges of a specification, in the order they are written. -/
def parse (spec : String) : Except PortSpecError (List PortRange) :=
  ranges spec (splitOn ',' spec.toList)

/-- The ranges of a specification, which has to be given. -/
def parse? : Option String → Except PortSpecError (List PortRange)
  | none => .error .missing
  | some s => parse s

/-- The number of ports in some ranges, counted with repetitions. -/
def size (rs : List PortRange) : Nat :=
  rs.foldr (fun r n => r.size + n) 0

/-- The number of ports that a specification stands for. -/
def count (spec : Option String) : Except PortSpecError Nat :=
  (parse? spec).map size

/-- The ports in some ranges, in the order of the ranges, with repetitions. -/
def expand (rs : List PortRange) : List Nat :=
  rs.flatMap PortRange.ports

theorem length_expand (rs : List PortRange) : (expand rs).length = size rs := by
  induction rs with
  | nil => rfl
  | cons r rs ih =>
    simp only [expand, size, List.flatMap_cons, List.length_append, List.foldr_cons] at ih ⊢
    rw [ih, PortRange.ports, List.length_range']

end PortSpec

end Endpoint
