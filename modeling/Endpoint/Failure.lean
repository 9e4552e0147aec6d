import Endpoint.Config.Load
import Endpoint.Network.Probe

/-!
# Failures

Everything that can go wrong for a caller, by its cause.
-/

namespace Endpoint

/-- What breaks a scan off. -/
structure Interruption where
  /-- Whether the program is asked to end, and not the user breaks in. -/
  isExit : Bool
  message : String
  deriving DecidableEq, Repr

/-- A failure that a caller sees. -/
inductive Failure where
  | address (e : AddressError)
  | ports (e : PortSpecError)
  | exhausted (e : PortsExhausted)
  | socket (e : SocketError)
  | settings (e : Config.LoadError)
  /-- A level of the log of a kind that cannot be one. -/
  | level (v : Value)
  /-- Settings whose ports are no text. -/
  | range (v : Value)
  /-- All ports failed on a host that cannot be written. -/
  | unwritable (f : TextFault)
  | interrupted (i : Interruption)
  /-- No file at a path. -/
  | noFile (path : String)
  /-- A name under which nothing is kept. -/
  | notKept (name : String)
  /-- A section or field that settings do not have. -/
  | noField (owner field : String)

namespace Failure

/-- Whether the value is octets, which a text cannot be looked for in. -/
def isOctets : Value → Bool
  | .octets _ _ => true
  | _ => false

/-- The wording of a failure. A level that cannot be written is told by the failure to write it. -/
def message : Failure → String
  | .address e => e.message
  | .ports e => e.message
  | .exhausted e => e.message
  | .socket e => e.message
  | .settings e => e.message
  | .level v => match v.display.bind fun _ => v.literal with
    | .ok s => "Level not an integer or a valid string: " ++ s
    | .error f => f.message
  | .range v =>
    if isOctets v then "a bytes-like object is required, not \x27str\x27"
    else "\x27" ++ v.kindName ++ "\x27 object has no attribute \x27split\x27"
  | .unwritable f => f.message
  | .interrupted i => i.message
  | .noFile path => "[Errno 2] No such file or directory: " ++ Text.quoted path
  | .notKept name => Text.quoted name
  | .noField owner field => "\x27" ++ owner ++ "\x27 object has no attribute \x27" ++ field ++ "\x27"

end Failure

end Endpoint
