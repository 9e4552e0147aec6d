import Endpoint.Address.Reading
import Endpoint.Host.Hostname
import Endpoint.Host.Port

/-!
# Hosts and ports in normal form

`normalHost` writes a host in one way, without resolving it: an address of version 6 in brackets, an address of
version 4 as it is, and a hostname in lower case. `normalHostPort` adds a port, and `parseHostPort` takes such a text
apart again.
-/

namespace Endpoint

open Text

/-- The normal form of a host that is given. -/
def normalHost (s : String) : Except AddressError String :=
  let t := strip s.toList
  if t = [] then .error .hostEmpty
  else
    let u := unbracket t
    match IpAddress.readV6? u with
    | some a => .ok (String.ofList a.url)
    | none =>
      if u ≠ t then .error (.brackets s)
      else match IpAddress.readV4? t with
        | some a => .ok (String.ofList a.url)
        | none =>
          if Hostname.isValid t then .ok (String.ofList (Hostname.lower t))
          else .error (.hostname s)

/-- The normal form of a host, which has to be given. -/
def normalHost? : Option String → Except AddressError String
  | none => .error .hostMissing
  | some s => normalHost s

/-- The normal form of a host and a port. The port is looked at first. -/
def normalHostPort (host : Option String) (port : Value) : Except AddressError String :=
  if Port.isHostValue port then (normalHost? host).bind fun h => withPort h port
  else .error (.portRange port)

/-- Whether a text stands between an opening and a closing bracket. -/
def isBracketed (s : List Char) : Bool :=
  s.head? == some '[' && s.getLast? == some ']'

/-- One to five ASCII digits. -/
def isPortText (s : List Char) : Bool :=
  isDecimal s && s.length ≤ 5

/-- The host, in normal form but without brackets, and the port of a text. -/
def parseHostPort (s : String) : Except AddressError (String × Nat) :=
  match cutLast ':' (strip s.toList) with
  | none => .error (.noPort s)
  | some (host, port) =>
    if host = [] then .error (.noPort s)
    else if ':' ∈ host ∧ isBracketed host = false then .error (.unbracketed s)
    else if isPortText port = false then .error (.portDigits s)
    else if Port.max < decimalValue port then .error (.portRange (.int (decimalValue port)))
    else (normalHost (String.ofList host)).map fun h =>
      (String.ofList (unbracket h.toList), decimalValue port)

/-- The first label of a name that is given and not empty. -/
def hostnameOf (name : Option String) : Except AddressError String :=
  match name with
  | none => .error .nameEmpty
  | some s => if s.toList = [] then .error .nameEmpty else .ok (String.ofList (Hostname.firstLabel s.toList))

/-- The address that binds on every interface. -/
def wildcardAddress (preferV6 : Bool) : String :=
  if preferV6 then "::" else "0.0.0.0"

end Endpoint
