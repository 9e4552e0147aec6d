import Endpoint.Address.Error

/-!
# Addresses from texts and values

`IpAddress.ofText` reads a literal with blanks around it and brackets around version 6; `IpAddress.ofValue` also takes
an address as it is and 4 or 16 packed octets. `urlText` and `urlWithPort` give the form for a URL.
-/

namespace Endpoint

open Text

namespace IpAddress

/-- The address a text denotes. Version 6 is tried first, inside brackets if there are any; brackets are allowed
around nothing else. -/
def ofText (s : String) : Except AddressError IpAddress :=
  let t := strip s.toList
  let u := unbracket t
  match readV6? u with
  | some a => .ok a
  | none =>
    if u ≠ t then .error (.brackets s)
    else match readV4? u with
      | some a => .ok a
      | none => .error (.notLiteral s)

/-- The address with these packed octets. -/
def ofOctets (bytes : List Nat) : Except AddressError IpAddress :=
  match ofPacked? bytes with
  | some a => .ok a
  | none => .error (.packedLength bytes.length)

/-- The address a value stands for: an address, packed octets or a literal. -/
def ofValue : Value → Except AddressError IpAddress
  | .address a => .ok a
  | .octets _ bytes => ofOctets bytes
  | .text s => ofText s
  | v => .error (.unsupported v.kindName)

end IpAddress

/-- The form of an address for a URL. -/
def urlText (v : Value) : Except AddressError String :=
  (IpAddress.ofValue v).map fun a => String.ofList a.url

/-- A text with a port after a colon. -/
def withPort (s : String) (port : Value) : Except AddressError String :=
  match port.portText with
  | .ok p => .ok (s ++ ":" ++ p)
  | .error f => .error (.unwritable f)

/-- The form of an address and a port for a URL. The port is any value and is not checked. -/
def urlWithPort (v port : Value) : Except AddressError String :=
  (urlText v).bind fun s => withPort s port

/-- The form of a socket address for a URL: its host and its port, which come first. -/
def socketAddressUrl : List Value → Except AddressError String
  | host :: port :: _ => urlWithPort host port
  | _ => .error .tooShort

/-- The form of a resolved host and a port for a URL, by the first address that the resolver finds. -/
def resolvedUrl (addresses : List String) (port : Value) : Except AddressError String :=
  match addresses with
  | [] => .error .noneFound
  | a :: _ => urlWithPort (.text a) port

/-- The name that a resolver is asked for: without blanks and one pair of brackets. -/
def lookupName (host : String) : String :=
  String.ofList (unbracket (strip host.toList))

end Endpoint
