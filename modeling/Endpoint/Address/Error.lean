import Endpoint.Value.Printer

/-!
# Refusals of addresses, hosts and ports
-/

namespace Endpoint

/-- Why an address, a host or a port is refused. -/
inductive AddressError where
  /-- Packed octets of a length no address has. -/
  | packedLength (length : Nat)
  /-- Brackets around something that is not an address of version 6. -/
  | brackets (text : String)
  /-- A text that is no address. -/
  | notLiteral (text : String)
  /-- A value of a kind that cannot be an address. -/
  | unsupported (kind : String)
  | hostMissing
  | hostEmpty
  /-- A host that is neither an address nor a hostname. -/
  | hostname (text : String)
  /-- A value that is no port from 0 to 65535. -/
  | portRange (port : Value)
  /-- A text without a colon, or with nothing before the last one. -/
  | noPort (text : String)
  /-- Colons in a host that is not in brackets. -/
  | unbracketed (text : String)
  /-- A port that is not written in one to five digits. -/
  | portDigits (text : String)
  | nameEmpty
  /-- A socket address without a port. -/
  | tooShort
  /-- A resolver that finds no address. -/
  | noneFound
  /-- A port that cannot be written. -/
  | unwritable (f : TextFault)

/-- The wording of a refusal. A value out of range that cannot be written is told by the failure to write it. -/
def AddressError.message : AddressError → String
  | .packedLength n => "Packed address must be 4 or 16 bytes, got " ++ toString n
  | .brackets s => "Brackets are only allowed around IPv6: " ++ Text.quoted s
  | .notLiteral s => "Not an IP address literal: " ++ Text.quoted s
  | .unsupported kind => "Unsupported address type: " ++ kind
  | .hostMissing => "Host must not be None"
  | .hostEmpty => "Host must not be empty"
  | .hostname s => "Invalid hostname: " ++ Text.quoted s
  | .portRange port => match port.literal with
    | .ok s => "Port is not within the valid range: " ++ s
    | .error f => f.message
  | .noPort s => "Expected host:port, got " ++ Text.quoted s
  | .unbracketed s => "IPv6 addresses must be bracketed: " ++ Text.quoted s
  | .portDigits s => "Invalid port in " ++ Text.quoted s
  | .nameEmpty => "fqdn must not be empty"
  | .tooShort => "tuple index out of range"
  | .noneFound => "list index out of range"
  | .unwritable f => f.message

end Endpoint
