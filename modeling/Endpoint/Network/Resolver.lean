import Endpoint.Failure

/-!
# Resolved hosts

A resolver takes a name to its addresses in order of preference. `hostUrl` asks it for a host, and writes the first
address and a port for a URL.
-/

namespace Endpoint.Network

/-- A resolver gives the addresses of a name, or fails. -/
abbrev Resolver := String → Except SocketError (List String)

/-- The form of a host and a port for a URL. -/
def hostUrl (resolve : Resolver) (host : String) (port : Value) : Except Failure String :=
  match resolve (lookupName host) with
  | .error e => .error (.socket e)
  | .ok addresses => match resolvedUrl addresses port with
    | .error e => .error (.address e)
    | .ok s => .ok s

end Endpoint.Network
