import Endpoint.Address.Reading

/-!
# A network to bind sockets in

A network says which ports, hosts and families cannot be used, and which ports are held by sockets that listen.
`bindPort` opens a listening socket, and reports the calls that it makes.
-/

namespace Endpoint

/-- The family of a socket. -/
inductive Family where
  | inet
  | inet6
  deriving DecidableEq, Repr

/-- The name of a family. -/
def Family.name : Family → String
  | .inet => "AF_INET"
  | .inet6 => "AF_INET6"

/-- Why a socket cannot be opened. -/
inductive SocketError where
  /-- The port is not within 0 to 65535. -/
  | portOutOfRange
  /-- The system's code of a failure. -/
  | system (errno : Nat)
  /-- The resolver's code of a failure, which is negative. -/
  | resolver (code : Int)
  deriving DecidableEq, Repr

namespace SocketError

/-- The system's text for a code. -/
def systemText (errno : Nat) : String :=
  if errno = 13 then "Permission denied"
  else if errno = 97 then "Address family not supported by protocol"
  else if errno = 98 then "Address already in use"
  else if errno = 99 then "Cannot assign requested address"
  else "Unknown error " ++ toString errno

/-- The wording of a failure. -/
def message : SocketError → String
  | .portOutOfRange => "bind(): port must be 0-65535."
  | .system e => "[Errno " ++ toString e ++ "] " ++ systemText e
  | .resolver e => "[Errno " ++ toString e ++ "] Name or service not known"

/-- The failure with a code: positive codes are the system's, the others the resolver's. -/
def ofCode (code : Int) : SocketError :=
  if 0 < code then .system code.toNat else .resolver code

/-- Whether the failure is the system's or the resolver's, after which a socket is closed. -/
def isOperational : SocketError → Bool
  | .portOutOfRange => false
  | _ => true

end SocketError

/-- A call made on a socket. -/
inductive SocketEvent where
  | construct (family : Family)
  | reuseAddress (value : Nat)
  | setBlocking (blocking : Bool)
  | bind (family : Family) (host : String) (port : Int)
  | listen (backlog : Value)
  /-- The port is known if the socket was bound. -/
  | close (port : Option Int)

/-- A socket that listens, with the host and the port of its name. -/
structure Socket where
  family : Family
  host : String
  port : Int
  deriving DecidableEq, Repr

/-- What can be bound, and what is held. -/
structure Network where
  /-- Ports that cannot be bound. -/
  busy : List Int
  /-- Ports that can be bound but not listened on. -/
  listenBusy : List Int
  /-- Hosts that cannot be bound, with the code of the failure. -/
  badHosts : List (String × Int)
  /-- Families without sockets. -/
  noFamily : List Family
  /-- The host in a socket's name, where it is not the one that was bound. -/
  names : List (String × String)
  /-- The port given to the next socket that asks for any. -/
  ephemeral : Int
  /-- Ports of sockets that listen. -/
  held : List Int
  deriving DecidableEq, Repr

namespace Network

/-- A network where everything is free. -/
def idle : Network := ⟨[], [], [], [], [], 40000, []⟩

/-- The network with a port held. -/
def hold (n : Network) (port : Int) : Network :=
  { n with held := if port ∈ n.held then n.held else port :: n.held }

/-- The network with a port no longer held. -/
def release (n : Network) (port : Int) : Network :=
  { n with held := n.held.filter (· ≠ port) }

/-- The host in the name of a socket bound to a host. -/
def nameOf (n : Network) (host : String) : String :=
  (n.names.lookup host).getD host

/-- The port that a socket gets when it is bound, and the network after that. Port 0 asks for the next ephemeral one. -/
def bind (n : Network) (host : String) (port : Int) : Except SocketError (Int × Network) :=
  if port < 0 ∨ 65535 < port then .error .portOutOfRange
  else match n.badHosts.lookup host with
    | some code => .error (.ofCode code)
    | none =>
      if port ∈ n.busy ∨ port ∈ n.held then .error (.system 98)
      else if port = 0 then .ok (n.ephemeral, { n with ephemeral := n.ephemeral + 1 })
      else .ok (port, n)

/-- What comes of opening a socket: the socket or a failure, the network after that, and the calls made. -/
structure Opening where
  result : Except SocketError Socket
  network : Network
  events : List SocketEvent

/-- A host without blanks around it and one pair of brackets. -/
def bareHost (host : String) : String :=
  String.ofList (unbracket (Text.strip host.toList))

/-- The family of a bare host: version 6 for its literals, version 4 for all else. -/
def familyOf (host : String) : Family :=
  match IpAddress.ofText host with
  | .ok (.v6 _ _) => .inet6
  | _ => .inet

/-- Opens a socket that listens on a host and a port. A failure of the system closes it again. -/
def bindPort (n : Network) (host : String) (port : Int) (backlog : Value) : Opening :=
  let bare := bareHost host
  let family := familyOf bare
  if family ∈ n.noFamily then ⟨.error (.system 97), n, [.construct family]⟩
  else
    let begun := [.construct family, .reuseAddress 1, .setBlocking false, .bind family bare port]
    match n.bind bare port with
    | .error e =>
      if e.isOperational then ⟨.error e, n, begun ++ [.close none]⟩ else ⟨.error e, n, begun⟩
    | .ok (real, n') =>
      if real ∈ n'.listenBusy then
        ⟨.error (.system 98), n'.release real, begun ++ [.listen backlog, .close (some real)]⟩
      else
        ⟨.ok ⟨family, n'.nameOf bare, real⟩, n'.hold real, begun ++ [.listen backlog]⟩

/-- The network and the calls after a socket is closed. -/
def close (n : Network) (s : Socket) : Network × List SocketEvent :=
  (n.release s.port, [.close (some s.port)])

end Network

end Endpoint
