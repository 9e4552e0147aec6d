import Endpoint.Session.Basic

/-!
# Steps on the network

Sockets are opened on a host and a port, and closed at once or kept open under a name. Free ports are looked for by
opening sockets that are closed at once.
-/

namespace Endpoint.Session

/-- Opens a socket; it is kept under a name, or closed if there is none. -/
def openSocket (s : Session) (host : String) (port : Int) (backlog : Value) (keep : Option String) : Outcome Socket :=
  let o := s.machine.network.bindPort host port backlog
  match o.result, keep with
  | .error e, _ => ⟨.error (.socket e), s.withNetwork o.network, "", o.events⟩
  | .ok sock, some name =>
    let kept := (name, sock) :: s.sockets.filter (·.1 ≠ name)
    ⟨.ok sock, { s.withNetwork o.network with sockets := kept }, "", o.events⟩
  | .ok sock, none =>
    let closed := o.network.close sock
    ⟨.ok sock, s.withNetwork closed.1, "", o.events ++ closed.2⟩

/-- Closes the socket under a name. -/
def closeSocket (s : Session) (name : String) : Outcome Unit :=
  match s.sockets.lookup name with
  | none => s.quiet (.error (.notKept name))
  | some sock =>
    let closed := s.machine.network.close sock
    ⟨.ok (), { s.withNetwork closed.1 with sockets := s.sockets.filter (·.1 ≠ name) }, "", closed.2⟩

/-- Looks for the first port from `start` on and below `stop` that is free. -/
def findPort (s : Session) (start stop : Int) (host : String) : Outcome Int :=
  let p := s.machine.network.findPort start stop host
  let result := match p.result with
    | .ok port => .ok port
    | .error e => .error (.exhausted e)
  ⟨result, s.withNetwork p.network, s.machine.logText p.records, p.events⟩

/-- Asks for any port that is free. -/
def anyPort (s : Session) (host : String) : Outcome Int :=
  let p := s.machine.network.anyPort host
  let result := match p.result with
    | .ok port => .ok port
    | .error e => .error (.socket e)
  ⟨result, s.withNetwork p.network, s.machine.logText p.records, p.events⟩

end Endpoint.Session
