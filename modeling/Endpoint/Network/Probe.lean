import Endpoint.Binder
import Endpoint.Network.Basic

/-!
# Probing for free ports

`findPort` looks for the first port of an interval that can be bound, and `anyPort` asks for any free one. Both close
the socket they open.
-/

namespace Endpoint.Network

/-- A network in the course of a scan, with the calls made so far, the latest first. -/
structure Traced where
  network : Network
  events : List SocketEvent

/-- Tries ports by opening a socket on a host; every failure to do so is a refusal. -/
def socketFactory (backlog : Value) : Factory Traced Socket Empty := fun host port t =>
  let o := t.network.bindPort host port backlog
  let t' : Traced := ⟨o.network, o.events.reverse ++ t.events⟩
  match o.result with
  | .ok s => (.bound s, t')
  | .error e => (.refused e.message, t')

/-- What comes of a probe: a port or a failure, the network, the calls made, and the records for the log. -/
structure Probe (ε : Type) where
  result : Except ε Int
  network : Network
  events : List SocketEvent
  records : List Log.Record

/-- The backlog of a socket unless another one is asked for. -/
def defaultBacklog : Value := .int 64

/-- The host that ports are looked for on unless another one is named. -/
def defaultHost : String := "127.0.0.1"

/-- Where a search for a port begins unless it is said. -/
def defaultStart : Int := 20000

/-- Where a search for a port ends unless it is said. -/
def defaultStop : Int := 30000

/-- The first port from `start` on and below `stop` that can be bound. -/
def findPort (n : Network) (start stop : Int) (host : String) : Probe PortsExhausted :=
  let run := Binder.scan host (socketFactory defaultBacklog) (.between start stop) ⟨n, []⟩
  let t := run.state
  let events := t.events.reverse
  match run.verdict with
  | .bound s => ⟨.ok s.port, (t.network.close s).1, events ++ (t.network.close s).2, run.records⟩
  | .exhausted e => ⟨.error e, t.network, events, run.records⟩

/-- A port that is free. -/
def anyPort (n : Network) (host : String) : Probe SocketError :=
  let o := n.bindPort host 0 defaultBacklog
  match o.result with
  | .ok s => ⟨.ok s.port, (o.network.close s).1, o.events ++ (o.network.close s).2, []⟩
  | .error e => ⟨.error e, o.network, o.events, []⟩

end Endpoint.Network
