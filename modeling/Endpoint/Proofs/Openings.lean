import Endpoint.Network.Basic

/-!
# Openings of sockets

An attempt to open a socket comes to one of five ends (`Ending`): there is no socket of the family, the port is out of
range, the socket cannot be bound, it cannot be listened on, or it listens. `bindPort_ending` says which one, with the
network that is left and the calls that are made.

* (sockets) A socket that is constructed and cannot be opened is closed again if and only if the port is in range:
  `bindPort_closes_iff_inRange`. For a port out of range it is left open: `bindPort_leaves_socket_open`.
* (ports) In every case of failure the ports that are held stay as they are, unless the port that was given for port 0
  is held by another socket.
-/

namespace Endpoint.Network

variable {n : Network} {host : String} {port : Int} {backlog : Value}

/-- The port to bind to is one that there is. -/
def InRange (port : Int) : Prop :=
  0 ≤ port ∧ port ≤ 65535

instance (port : Int) : Decidable (InRange port) :=
  inferInstanceAs (Decidable (_ ∧ _))

theorem not_inRange_iff : ¬InRange port ↔ port < 0 ∨ 65535 < port := by
  rw [InRange]
  omega

/-! ### Binding -/

theorem isOperational_ofCode (code : Int) : (SocketError.ofCode code).isOperational = true := by
  unfold SocketError.ofCode
  split <;> rfl

/-- Binding fails for a port out of range, and else with a failure of the system or the resolver. -/
private theorem bind_eq_error {e : SocketError} (h : n.bind host port = .error e) :
    (e = .portOutOfRange ∧ ¬InRange port) ∨ (e.isOperational = true ∧ InRange port) := by
  unfold Network.bind at h
  split at h
  · next hout =>
    obtain rfl := Except.error.inj h
    exact Or.inl ⟨rfl, not_inRange_iff.2 hout⟩
  · next hin =>
    right
    have hrange : InRange port := Decidable.of_not_not fun hout => hin (not_inRange_iff.1 hout)
    split at h
    · obtain rfl := Except.error.inj h
      exact ⟨isOperational_ofCode _, hrange⟩
    · split at h
      · obtain rfl := Except.error.inj h
        exact ⟨rfl, hrange⟩
      · split at h <;> cases h

/-- A socket is bound to its port if that is free, and for port 0 to the next ephemeral one. -/
theorem bind_eq_ok {real : Int} {n' : Network} (h : n.bind host port = .ok (real, n')) :
    InRange port ∧ port ∉ n.held ∧ n'.held = n.held ∧
      (port = 0 ∧ real = n.ephemeral ∨ port ≠ 0 ∧ real = port) := by
  unfold Network.bind at h
  split at h
  · cases h
  · next hin =>
    have hrange : InRange port := Decidable.of_not_not fun hout => hin (not_inRange_iff.1 hout)
    split at h
    · cases h
    · split at h
      · cases h
      · next hfree =>
        rw [not_or] at hfree
        split at h
        · next hzero =>
          cases h
          exact ⟨hrange, hfree.2, rfl, Or.inl ⟨hzero, rfl⟩⟩
        · next hzero =>
          cases h
          exact ⟨hrange, hfree.2, rfl, Or.inr ⟨hzero, rfl⟩⟩

/-- The port that a socket is bound to was not held before, unless it was given for port 0 and held. -/
theorem not_held_of_bind {real : Int} {n' : Network} (h : n.bind host port = .ok (real, n'))
    (hfree : port = 0 → n.ephemeral ∉ n.held) : real ∉ n'.held := by
  obtain ⟨-, hport, hheld, hreal⟩ := bind_eq_ok h
  rw [hheld]
  rcases hreal with ⟨hzero, rfl⟩ | ⟨-, rfl⟩
  · exact hfree hzero
  · exact hport

theorem held_release_of_not_mem {p : Int} (h : p ∉ n.held) : (n.release p).held = n.held := by
  rw [release, List.filter_eq_self]
  intro q hq
  have hne : q ≠ p := fun hqp => h (hqp ▸ hq)
  simpa using hne

/-! ### Opening -/

/-- The family of the socket for a host. -/
def socketFamily (host : String) : Family :=
  familyOf (bareHost host)

/-- The calls on a socket up to the one that binds it. -/
def begun (host : String) (port : Int) : List SocketEvent :=
  [.construct (socketFamily host), .reuseAddress 1, .setBlocking false, .bind (socketFamily host) (bareHost host) port]

/-- The ends that an attempt to open a socket can come to. -/
inductive Ending (n : Network) (host : String) (port : Int) (backlog : Value) : Opening → Prop
  | noSocket (h : socketFamily host ∈ n.noFamily) :
    Ending n host port backlog ⟨.error (.system 97), n, [.construct (socketFamily host)]⟩
  | outOfRange (hfamily : socketFamily host ∉ n.noFamily) (hport : ¬InRange port) :
    Ending n host port backlog ⟨.error .portOutOfRange, n, begun host port⟩
  | notBound (e : SocketError) (hfamily : socketFamily host ∉ n.noFamily) (hport : InRange port)
    (he : e.isOperational = true) (hbind : n.bind (bareHost host) port = .error e) :
    Ending n host port backlog ⟨.error e, n, begun host port ++ [.close none]⟩
  | notListening (real : Int) (n' : Network) (hfamily : socketFamily host ∉ n.noFamily)
    (hbind : n.bind (bareHost host) port = .ok (real, n')) (hbusy : real ∈ n'.listenBusy) :
    Ending n host port backlog
      ⟨.error (.system 98), n'.release real, begun host port ++ [.listen backlog, .close (some real)]⟩
  | listening (real : Int) (n' : Network) (hfamily : socketFamily host ∉ n.noFamily)
    (hbind : n.bind (bareHost host) port = .ok (real, n')) (hbusy : real ∉ n'.listenBusy) :
    Ending n host port backlog
      ⟨.ok ⟨socketFamily host, n'.nameOf (bareHost host), real⟩, n'.hold real, begun host port ++ [.listen backlog]⟩

theorem bindPort_ending (n : Network) (host : String) (port : Int) (backlog : Value) :
    Ending n host port backlog (n.bindPort host port backlog) := by
  unfold bindPort
  dsimp only
  split
  · next hfamily => exact .noSocket hfamily
  · next hfamily =>
    split
    · next e hbind =>
      rcases bind_eq_error hbind with ⟨rfl, hport⟩ | ⟨he, hport⟩
      · exact .outOfRange hfamily hport
      · rw [if_pos he]
        exact .notBound e hfamily hport he hbind
    · next real n' hbind =>
      split
      · next hbusy => exact .notListening real n' hfamily hbind hbusy
      · next hbusy => exact .listening real n' hfamily hbind hbusy

/-- A socket that is constructed and cannot be opened is closed by the last call if and only if the port is in range,
and for a port out of range it is not closed at all. The ports that are held stay as they are, provided that a port
given for port 0 was not held already. -/
theorem bindPort_closes_iff_inRange (n : Network) (host : String) (port : Int) (backlog : Value) (e : SocketError)
    (hfamily : familyOf (bareHost host) ∉ n.noFamily) (herror : (n.bindPort host port backlog).result = .error e) :
    let o := n.bindPort host port backlog
    ((∃ p, o.events.getLast? = some (.close p)) ↔ 0 ≤ port ∧ port ≤ 65535) ∧
    ((∃ p, .close p ∈ o.events) ↔ 0 ≤ port ∧ port ≤ 65535) ∧
    (e = .portOutOfRange ↔ ¬(0 ≤ port ∧ port ≤ 65535)) ∧
    ((port = 0 → n.ephemeral ∉ n.held) → o.network.held = n.held) := by
  have hending := bindPort_ending n host port backlog
  intro o
  change Ending n host port backlog o at hending
  change o.result = .error e at herror
  clear_value o
  cases hending with
  | noSocket h => exact absurd h hfamily
  | outOfRange _ hport =>
    obtain rfl := Except.error.inj herror
    refine ⟨iff_of_false ?_ hport, iff_of_false ?_ hport, iff_of_true rfl hport, fun _ => rfl⟩
    · simp [begun]
    · simp [begun]
  | notBound e' _ hport he =>
    obtain rfl := Except.error.inj herror
    refine ⟨iff_of_true ⟨none, ?_⟩ hport, iff_of_true ⟨none, ?_⟩ hport, iff_of_false ?_ (not_not_intro hport),
      fun _ => rfl⟩
    · simp
    · simp
    · rintro rfl
      cases he
  | notListening real n' _ hbind hbusy =>
    obtain rfl := Except.error.inj herror
    obtain ⟨hport, -, hheld, -⟩ := bind_eq_ok hbind
    refine ⟨iff_of_true ⟨some real, ?_⟩ hport, iff_of_true ⟨some real, ?_⟩ hport,
      iff_of_false ?_ (not_not_intro hport), ?_⟩
    · simp
    · simp
    · simp
    · intro hfree
      rw [held_release_of_not_mem (not_held_of_bind hbind hfree), hheld]
  | listening real n' => cases herror

/-- A socket that cannot be listened on is closed, and port 0 holds nothing afterwards. -/
theorem bindPort_closes_ephemeral :
    let n : Network := { idle with listenBusy := [40000], held := [50000] }
    let o := n.bindPort "[::1]" 0 (.int 5)
    familyOf (bareHost "[::1]") ∉ n.noFamily ∧ o.result = .error (.system 98) ∧
      (∃ p, o.events.getLast? = some (.close p)) ∧ o.network.held = [50000] := by
  intro n o
  have hfamily : familyOf (bareHost "[::1]") ∉ n.noFamily := by decide
  have herror : o.result = .error (.system 98) := by rfl
  obtain ⟨hlast, -, -, hheld⟩ := bindPort_closes_iff_inRange n "[::1]" 0 (.int 5) (.system 98) hfamily herror
  exact ⟨hfamily, herror, hlast.2 (by decide), hheld fun _ => by decide⟩

/-- A socket for the port after the last one is constructed and never closed. -/
theorem bindPort_leaves_socket_open :
    let o := idle.bindPort "127.0.0.1" 65536 (.int 64)
    o.result = .error .portOutOfRange ∧ familyOf (bareHost "127.0.0.1") ∉ idle.noFamily ∧
      ∀ p, .close p ∉ o.events := by
  refine ⟨rfl, by decide, ?_⟩
  intro p
  have hevents : (idle.bindPort "127.0.0.1" 65536 (.int 64)).events = begun "127.0.0.1" 65536 := rfl
  rw [hevents]
  simp [begun]

end Endpoint.Network
