import Endpoint.Proofs.Courses
import Endpoint.Proofs.Openings
import Endpoint.Proofs.Scan

/-!
# What probing leaves behind

Probes and commands open sockets only to close them again. A network is compared with the one it was: it is *restored* if
only the next ephemeral port may have gone up (`Network.Restored`), and *opened* if on top of that the port of one socket
is held that was not held before (`Network.Opened`).

* (step) Opening a socket opens a network or restores it, if no port is held that could still be given for port 0:
  `bindPort_restores`. Closing the socket restores it (`Opened.close`).
* (run) Every refusal in a scan restores the network, so a scan opens the network if a socket is bound and else restores
  it: `Restores.scan`.
* (whole) Probes and commands close what their scan has opened: `probes_restore_network`.
-/

namespace Endpoint

namespace Network

variable {n : Network}

/-- Whether no port is held that could still be given for port 0. -/
def Fresh (n : Network) : Prop :=
  ∀ p ∈ n.held, p < n.ephemeral

/-- Whether a network is as it was, but for the next ephemeral port, which may have gone up. -/
def Restored (n n' : Network) : Prop :=
  ∃ e, n.ephemeral ≤ e ∧ n' = { n with ephemeral := e }

/-- Whether a network is as it was, but for the next ephemeral port and for the port of a socket, which is held and was
not held before. -/
def Opened (n : Network) (s : Socket) (n' : Network) : Prop :=
  ∃ m, n.Restored m ∧ s.port ∉ n.held ∧ n' = m.hold s.port

theorem Restored.refl (n : Network) : n.Restored n :=
  ⟨n.ephemeral, Int.le_refl _, rfl⟩

theorem Restored.trans {n m n' : Network} (h : n.Restored m) (h' : m.Restored n') : n.Restored n' := by
  obtain ⟨e, he, rfl⟩ := h
  obtain ⟨e', he', rfl⟩ := h'
  exact ⟨e', Int.le_trans he he', rfl⟩

private theorem Restored.held_eq {n n' : Network} (h : n.Restored n') : n'.held = n.held := by
  obtain ⟨e, -, rfl⟩ := h
  rfl

private theorem Fresh.of_restored {n n' : Network} (hn : n.Fresh) (h : n.Restored n') : n'.Fresh := by
  obtain ⟨e, he, rfl⟩ := h
  intro p hp
  exact Int.lt_of_lt_of_le (hn p hp) he

private theorem Opened.of_restored {n m n' : Network} {s : Socket} (h : n.Restored m) (h' : m.Opened s n') :
    n.Opened s n' := by
  obtain ⟨m', hm', hport, rfl⟩ := h'
  exact ⟨m', h.trans hm', h.held_eq ▸ hport, rfl⟩

/-! ### Sockets -/

theorem release_of_not_mem {p : Int} (h : p ∉ n.held) : n.release p = n := by
  have hheld : n.held.filter (· ≠ p) = n.held := held_release_of_not_mem h
  rw [release, hheld]

private theorem release_hold {p : Int} (h : p ∉ n.held) : (n.hold p).release p = n := by
  have hheld : (p :: n.held).filter (· ≠ p) = n.held := by
    rw [List.filter_cons_of_neg (by simp)]
    exact held_release_of_not_mem h
  rw [hold, if_neg h, release, hheld]

/-- A socket that is opened and closed again leaves nothing behind. -/
theorem Opened.close {n n' : Network} {s : Socket} (h : n.Opened s n') : n.Restored (n'.close s).1 := by
  obtain ⟨m, hm, hport, rfl⟩ := h
  have hclosed : ((m.hold s.port).close s).1 = m := release_hold (hm.held_eq ▸ hport)
  rw [hclosed]
  exact hm

theorem restored_of_bind {host : String} {port real : Int} {n' : Network} (h : n.bind host port = .ok (real, n')) :
    n.Restored n' := by
  unfold Network.bind at h
  split at h
  · cases h
  split at h
  · cases h
  split at h
  · cases h
  split at h
  · cases h
    exact ⟨n.ephemeral + 1, by omega, rfl⟩
  · cases h
    exact .refl n

/-- Opening a socket holds its port, which was not held before, or leaves nothing behind. -/
private theorem bindPort_restores (hn : n.Fresh) (host : String) (port : Int) (backlog : Value) :
    let o := n.bindPort host port backlog
    match o.result with
    | .ok s => n.Opened s o.network
    | .error _ => n.Restored o.network := by
  have hfree : ∀ {real n'}, n.bind (bareHost host) port = .ok (real, n') → real ∉ n'.held := by
    intro real n' hbind
    refine not_held_of_bind hbind ?_
    intro _ hheld
    exact absurd (hn _ hheld) (by omega)
  have hending := bindPort_ending n host port backlog
  intro o
  change Ending n host port backlog o at hending
  clear_value o
  cases hending with
  | noSocket => exact .refl n
  | outOfRange => exact .refl n
  | notBound => exact .refl n
  | notListening real n' _ hbind =>
    have hrestored : n'.release real = n' := release_of_not_mem (hfree hbind)
    dsimp only
    rw [hrestored]
    exact restored_of_bind hbind
  | listening real n' _ hbind =>
    have hrestored := restored_of_bind hbind
    exact ⟨n', hrestored, hrestored.held_eq ▸ hfree hbind, rfl⟩

/-! ### Probes -/

/-- Whether attempts leave a network as it was, but for the socket that they open. -/
def Restores (n : Network) (factory : Factory Traced Socket Empty) (address : String) : Prop :=
  Binder.Carries factory address (fun t => n.Restored t.network) fun v t => match v with
    | .bound s => n.Opened s t.network
    | .exhausted _ => n.Restored t.network

private theorem restores_socketFactory (hn : n.Fresh) (backlog : Value) (host : String) :
    n.Restores (socketFactory backlog) host := by
  intro port t ht
  have hopening := bindPort_restores (hn.of_restored ht) host port backlog
  unfold socketFactory
  dsimp only at hopening ⊢
  cases hresult : (t.network.bindPort host port backlog).result with
  | ok s =>
    rw [hresult] at hopening
    exact hopening.of_restored ht
  | error e =>
    rw [hresult] at hopening
    exact ht.trans hopening

theorem Restores.scan {factory : Factory Traced Socket Empty} {address : String} (h : n.Restores factory address)
    (c : Candidates) :
    let run := Binder.scan address factory c ⟨n, []⟩
    match run.verdict with
    | .bound s => n.Opened s run.state.network
    | .exhausted _ => n.Restored run.state.network :=
  Binder.scan_carries h (fun _ _ ht => ht) c ⟨n, []⟩ (.refl n)

private theorem findPort_restores (hn : n.Fresh) (start stop : Int) (host : String) :
    n.Restored (n.findPort start stop host).network := by
  have hscan := (restores_socketFactory hn defaultBacklog host).scan (.between start stop)
  unfold findPort
  dsimp only at hscan ⊢
  split
  · next s hv =>
    rw [hv] at hscan
    exact hscan.close
  · next e hv =>
    rw [hv] at hscan
    exact hscan

private theorem anyPort_restores (hn : n.Fresh) (host : String) : n.Restored (n.anyPort host).network := by
  have hopening := bindPort_restores hn host 0 defaultBacklog
  unfold anyPort
  dsimp only at hopening ⊢
  split
  · next s hresult =>
    rw [hresult] at hopening
    exact hopening.close
  · next e hresult =>
    rw [hresult] at hopening
    exact hopening

end Network

/-! ### Commands -/

namespace Command

open Network

variable {m : Machine}

private theorem restores_hostFactory {n : Network} (hn : n.Fresh) (host backlog : Value) (address : String) :
    n.Restores (hostFactory host backlog) address := by
  unfold hostFactory
  split
  · exact restores_socketFactory hn backlog address
  -- A host that is no text is refused without a socket.
  · exact fun _ _ ht => ht

private theorem bindFirstOn_restores (hm : m.network.Fresh) (address : String) (host backlog : Value)
    (rs : List PortRange) :
    m.network.Restored (bindFirstOn m address host backlog rs).machine.network := by
  have hscan := (restores_hostFactory hm host backlog address).scan (.ofRanges rs)
  unfold bindFirstOn
  dsimp only at hscan ⊢
  split
  · next e hv =>
    rw [hv] at hscan
    exact hscan
  · next s hv =>
    rw [hv] at hscan
    split
    · exact hscan.close
    · exact hscan.close

private theorem bindFirst_restores (hm : m.network.Fresh) (host backlog : Value) (rs : List PortRange) :
    m.network.Restored (bindFirst m host backlog rs).machine.network := by
  unfold bindFirst
  split
  · exact bindFirstOn_restores hm _ host backlog rs
  · exact .refl m.network

theorem network_of_getConfig {m' : Machine} {r : Except Config.LoadError (Nat × Config)} (h : m.getConfig = (r, m')) :
    m'.network = m.network := by
  obtain ⟨cache, rfl⟩ := Machine.exists_eq_of_getConfig h
  rfl

private theorem runBind_restores (hm : m.network.Fresh) (spec host : Option String) :
    m.network.Restored (runBind m spec host).machine.network := by
  unfold runBind
  split
  · next e m' hget => exact network_of_getConfig hget ▸ .refl m'.network
  · next k config m' hget =>
    have hsame := network_of_getConfig hget
    rw [← hsame] at hm ⊢
    split
    · exact .refl m'.network
    · exact .refl m'.network
    · exact bindFirst_restores hm _ _ _

private theorem runSubcommand_restores (hm : m.network.Fresh) (c : Subcommand) (args : List String) :
    m.network.Restored (runSubcommand m c args).machine.network := by
  rcases runSubcommand_cases m c args with hsaid | ⟨spec, host, -, hrun⟩
  · rw [hsaid.machine]
    exact .refl m.network
  · rw [hrun]
    exact runBind_restores hm _ _

private theorem network_of_logLevel {verbose : Bool} {m' : Machine} {r : Except Config.LoadError Value}
    (h : logLevel m verbose = (r, m')) : m'.network = m.network := by
  unfold logLevel at h
  split at h
  · cases h
    rfl
  · split at h
    · next hget =>
      cases h
      exact network_of_getConfig hget
    · next hget =>
      cases h
      exact network_of_getConfig hget

private theorem runLogged_restores (hm : m.network.Fresh) (verbose : Bool) (c : Subcommand) (args : List String) :
    m.network.Restored (runLogged m verbose c args).machine.network := by
  unfold runLogged
  split
  · next e m' hlevel => exact network_of_logLevel hlevel ▸ .refl m'.network
  · next level m' hlevel =>
    rw [← network_of_logLevel hlevel] at hm ⊢
    split
    · exact .refl m'.network
    · next logging _ => exact runSubcommand_restores (m := { m' with logging := logging }) hm c args

/-- Whatever command is run, and however it ends, the network is restored. -/
private theorem run_restores (hm : m.network.Fresh) (args : List String) :
    m.network.Restored (run m args).machine.network := by
  have hterminal : m.network.Restored (runOnTerminal m args).machine.network := by
    rcases runOnTerminal_cases m args with hsaid | ⟨verbose, c, rest, hrun⟩
    · rw [hsaid.machine]
      exact .refl m.network
    · rw [hrun]
      exact runLogged_restores hm verbose c rest
  exact hterminal

end Command

namespace Network

/-- Probing for ports restores a network in which no port is held that could still be given for port 0, whether a port is
found or not. So does every command. Opening a socket holds exactly the port of its name, which was not held before, and
holds nothing if it fails; all else is restored. -/
theorem probes_restore_network (n : Network) (hn : ∀ p ∈ n.held, p < n.ephemeral) :
    (∀ host, n.Restored (n.anyPort host).network) ∧
    (∀ start stop host, n.Restored (n.findPort start stop host).network) ∧
    (∀ (m : Machine) (args : List String), m.network = n → n.Restored (Command.run m args).machine.network) ∧
    ∀ host port backlog, match (n.bindPort host port backlog).result with
      | .ok s => s.port ∉ n.held ∧ (∀ q, q ∈ (n.bindPort host port backlog).network.held ↔ q = s.port ∨ q ∈ n.held) ∧
          n.Restored { (n.bindPort host port backlog).network with held := n.held }
      | .error _ => n.Restored (n.bindPort host port backlog).network := by
  refine ⟨anyPort_restores hn, findPort_restores hn, ?_, ?_⟩
  · rintro m args rfl
    exact Command.run_restores hn args
  · intro host port backlog
    have hopening := bindPort_restores hn host port backlog
    dsimp only at hopening
    split
    · next s hs =>
      rw [hs] at hopening
      obtain ⟨m, ⟨e, he, rfl⟩, hport, hnetwork⟩ := hopening
      rw [hnetwork, hold, if_neg hport]
      exact ⟨hport, by simp, e, he, rfl⟩
    · next e he =>
      rw [he] at hopening
      exact hopening

/-- Where one port is busy and the port before the next ephemeral one is held, a probe gives that one and restores the
network, the busy port leaves nothing behind, and the next one is held after it is opened. -/
theorem probes_restore_network_busy :
    let n : Network := { idle with busy := [20000], held := [39999] }
    let o := n.bindPort "::1" 20001 (.int 5)
    (∀ p ∈ n.held, p < n.ephemeral) ∧
      (n.anyPort "::1").result = .ok 40000 ∧ n.Restored (n.anyPort "::1").network ∧
      n.Restored (n.findPort 20000 20003 "::1").network ∧
      n.Restored (n.bindPort "::1" 20000 (.int 5)).network ∧
      o.result = .ok ⟨.inet6, "::1", 20001⟩ ∧ ∀ q, q ∈ o.network.held ↔ q = 20001 ∨ q = 39999 := by
  intro n o
  have hheld : ∀ p ∈ n.held, p < n.ephemeral := by decide
  obtain ⟨hany, hfind, -, hbind⟩ := probes_restore_network n hheld
  have hbusy : (n.bindPort "::1" 20000 (.int 5)).result = .error (.system 98) := rfl
  have hfree : o.result = .ok ⟨.inet6, "::1", 20001⟩ := rfl
  have hrestored := hbind "::1" 20000 (.int 5)
  rw [hbusy] at hrestored
  have hopened : match o.result with
      | .ok s => s.port ∉ n.held ∧ (∀ q, q ∈ o.network.held ↔ q = s.port ∨ q ∈ n.held) ∧
          n.Restored { o.network with held := n.held }
      | .error _ => n.Restored o.network := hbind "::1" 20001 (.int 5)
  rw [hfree] at hopened
  refine ⟨hheld, rfl, hany "::1", hfind 20000 20003 "::1", hrestored, hfree, ?_⟩
  simpa [n] using hopened.2.1

end Network

end Endpoint
