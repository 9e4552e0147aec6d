import Mathlib.Data.Int.Range
import Endpoint.Proofs.Probing

/-!
# The first port that can be opened

What a probe finds in an interval of ports, compared with what can be opened in the network it begins with
(`Network.CanOpen`).

* (step) What comes of opening a socket is told by the network alone (`result_bindPort`), and the refusal of a port
  changes it for no other port (`result_bindPort_of_ne`).
* (run) So a probe fails if no port of the interval can be opened, and else gives the port of the socket that the first
  such port is opened with: `findPort_spec`.
* (whole) That is the first such port itself, unless it is port 0, for which a socket gets another one:
  `findPort_finds_first_iff`, `findPort_leaves_interval`.
-/

namespace Endpoint.Network

variable {n : Network} {host : String} {port : Int} {backlog : Value}

/-! ### Openings one after the other -/

/-- The port of a socket that is bound to a port: the next ephemeral one for port 0. -/
def givenPort (n : Network) (port : Int) : Int :=
  if port = 0 then n.ephemeral else port

/-- Whether a port is in use: it is busy or held, or the socket that is bound to it cannot listen. -/
def Taken (n : Network) (port : Int) : Prop :=
  port ∈ n.busy ∨ port ∈ n.held ∨ n.givenPort port ∈ n.listenBusy

instance (n : Network) (port : Int) : Decidable (n.Taken port) :=
  inferInstanceAs (Decidable (_ ∨ _ ∨ _))

/-- What comes of opening a socket depends on the family, the host, and whether the port is taken. -/
private theorem result_bindPort (n : Network) (host : String) (port : Int) (backlog : Value) :
    (n.bindPort host port backlog).result =
      if socketFamily host ∈ n.noFamily then .error (.system 97)
      else if ¬InRange port then .error .portOutOfRange
      else match n.badHosts.lookup (bareHost host) with
        | some code => .error (.ofCode code)
        | none =>
          if n.Taken port then .error (.system 98)
          else .ok ⟨socketFamily host, n.nameOf (bareHost host), n.givenPort port⟩ := by
  unfold bindPort
  dsimp only
  change (if socketFamily host ∈ n.noFamily then _ else _ : Opening).result = _
  by_cases hfamily : socketFamily host ∈ n.noFamily
  · rw [if_pos hfamily, if_pos hfamily]
  rw [if_neg hfamily, if_neg hfamily]
  by_cases hport : InRange port
  · have hin : ¬(port < 0 ∨ 65535 < port) := by rwa [← not_inRange_iff, not_not]
    rw [bind, if_neg hin, if_neg (not_not_intro hport)]
    cases hhost : n.badHosts.lookup (bareHost host) with
    | some code => simp only [isOperational_ofCode, if_true]
    | none =>
      by_cases hbusy : port ∈ n.busy ∨ port ∈ n.held
      · have htaken : n.Taken port := hbusy.imp_right Or.inl
        simp only [if_pos hbusy, if_pos htaken, SocketError.isOperational, if_true]
      · have htaken : n.Taken port ↔ n.givenPort port ∈ n.listenBusy := by
          rw [not_or] at hbusy
          simp [Taken, hbusy.1, hbusy.2]
        simp only [if_neg hbusy, htaken, givenPort]
        by_cases hzero : port = 0
        · simp only [if_pos hzero]
          split <;> rfl
        · simp only [if_neg hzero]
          split <;> rfl
  · rw [bind, if_pos (not_inRange_iff.1 hport), if_pos hport]
    rfl

private theorem eq_of_bind {real : Int} {n' : Network} (h : n.bind host port = .ok (real, n')) :
    real = n.givenPort port ∧ n' = if port = 0 then { n with ephemeral := n.ephemeral + 1 } else n := by
  unfold Network.bind at h
  split at h
  · cases h
  split at h
  · cases h
  split at h
  · cases h
  split at h
  · next hzero =>
    cases h
    simp [givenPort, hzero]
  · next hzero =>
    cases h
    simp [givenPort, hzero]

private theorem result_bindPort_congr {m : Network} {q : Int} (htaken : m.Taken q ↔ n.Taken q)
    (hgiven : m.givenPort q = n.givenPort q) (hfamily : m.noFamily = n.noFamily) (hhosts : m.badHosts = n.badHosts)
    (hnames : m.names = n.names) (backlog' : Value) :
    (m.bindPort host q backlog).result = (n.bindPort host q backlog').result := by
  have hname : m.nameOf (bareHost host) = n.nameOf (bareHost host) := by rw [nameOf, nameOf, hnames]
  rw [result_bindPort, result_bindPort, hfamily, hhosts, hname, hgiven]
  simp only [htaken]

/-- Where a port given for port 0 cannot be listened on, the network does not change for any other port, though the port
given is released. -/
private theorem taken_release_ephemeral (hbusy : n.ephemeral ∈ n.listenBusy) {q : Int} (hq : q ≠ 0) :
    ({ n with ephemeral := n.ephemeral + 1 }.release n.ephemeral).Taken q ↔ n.Taken q := by
  simp only [Taken, givenPort, if_neg hq, release, List.mem_filter, decide_eq_true_eq]
  by_cases heq : q = n.ephemeral
  · subst heq
    simp [hbusy]
  · simp [heq]

/-- The refusal of a port does not change what comes of any other port. -/
private theorem result_bindPort_of_ne {e : SocketError} (h : (n.bindPort host port backlog).result = .error e) {q : Int}
    (hq : q ≠ port) (backlog' : Value) :
    ((n.bindPort host port backlog).network.bindPort host q backlog').result = (n.bindPort host q backlog').result := by
  have hending := bindPort_ending n host port backlog
  generalize n.bindPort host port backlog = o at h hending ⊢
  cases hending with
  | noSocket => rfl
  | outOfRange => rfl
  | notBound => rfl
  | listening => cases h
  | notListening real n' _ hbind hbusy =>
    obtain ⟨-, hport, -, -⟩ := bind_eq_ok hbind
    obtain ⟨rfl, rfl⟩ := eq_of_bind hbind
    dsimp only
    -- The port that was bound is released again, so nothing but the next ephemeral port can differ.
    by_cases hzero : port = 0
    · subst hzero
      have htaken := taken_release_ephemeral (n := n) hbusy hq
      have hgiven : ({ n with ephemeral := n.ephemeral + 1 }.release n.ephemeral).givenPort q = n.givenPort q := by
        rw [givenPort, givenPort, if_neg hq, if_neg hq]
      exact result_bindPort_congr htaken hgiven rfl rfl rfl backlog'
    · rw [givenPort, if_neg hzero, if_neg hzero, release_of_not_mem hport]

/-! ### Probing -/

/-- Whether a socket can be opened on a host and a port. -/
def CanOpen (n : Network) (host : String) (port : Int) : Prop :=
  ∃ s, (n.bindPort host port defaultBacklog).result = .ok s

private theorem port_of_result {s : Socket} (h : (n.bindPort host port backlog).result = .ok s) :
    s.port = n.givenPort port := by
  rw [result_bindPort] at h
  split at h
  · cases h
  split at h
  · cases h
  split at h
  · cases h
  split at h
  · cases h
  · exact (congrArg Socket.port (Except.ok.inj h)).symm

/-- To try a port is to open a socket and to take note of the calls. -/
theorem socketFactory_eq (backlog : Value) (host : String) (port : Int) (n : Network) (events : List SocketEvent) :
    socketFactory backlog host port ⟨n, events⟩ =
      (match (n.bindPort host port backlog).result with
        | .ok s => .bound s
        | .error e => .refused e.message,
        ⟨(n.bindPort host port backlog).network, (n.bindPort host port backlog).events.reverse ++ events⟩) := by
  unfold socketFactory
  dsimp only
  cases (n.bindPort host port backlog).result <;> rfl

private theorem fst_socketFactory (backlog : Value) (host : String) (port : Int) (t : Traced) :
    (socketFactory backlog host port t).1 =
      match (t.network.bindPort host port backlog).result with
      | .ok s => .bound s
      | .error e => .refused e.message :=
  congrArg Prod.fst (socketFactory_eq backlog host port t.network t.events)

private theorem network_socketFactory (backlog : Value) (host : String) (port : Int) (t : Traced) :
    (socketFactory backlog host port t).2.network = (t.network.bindPort host port backlog).network :=
  congrArg (·.2.network) (socketFactory_eq backlog host port t.network t.events)

private theorem socketFactory_eq_bound_iff {t : Traced} {s : Socket} :
    (socketFactory backlog host port t).1 = .bound s ↔ (t.network.bindPort host port backlog).result = .ok s := by
  rw [fst_socketFactory]
  cases (t.network.bindPort host port backlog).result <;> simp

private theorem isRefused_socketFactory_iff {t : Traced} :
    (socketFactory backlog host port t).1.IsRefused ↔ ∀ s, (t.network.bindPort host port backlog).result ≠ .ok s := by
  rw [fst_socketFactory]
  cases (t.network.bindPort host port backlog).result <;> simp [Attempt.IsRefused]

private theorem independent_socketFactory (backlog : Value) (host : String) :
    Binder.Independent (socketFactory backlog) host := by
  intro p t hrefused q hq
  rw [isRefused_socketFactory_iff] at hrefused
  cases herror : (t.network.bindPort host p backlog).result with
  | ok s => exact absurd herror (hrefused s)
  | error e => rw [fst_socketFactory, fst_socketFactory, network_socketFactory, result_bindPort_of_ne herror hq]

private theorem toList_between (start stop : Int) : (Candidates.between start stop).toList = Int.range start stop := by
  simp [Candidates.between, Candidates.toList, Span.toList, Int.range]

private theorem pairwise_range (start stop : Int) : (Int.range start stop).Pairwise (· < ·) := by
  rw [Int.range, List.pairwise_map]
  refine List.pairwise_lt_range.imp ?_
  intro i j hij
  omega

/-- What comes before a port in an interval is all that is below it. -/
private theorem mem_iff_of_range_eq {start stop p : Int} {pre post : List Int}
    (h : Int.range start stop = pre ++ p :: post)
    (q : Int) : q ∈ pre ↔ start ≤ q ∧ q < p := by
  have hsorted := pairwise_range start stop
  rw [h, List.pairwise_append, List.pairwise_cons] at hsorted
  obtain ⟨-, ⟨hpost, -⟩, hpre⟩ := hsorted
  have hrange : ∀ x, x ∈ pre ++ p :: post ↔ start ≤ x ∧ x < stop := by
    intro x
    rw [← h, Int.mem_range_iff]
  constructor
  · intro hq
    have hstart := ((hrange q).1 (List.mem_append_left _ hq)).1
    exact ⟨hstart, hpre q hq p (by simp)⟩
  · rintro ⟨hstart, hlt⟩
    have hp := ((hrange p).1 (by simp)).2
    have hq := (hrange q).2 ⟨hstart, by omega⟩
    rw [List.mem_append, List.mem_cons] at hq
    rcases hq with hq | rfl | hq
    · exact hq
    · omega
    · have := hpost q hq
      omega

/-- A port is the first one from `start` on and below `stop` on which a socket can be opened. -/
structure IsFirstOpen (n : Network) (host : String) (start stop port : Int) : Prop where
  start_le : start ≤ port
  lt_stop : port < stop
  canOpen : n.CanOpen host port
  not_before : ∀ q, start ≤ q → q < port → ¬n.CanOpen host q

theorem IsFirstOpen.unique {start stop p q : Int} (hp : n.IsFirstOpen host start stop p)
    (hq : n.IsFirstOpen host start stop q) : p = q := by
  have hle : ¬p < q := fun hlt => hq.not_before p hp.start_le hlt hp.canOpen
  have hge : ¬q < p := fun hlt => hp.not_before q hq.start_le hlt hq.canOpen
  omega

/-- A probe gives the port of the socket that the first port is opened with, or fails if there is none. -/
private theorem findPort_spec (n : Network) (host : String) (start stop : Int) :
    match (n.findPort start stop host).result with
    | .ok port => ∃ p, n.IsFirstOpen host start stop p ∧ port = n.givenPort p
    | .error e => (∀ q, start ≤ q → q < stop → ¬n.CanOpen host q) ∧ e = ⟨host, (stop - start).toNat⟩ := by
  have hindependent := independent_socketFactory defaultBacklog host
  have hrange := toList_between start stop
  have hnodup : (Candidates.between start stop).toList.Nodup := by
    rw [hrange]
    exact (pairwise_range start stop).imp fun h => Int.ne_of_lt h
  have hclosed : ∀ q, (socketFactory defaultBacklog host q ⟨n, []⟩).1.IsRefused → ¬n.CanOpen host q := by
    rintro q hq ⟨s, hs⟩
    exact isRefused_socketFactory_iff.1 hq s hs
  unfold findPort
  dsimp only
  cases hv : (Binder.scan host (socketFactory defaultBacklog) (.between start stop) ⟨n, []⟩).verdict with
  | bound s =>
    obtain ⟨before, p, after, hsplit, hrefused, hp⟩ := Binder.exists_first_of_scan_eq_bound hindependent hnodup hv
    rw [hrange] at hsplit
    obtain ⟨hstart, hstop⟩ := Int.mem_range_iff.1 (hsplit ▸ List.mem_append_right before List.mem_cons_self)
    have hopen : (n.bindPort host p defaultBacklog).result = .ok s := socketFactory_eq_bound_iff.1 hp
    refine ⟨p, ⟨hstart, hstop, ⟨s, hopen⟩, ?_⟩, port_of_result hopen⟩
    intro q hq hlt
    exact hclosed q (hrefused q ((mem_iff_of_range_eq hsplit q).2 ⟨hq, hlt⟩))
  | interrupted i => cases i
  | exhausted e =>
    obtain ⟨hrefused, rfl⟩ := Binder.of_scan_eq_exhausted hindependent hnodup hv
    rw [hrange] at hrefused ⊢
    refine ⟨?_, by simp [Int.range]⟩
    intro q hstart hstop
    exact hclosed q (hrefused q (Int.mem_range_iff.2 ⟨hstart, hstop⟩))

/-- The first port that can be opened decides what a probe gives. -/
private theorem IsFirstOpen.result_findPort {start stop : Int} (h : n.IsFirstOpen host start stop port) :
    (n.findPort start stop host).result = .ok (n.givenPort port) := by
  have hspec := findPort_spec n host start stop
  cases hresult : (n.findPort start stop host).result with
  | ok q =>
    rw [hresult] at hspec
    obtain ⟨p, hp, rfl⟩ := hspec
    rw [hp.unique h]
  | error e =>
    rw [hresult] at hspec
    exact absurd h.canOpen (hspec.1 port h.start_le h.lt_stop)

/-- A probe that gives a port gives the first one of its interval on which a socket can be opened, unless this is port 0
and the next ephemeral port is not. For port 0 it gives the ephemeral port, wherever the interval ends. A probe fails if
and only if no port of the interval can be opened, and tells how many ports there are. -/
theorem findPort_finds_first_iff (n : Network) (host : String) (start stop : Int) :
    (∀ p, (n.findPort start stop host).result = .ok p →
      (n.IsFirstOpen host start stop p ↔ ¬n.IsFirstOpen host start stop 0 ∨ n.ephemeral = 0)) ∧
    (n.IsFirstOpen host start stop 0 → (n.findPort start stop host).result = .ok n.ephemeral) ∧
    ((∃ e, (n.findPort start stop host).result = .error e) ↔ ∀ q, start ≤ q → q < stop → ¬n.CanOpen host q) ∧
    (∀ e, (n.findPort start stop host).result = .error e →
      e.address = host ∧ (e.attempts : Int) = max 0 (stop - start)) := by
  have hephemeral : n.IsFirstOpen host start stop 0 → (n.findPort start stop host).result = .ok n.ephemeral :=
    fun h => by rw [h.result_findPort, givenPort, if_pos rfl]
  have hspec := findPort_spec n host start stop
  cases hresult : (n.findPort start stop host).result with
  | ok port =>
    rw [hresult] at hspec hephemeral
    obtain ⟨p, hp, rfl⟩ := hspec
    have hsome : ¬∀ q, start ≤ q → q < stop → ¬n.CanOpen host q :=
      fun hnone => hnone p hp.start_le hp.lt_stop hp.canOpen
    refine ⟨?_, hephemeral, by simpa using hsome, by simp⟩
    rintro _ ⟨⟩
    by_cases hzero : p = 0
    · subst hzero
      rw [givenPort, if_pos rfl]
      constructor
      · intro h
        exact Or.inr (h.unique hp)
      · rintro (h | h)
        · exact absurd hp h
        · rwa [h]
    · rw [givenPort, if_neg hzero]
      exact iff_of_true hp (Or.inl fun h => hzero (hp.unique h))
  | error e =>
    rw [hresult] at hspec hephemeral
    obtain ⟨hnone, rfl⟩ := hspec
    refine ⟨by simp, hephemeral, by simpa using hnone, ?_⟩
    rintro _ ⟨⟩
    refine ⟨rfl, ?_⟩
    dsimp only
    omega

/-- Where port 0 and the one after it are busy, a probe that starts below 0 finds port 2. -/
theorem findPort_finds_first_busy :
    let n : Network := { idle with busy := [0, 1] }
    (n.findPort (-2) 5 "::1").result = .ok 2 ∧ ¬n.IsFirstOpen "::1" (-2) 5 0 ∧ n.IsFirstOpen "::1" (-2) 5 2 := by
  intro n
  have hclosed : ∀ q, -2 ≤ q → q < 2 → ¬n.CanOpen "::1" q := by
    rintro q hlow hhigh ⟨s, hs⟩
    obtain rfl | rfl | rfl | rfl : q = -2 ∨ q = -1 ∨ q = 0 ∨ q = 1 := by omega
    all_goals cases hs
  have hfirst : n.IsFirstOpen "::1" (-2) 5 2 := ⟨by decide, by decide, ⟨_, rfl⟩, hclosed⟩
  have hzero : ¬n.IsFirstOpen "::1" (-2) 5 0 := fun h => hclosed 0 (by decide) (by decide) h.canOpen
  have hresult : (n.findPort (-2) 5 "::1").result = .ok 2 := hfirst.result_findPort
  exact ⟨hresult, hzero, ((findPort_finds_first_iff n "::1" (-2) 5).1 2 hresult).2 (Or.inl hzero)⟩

/-- Where nothing is busy, a probe that starts at port 0 finds a port far above its interval. -/
theorem findPort_leaves_interval :
    (idle.findPort 0 10 "::1").result = .ok 40000 ∧ ¬(40000 : Int) < 10 ∧
      (idle.bindPort "::1" 0 defaultBacklog).result = .ok ⟨.inet6, "::1", 40000⟩ := by
  have hopen : (idle.bindPort "::1" 0 defaultBacklog).result = .ok ⟨.inet6, "::1", 40000⟩ := rfl
  have hfirst : idle.IsFirstOpen "::1" 0 10 0 := ⟨by decide, by decide, ⟨_, hopen⟩, by omega⟩
  exact ⟨hfirst.result_findPort, by decide, hopen⟩

end Endpoint.Network
