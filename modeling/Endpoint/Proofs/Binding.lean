import Endpoint.Proofs.FirstPort
import Endpoint.Proofs.LogSetup

/-!
# The command that binds

The command `bind` opens a socket on the first port of a specification that works, writes the name of the socket, and
closes it. Its ports are tried one after the other in the network that the earlier ones leave.

* (step) A scan goes on after ports that are refused (`Network.Refuses`), in the network they leave and with the calls
  they make: `Network.exists_scanFrom_eq`.
* (run) So it ends with the socket that the first port is opened with after such ones (`Network.OpensFirst`), or without
  a socket if all ports are refused. One of the two is the case: `Network.opensFirst_or_refuses`.
* (command) A specification is refused before any socket is constructed, and else the scan decides what is written:
  `Command.bind_writes_first_opened`. No terminal shows it, so control sequences that a scope has are left out of it:
  `Command.bind_drops_control_sequences`.
-/

namespace Endpoint

namespace Network

variable {host : String} {backlog : Value}

/-- Whether no socket can be opened on any of some ports, one after the other. This leads from a network to another one,
and makes some calls. -/
inductive Refuses (host : String) (backlog : Value) : Network → List Int → Network → List SocketEvent → Prop
  | nil (n : Network) : Refuses host backlog n [] n []
  | cons {n n' : Network} {p : Int} {ps : List Int} {e : SocketError} {calls : List SocketEvent}
    (h : (n.bindPort host p backlog).result = .error e)
    (hps : Refuses host backlog (n.bindPort host p backlog).network ps n' calls) :
    Refuses host backlog n (p :: ps) n' ((n.bindPort host p backlog).events ++ calls)

/-- Whether a socket is the first one that can be opened on some ports, where all ports before its own are refused. The
calls are those up to the one that has it listen. -/
inductive OpensFirst (host : String) (backlog : Value) (n : Network) (ports : List Int) :
    Socket → List SocketEvent → Prop
  | intro {p : Int} {n' : Network} {calls : List SocketEvent} {s : Socket} (before after : List Int)
    (hports : ports = before ++ p :: after) (hbefore : Refuses host backlog n before n' calls)
    (h : (n'.bindPort host p backlog).result = .ok s) :
    OpensFirst host backlog n ports s (calls ++ (n'.bindPort host p backlog).events)

private theorem opensFirst_or_refuses (host : String) (backlog : Value) (n : Network) (ports : List Int) :
    (∃ s calls, OpensFirst host backlog n ports s calls) ∨ ∃ n' calls, Refuses host backlog n ports n' calls := by
  induction ports generalizing n with
  | nil => exact Or.inr ⟨n, [], .nil n⟩
  | cons p ps ih =>
    cases hfirst : (n.bindPort host p backlog).result with
    | ok s => exact Or.inl ⟨s, _, .intro [] ps rfl (.nil n) hfirst⟩
    | error e =>
      rcases ih (n.bindPort host p backlog).network with ⟨s, _, ⟨before, after, rfl, hbefore, h⟩⟩ | ⟨n', calls, hps⟩
      · exact Or.inl ⟨s, _, .intro (p :: before) after rfl (.cons hfirst hbefore) h⟩
      · exact Or.inr ⟨n', _, .cons hfirst hps⟩

/-! ### Scans -/

/-- A scan goes on after the ports that are refused. -/
private theorem exists_scanFrom_eq {n n' : Network} {ports more : List Int} {calls : List SocketEvent}
    (h : Refuses host backlog n ports n' calls) {c : Candidates} (hc : c.toList = ports ++ more) (tried : List Int)
    (records : List Log.Record) (events : List SocketEvent) :
    ∃ tried' records' c', c'.toList = more ∧
      Binder.scanFrom host (socketFactory backlog) tried records c ⟨n, events⟩ =
        Binder.scanFrom host (socketFactory backlog) tried' records' c' ⟨n', calls.reverse ++ events⟩ := by
  -- By induction on the refusals. The scan takes note of each of them, so its records may be any.
  induction h generalizing c tried records events with
  | nil n => exact ⟨tried, records, c, hc, rfl⟩
  | @cons n n' p ps e calls hp _ ih =>
    obtain ⟨d, hnext, hd⟩ := Candidates.exists_next?_of_toList_eq_cons hc
    rw [Binder.scanFrom_of_next? hnext, socketFactory_eq, hp]
    obtain ⟨tried', records', c', hc', hscan⟩ := ih hd (p :: tried)
      (Binder.refusedRecord p e.message :: Binder.tryingRecord host p :: records)
      ((n.bindPort host p backlog).events.reverse ++ events)
    refine ⟨tried', records', c', hc', hscan.trans ?_⟩
    rw [List.reverse_append, List.append_assoc]

private theorem scan_of_opensFirst {n : Network} {c : Candidates} {s : Socket} {calls : List SocketEvent}
    (h : OpensFirst host backlog n c.toList s calls) :
    (Binder.scan host (socketFactory backlog) c ⟨n, []⟩).verdict = .bound s ∧
      (Binder.scan host (socketFactory backlog) c ⟨n, []⟩).state.events.reverse = calls := by
  obtain ⟨before, after, hports, hbefore, hopen⟩ := h
  obtain ⟨tried, records, c', hc', hscan⟩ := exists_scanFrom_eq hbefore hports [] [] []
  obtain ⟨d, hnext, -⟩ := Candidates.exists_next?_of_toList_eq_cons hc'
  rw [Binder.scanFrom_of_next? hnext, socketFactory_eq, hopen] at hscan
  rw [Binder.scan, hscan]
  refine ⟨rfl, ?_⟩
  simp

private theorem scan_of_refuses {n n' : Network} {c : Candidates} {calls : List SocketEvent}
    (h : Refuses host backlog n c.toList n' calls) :
    (∃ e, (Binder.scan host (socketFactory backlog) c ⟨n, []⟩).verdict = .exhausted e) ∧
      (Binder.scan host (socketFactory backlog) c ⟨n, []⟩).state.events.reverse = calls := by
  obtain ⟨tried, records, c', hc', hscan⟩ := exists_scanFrom_eq h (List.append_nil _).symm [] [] []
  have hnone : c'.next? = none := Candidates.next?_of_toList_eq_nil hc'
  rw [Binder.scan, hscan, Binder.scanFrom_of_next?_eq_none hnone]
  refine ⟨⟨_, rfl⟩, ?_⟩
  simp

end Network

/-- A machine without files, on which a socket on the local host has a certain name. -/
def Machine.withName (name : String) : Machine :=
  .withoutFiles { Network.idle with names := [("127.0.0.1", name)] }

namespace Command

open Network Text

variable {m : Machine}

/-! ### Arguments -/

/-- The arguments that name a specification and a host, or leave them to the settings. The host may come first, and may
follow an equals sign. -/
def bindArguments (spec : Option String) : Option String → List (List String)
  | none => [spec.toList]
  | some host => [spec.toList ++ ["--host", host], "--host" :: host :: spec.toList,
      spec.toList ++ ["--host=" ++ host], ("--host=" ++ host) :: spec.toList]

private theorem parse_host (host : String) (rest : List String) :
    parse (Scope.command .bind).specs true ("--host" :: host :: rest) =
      (parse (Scope.command .bind).specs true rest).map (·.withOption "--host" (some host)) := by
  rw [parse]
  rfl

private theorem splitValue_append {name : List Char} (h : '=' ∉ name) (value : List Char) :
    splitValue (name ++ '=' :: value) = (String.ofList name, some (String.ofList value)) := by
  have hname : (name ++ '=' :: value).takeWhile (· != '=') = name := by
    rw [List.takeWhile_append_of_pos (by simpa using fun c hc => ne_of_mem_of_not_mem hc h),
      List.takeWhile_cons_of_neg (by decide), List.append_nil]
  simp [splitValue, hname]

private theorem parse_host_value (host : String) (rest : List String) :
    parse (Scope.command .bind).specs true (("--host=" ++ host) :: rest) =
      (parse (Scope.command .bind).specs true rest).map (·.withOption "--host" (some host)) := by
  have hchars : ("--host=" ++ host).toList = "--host".toList ++ '=' :: host.toList := by
    rw [String.toList_append]
    rfl
  have hne : "--host=" ++ host ≠ "--" := by
    intro heq
    have hlist := congrArg String.toList heq
    rw [hchars] at hlist
    cases hlist
  have hoption : isOption ("--host".toList ++ '=' :: host.toList) = true := by simp [isOption]
  have hname : '=' ∉ "--host".toList := by decide
  have hsplit := splitValue_append hname host.toList
  rw [String.ofList_toList, String.ofList_toList] at hsplit
  rw [parse]
  dsimp only
  rw [if_neg hne, hchars, if_pos hoption, hsplit]
  rfl

/-- The arguments are taken apart into a specification and a host. -/
private theorem exists_parse_bindArguments {spec host : Option String} {args : List String}
    (hargs : args ∈ bindArguments spec host) (hspec : ∀ s ∈ spec, s.toList.head? ≠ some '-') :
    ∃ p, parse (Scope.command .bind).specs true args = .ok p ∧ p.has "--help" = false ∧
      p.arguments = spec.toList ∧ p.value? "--host" = host := by
  have hcons : ∀ rest p, parse (Scope.command .bind).specs true rest = .ok p →
      parse (Scope.command .bind).specs true (spec.toList ++ rest) =
        .ok { p with arguments := spec.toList ++ p.arguments } := by
    intro rest p hp
    cases spec with
    | none => exact hp
    | some s =>
      change parse _ true (s :: rest) = _
      rw [parse_cons_argument (hspec s rfl), hp]
      rfl
  have hnil : parse (Scope.command .bind).specs true spec.toList = .ok ⟨[], spec.toList⟩ := by
    have := hcons [] ⟨[], []⟩ rfl
    rwa [List.append_nil] at this
  cases host with
  | none =>
    obtain rfl := List.mem_singleton.1 hargs
    exact ⟨_, hnil, rfl, rfl, rfl⟩
  | some host =>
    have hlast : parse (Scope.command .bind).specs true [] = .ok ⟨[], []⟩ := rfl
    refine ⟨⟨[("--host", some host)], spec.toList⟩, ?_, rfl, rfl, rfl⟩
    simp only [bindArguments, List.mem_cons, List.not_mem_nil, or_false] at hargs
    rcases hargs with rfl | rfl | rfl | rfl
    · rw [hcons _ _ (by rw [parse_host, hlast]; rfl)]
      simp [Parsed.withOption]
    · rw [parse_host, hnil]
      rfl
    · rw [hcons _ _ (by rw [parse_host_value, hlast]; rfl)]
      simp [Parsed.withOption]
    · rw [parse_host_value, hnil]
      rfl

/-! ### The command -/

/-- On a host that is a text, ports are tried by opening sockets. -/
private theorem bindFirst_text (m : Machine) (name : String) (backlog : Value) (rs : List PortRange) :
    bindFirst m (.text name) backlog rs = bindFirstOn m name (.text name) backlog rs :=
  rfl

private theorem scan_text (name : String) (backlog : Value) :
    Binder.scan name (hostFactory (.text name) backlog) = Binder.scan name (socketFactory backlog) :=
  rfl

section

variable {k : Nat} {config : Config} {spec host : Option String} {args : List String} {text name : String}
  (hget : m.getConfig.1 = .ok (k, config)) (hlevel : Log.IsLevel config.logLevel)
  (hargs : args ∈ bindArguments spec host) (hspec : ∀ s ∈ spec, s.toList.head? ≠ some '-')
  (htext : spec.elim config.range .text = .text text) (hname : host.elim config.bindHost .text = .text name)

include hget hlevel hargs hspec htext hname

/-- The command refuses a specification, or tries its ports in the network that it finds. -/
private theorem exists_run_bind_eq :
    ∃ m' : Machine, m'.network = m.network ∧ run m ("bind" :: args) = Finished.plain (match PortSpec.parse text with
      | .error e => .failed m' e.message
      | .ok rs => bindFirst m' (.text name) config.backlog rs) := by
  obtain ⟨p, hparse, hhelp, harguments, hhost⟩ := exists_parse_bindArguments hargs hspec
  obtain ⟨logging, hrun⟩ := exists_run_name_eq hget hlevel .bind args
  have hcall : Call.of? .bind p = .ok (.bind spec host) := by
    obtain ⟨options, arguments⟩ := p
    change arguments = _ at harguments
    subst harguments hhost
    cases spec <;> rfl
  refine ⟨{ m.getConfig.2 with logging := logging }, rfl, hrun.trans (congrArg Finished.plain ?_)⟩
  rw [runSubcommand_of_makes ⟨p, hparse, hhelp, hcall⟩, Call.run, runBind, Machine.getConfig_again hget]
  simp only [htext, hname, rangesOf]
  cases PortSpec.parse text <;> rfl

/-- The first socket that can be opened is named and then closed. -/
private theorem run_bind_of_opensFirst {rs : List PortRange} (hrs : PortSpec.parse text = .ok rs) {s : Socket}
    {calls : List SocketEvent}
    (h : OpensFirst name config.backlog m.network (Candidates.ofRanges rs).toList s calls) {line : String}
    (hline : urlWithPort (.text s.host) (.int s.port) = .ok line) :
    let f := run m ("bind" :: args)
    f.status = .ok 0 ∧ f.events = calls ++ [.close (some s.port)] ∧ f.stdout = withoutSequences line ++ "\n" := by
  obtain ⟨m', hnetwork, hrun⟩ := exists_run_bind_eq hget hlevel hargs hspec htext hname
  rw [hrs] at hrun
  rw [← hnetwork] at h
  obtain ⟨hverdict, hevents⟩ := scan_of_opensFirst h
  simp only [hrun, bindFirst_text, bindFirstOn, scan_text, hverdict, hline, hevents]
  exact ⟨rfl, rfl, withoutSequences_append_newline line⟩

private theorem run_bind_of_refuses {rs : List PortRange} (hrs : PortSpec.parse text = .ok rs) {n : Network}
    {calls : List SocketEvent} (h : Refuses name config.backlog m.network (Candidates.ofRanges rs).toList n calls) :
    let f := run m ("bind" :: args)
    f.status = .ok 1 ∧ f.events = calls ∧ f.stdout = "" := by
  obtain ⟨m', hnetwork, hrun⟩ := exists_run_bind_eq hget hlevel hargs hspec htext hname
  rw [hrs] at hrun
  rw [← hnetwork] at h
  obtain ⟨⟨e, hverdict⟩, hevents⟩ := scan_of_refuses h
  simp only [hrun, bindFirst_text, bindFirstOn, scan_text, hverdict, hevents]
  exact ⟨rfl, rfl, rfl⟩

end

/-- A name that is an address is written without its control sequences. -/
private theorem run_bind_withName {name : String} {a : IpAddress} (h : IpAddress.ofText name = .ok a) {line : String}
    (hline : urlWithPort (.text name) (.int 8080) = .ok line) :
    (Machine.withName name).network.NamesAddress "127.0.0.1" ∧
      (∃ calls, OpensFirst "127.0.0.1" Config.defaults.backlog (Machine.withName name).network [8080]
        ⟨.inet, name, 8080⟩ calls) ∧
      (run (Machine.withName name) ["bind", "8080"]).stdout = withoutSequences line ++ "\n" := by
  have hopens : OpensFirst "127.0.0.1" Config.defaults.backlog (Machine.withName name).network [8080]
      ⟨.inet, name, 8080⟩ _ := .intro [] [] rfl (.nil _) rfl
  have hspec : ∀ s ∈ some "8080", s.toList.head? ≠ some '-' := by
    rintro s ⟨⟩
    decide
  have hhost : (none : Option String).elim Config.defaults.bindHost .text = .text "127.0.0.1" := rfl
  have hrs : PortSpec.parse "8080" = .ok [⟨8080, 8080, by decide, by decide⟩] := rfl
  have hargs : ["8080"] ∈ bindArguments (some "8080") none := List.mem_singleton.2 rfl
  have hget : (Machine.withName name).getConfig.1 = .ok (0, Config.defaults) := Machine.getConfig_withoutFiles _
  obtain ⟨-, -, hstdout⟩ :=
    run_bind_of_opensFirst hget Config.isLevel_defaults hargs hspec rfl hhost hrs (s := ⟨.inet, name, 8080⟩) hopens hline
  exact ⟨namesAddress_of_ofText h, ⟨_, hopens⟩, hstdout⟩

end Command

end Endpoint
