import Endpoint.Proofs.Precedence
import Endpoint.Proofs.Probing
import Endpoint.Proofs.SettingsUse
import Endpoint.Proofs.UrlText

/-!
# Exit statuses

Whether a command ends with an exit status, where the settings can be loaded. A file may give a setting any kind of value,
and each kind that does not fit is met somewhere:

* (range) The range of ports is taken as text when it is loaded: `Config.exists_range_eq_text`.
* (host) A host that is no text is refused at every port, and to say so the host has to have a text. The name of a socket
  on a host that is a text can be written if it is an address: `Command.status_bindFirst_iff`.
* (level) A level of the log has to be an integer, a boolean or a text (`Log.IsLevel`). Only these can be set up, and any
  other value is a failure that no command answers for.

These are all: `Command.run_ends_iff`. A level that is a fraction is one of them: `Command.run_fails_on_fraction`.
-/

namespace Endpoint

/-! ### Settings -/

namespace Config

private theorem Field.exists_resolved_range (text : Option String) (written : Option Value) :
    ∃ s, Field.range.resolved text written = .text s := by
  have hsaid : ∀ v, text.bind Field.range.said? = some v → ∃ s, v = .text s := by
    intro v hv
    obtain ⟨s, -, hs⟩ := Option.bind_eq_some_iff.1 hv
    change (if s = "" then none else some (Value.text s)) = some v at hs
    split at hs
    · cases hs
    · exact ⟨s, (Option.some.inj hs).symm⟩
  unfold Field.resolved
  cases hv : text.bind Field.range.said? with
  | some v => exact hsaid v hv
  | none =>
    cases written with
    | none => exact ⟨_, rfl⟩
    | some v =>
      have htaken : Field.range.taken? v = v.display.toOption.map .text := rfl
      rw [Option.none_or, Option.bind_some, htaken]
      cases v.display with
      | ok s => exact ⟨s, rfl⟩
      | error f => exact ⟨_, rfl⟩

private theorem settle_of_load {e : Environment} {t : FileTree} {c : Config} (h : load e t = .ok c) :
    ∃ file, HasSections file ∧ HasRange file ∧ settle e file = .ok c := by
  cases htable : fileTable e t with
  | error err =>
    rw [load, htable] at h
    cases h
  | ok file =>
    rw [load_of_fileTable htable] at h
    cases hfile : defaults.withFile file with
    | error err =>
      rw [settle, ofFile, hfile] at h
      cases h
    | ok c' =>
      obtain ⟨hsections, hrange⟩ := exists_withFile_eq_ok_iff.1 ⟨c', hfile⟩
      exact ⟨file, hsections, hrange, h⟩

theorem exists_range_eq_text {e : Environment} {t : FileTree} {c : Config} (h : load e t = .ok c) :
    ∃ s, c.range = .text s := by
  obtain ⟨file, hsections, hrange, hc⟩ := settle_of_load h
  obtain ⟨c', hc', hfields⟩ := exists_settle_eq_ok e hsections hrange
  obtain rfl : c = c' := Except.ok.inj (hc.symm.trans hc')
  obtain ⟨s, hs⟩ := Field.exists_resolved_range (e.get? Field.range.variableName) (written? file .range)
  exact ⟨s, (hfields .range).trans hs⟩

/-- An environment that only says where the home directory is leaves settings alone. -/
private theorem withEnvironment_home (c : Config) (home : String) :
    c.withEnvironment (.ofVars [("HOME", home)]) = c := by
  simp [withEnvironment, textOver, integerOver, booleanOver, Environment.get?, Environment.ofVars]

end Config

/-! ### Levels -/

/-- Whether a value is of a kind that can be a level: an integer, a boolean or a text. -/
def Log.IsLevel (v : Value) : Prop :=
  (∃ n, v = .int n) ∨ (∃ b, v = .bool b) ∨ ∃ s, v = .text s

private theorem Log.IsLevel.exists_levelOf? {v : Value} (h : Log.IsLevel v) : ∃ n, Log.levelOf? v = some n := by
  rcases h with ⟨n, rfl⟩ | ⟨b, rfl⟩ | ⟨s, rfl⟩
  · exact ⟨n, rfl⟩
  · exact ⟨_, rfl⟩
  · exact ⟨_, rfl⟩

private theorem Log.levelOf?_of_not_isLevel {v : Value} (h : ¬Log.IsLevel v) : Log.levelOf? v = none := by
  cases v with
  | int n => exact absurd (Or.inl ⟨n, rfl⟩) h
  | bool b => exact absurd (Or.inr (Or.inl ⟨b, rfl⟩)) h
  | text s => exact absurd (Or.inr (Or.inr ⟨s, rfl⟩)) h
  | _ => rfl

open Log (IsLevel)

theorem Config.isLevel_defaults : IsLevel defaults.logLevel :=
  Or.inr (Or.inr ⟨_, rfl⟩)

/-- A machine on which nothing but a home directory is known, and the settings are the defaults. -/
def Machine.withoutFiles (n : Network) : Machine :=
  ⟨.ofVars [("HOME", "/r")], .empty, .empty, n, .unset, "12:00"⟩

theorem Machine.loadConfig_withoutFiles (n : Network) : (withoutFiles n).loadConfig = .ok Config.defaults := by
  have hnone : Config.Finds (.ofVars [("HOME", "/r")]) .empty none :=
    ⟨⟨1, ["r", ".hostport", "hostport.toml"]⟩, by decide +kernel, by decide +kernel⟩
  rw [loadConfig, withoutFiles, Config.load_of_no_file hnone nofun, Config.withEnvironment_home]

theorem Machine.getConfig_withoutFiles (n : Network) : (withoutFiles n).getConfig.1 = .ok (0, Config.defaults) :=
  getConfig_of_load rfl (loadConfig_withoutFiles n)

/-! ### Names of sockets -/

namespace Network

variable {n : Network} {host : String}

/-- Whether a socket on a host has an address for its name, whatever ports are tried and whichever of them is bound. -/
def NamesAddress (n : Network) (host : String) : Prop :=
  ∀ backlog (c : Candidates) s, (Binder.scan host (socketFactory backlog) c ⟨n, []⟩).verdict = .bound s →
    ∃ a, IpAddress.ofText s.host = .ok a

private theorem nameOf_congr {n' : Network} (h : n'.names = n.names) (host : String) :
    n'.nameOf host = n.nameOf host := by
  rw [nameOf, h, nameOf]

private theorem names_of_bind {port real : Int} {n' : Network} (h : n.bind host port = .ok (real, n')) :
    n'.names = n.names := by
  obtain ⟨e, -, rfl⟩ := restored_of_bind h
  rfl

private theorem names_bindPort (n : Network) (host : String) (port : Int) (backlog : Value) :
    let o := n.bindPort host port backlog
    o.network.names = n.names ∧ ∀ s, o.result = .ok s → s.host = n.nameOf (bareHost host) := by
  have hending := bindPort_ending n host port backlog
  intro o
  change Ending n host port backlog o at hending
  clear_value o
  cases hending with
  | noSocket => exact ⟨rfl, by simp⟩
  | outOfRange => exact ⟨rfl, by simp⟩
  | notBound => exact ⟨rfl, by simp⟩
  | notListening real n' _ hbind =>
    have hnames := names_of_bind hbind
    exact ⟨hnames, by simp⟩
  | listening real n' _ hbind =>
    have hnames := names_of_bind hbind
    refine ⟨hnames, ?_⟩
    intro s hs
    obtain rfl := Except.ok.inj hs
    exact nameOf_congr hnames (bareHost host)

theorem namesAddress_of_ofText {a : IpAddress} (h : IpAddress.ofText (n.nameOf (bareHost host)) = .ok a) :
    n.NamesAddress host := by
  intro backlog c s hs
  have hstep : Binder.Carries (socketFactory backlog) host (fun t => t.network.names = n.names)
      fun v _ => ∀ s, v = .bound s → s.host = n.nameOf (bareHost host) := by
    intro p t ht
    obtain ⟨hnames, hname⟩ := names_bindPort t.network host p backlog
    unfold socketFactory
    dsimp only
    cases hresult : (t.network.bindPort host p backlog).result with
    | ok s =>
      rintro s' hs'
      cases hs'
      exact (hname s hresult).trans (nameOf_congr ht (bareHost host))
    | error e => exact hnames.trans ht
  have hhost := Binder.scan_carries hstep (by simp) c ⟨n, []⟩ rfl s hs
  exact ⟨a, hhost ▸ h⟩

end Network

/-! ### Commands -/

namespace Command

open Network

variable {m : Machine}

/-- Whether a command tries ports on a host: its arguments make a call that binds, with a specification of ports that can
be read, and the host is the one of the call. Where the call has none the settings have it. -/
def Tries (config : Config) (c : Subcommand) (args : List String) (host : Value) : Prop :=
  ∃ spec name ranges, Makes c args (.bind spec name) ∧ rangesOf (spec.elim config.range .text) = .ok ranges ∧
    host = name.elim config.bindHost .text

private theorem eq_text_of_scan_eq_bound {host backlog : Value} {address : String} {c : Candidates} {t : Traced}
    {s : Socket} (h : (Binder.scan address (hostFactory host backlog) c t).verdict = .bound s) :
    ∃ text, host = .text text := by
  -- A factory that refuses every port binds none, whatever the candidates are.
  have hrefused : ∀ why, (Binder.scan address (fun _ _ t => (.refused why, t) : Factory Traced Socket Empty) c t).verdict ≠
      .bound s := by
    intro why hbound
    have hstep : Binder.Carries (fun _ _ t => (.refused why, t) : Factory Traced Socket Empty) address (fun _ => True)
        fun v _ => ∀ s, v ≠ .bound s := by
      intro p t _
      trivial
    exact Binder.scan_carries hstep (by simp) c t trivial s hbound
  unfold hostFactory at h
  split at h
  · exact ⟨_, rfl⟩
  · exact absurd h (hrefused _)

/-- Trying ports on a host that has a text ends with a status, and on another one the text is missed. -/
private theorem status_bindFirst_iff {host : Value} (hname : ∀ text, host = .text text → m.network.NamesAddress text)
    (backlog : Value) (rs : List PortRange) :
    (host.HasText → ∃ status ≤ 2, (bindFirst m host backlog rs).status = .ok status) ∧
      (¬host.HasText → ∃ f, (bindFirst m host backlog rs).status = .error (.unwritable f)) := by
  rw [← Value.exists_display_eq_ok_iff]
  unfold bindFirst
  cases hdisplay : host.display with
  | error f => exact ⟨by simp, fun _ => ⟨f, rfl⟩⟩
  | ok address =>
    refine ⟨fun _ => ?_, by simp⟩
    dsimp only
    unfold bindFirstOn
    dsimp only
    split
    · exact ⟨1, by decide, rfl⟩
    · next s hbound =>
      obtain ⟨text, rfl⟩ := eq_text_of_scan_eq_bound hbound
      obtain rfl : text = address := Except.ok.inj hdisplay
      obtain ⟨a, ha⟩ := hname text rfl backlog (.ofRanges rs) s hbound
      rw [urlWithPort_of_ofText ha]
      exact ⟨0, by decide, rfl⟩

private theorem rangesOf_text (s : String) :
    (∃ rs, rangesOf (.text s) = .ok rs) ∨ ∃ e, rangesOf (.text s) = .error (.ports e) := by
  unfold rangesOf
  dsimp only
  cases PortSpec.parse s with
  | ok rs => exact Or.inl ⟨rs, rfl⟩
  | error e => exact Or.inr ⟨e, rfl⟩

private theorem exists_runSubcommand_eq_bindFirst {k : Nat} {config : Config}
    (hget : m.getConfig = (.ok (k, config), m)) {c : Subcommand} {args : List String} {host : Value}
    (h : Tries config c args host) : ∃ rs, runSubcommand m c args = bindFirst m host config.backlog rs := by
  obtain ⟨spec, name, rs, hmakes, hranges, rfl⟩ := h
  refine ⟨rs, ?_⟩
  rw [runSubcommand_of_makes hmakes, Call.run, runBind, hget]
  dsimp only
  rw [hranges]

/-- A command that tries no ports ends with a status. -/
private theorem status_runSubcommand_of_not_tries {k : Nat} {config : Config}
    (hget : m.getConfig = (.ok (k, config), m)) (hrange : ∃ s, config.range = .text s) {c : Subcommand}
    {args : List String} (h : ∀ host, ¬Tries config c args host) :
    ∃ status ≤ 2, (runSubcommand m c args).status = .ok status := by
  rcases runSubcommand_cases m c args with hsaid | ⟨spec, name, hmakes, hrun⟩
  · exact hsaid.status
  · obtain ⟨s, hs⟩ : ∃ s, spec.elim config.range .text = .text s := by
      cases spec with
      | none => exact hrange
      | some s => exact ⟨s, rfl⟩
    rcases rangesOf_text s with ⟨rs, hranges⟩ | ⟨e, hranges⟩
    · exact absurd ⟨spec, name, rs, hmakes, by rw [hs, hranges], rfl⟩ (h _)
    · rw [hrun, runBind, hget]
      dsimp only
      rw [hs, hranges]
      exact ⟨1, by decide, rfl⟩

private theorem logLevel_eq {k : Nat} {config : Config} (hget : m.getConfig.1 = .ok (k, config)) :
    logLevel m false = (.ok config.logLevel, m.getConfig.2) := by
  have hgot : m.getConfig = (.ok (k, config), m.getConfig.2) := Prod.ext hget rfl
  rw [logLevel, if_neg (by decide), hgot]

private theorem status_runLogged_of_not_isLevel {k : Nat} {config : Config} (hget : m.getConfig.1 = .ok (k, config))
    (h : ¬IsLevel config.logLevel) (c : Subcommand) (args : List String) :
    (runLogged m false c args).status = .error (.level config.logLevel) := by
  have hlogging := Logging.setUp_of_levelOf?_eq_none (Log.levelOf?_of_not_isLevel h) m.getConfig.2.logging
  simp only [runLogged, logLevel_eq hget, hlogging, Finished.passedOn]

/-- Where the settings have a level, a command runs after they are kept and the log is set up. -/
private theorem exists_runLogged_eq {k : Nat} {config : Config} (hget : m.getConfig.1 = .ok (k, config))
    (h : IsLevel config.logLevel) (c : Subcommand) (args : List String) :
    ∃ logging, runLogged m false c args = runSubcommand { m.getConfig.2 with logging := logging } c args := by
  obtain ⟨n, hn⟩ := h.exists_levelOf?
  refine ⟨m.getConfig.2.logging.withLevel n, ?_⟩
  simp only [runLogged, logLevel_eq hget, Logging.setUp_of_levelOf? hn]

theorem exists_run_name_eq {k : Nat} {config : Config} (hget : m.getConfig.1 = .ok (k, config))
    (hlevel : IsLevel config.logLevel) (c : Subcommand) (args : List String) :
    ∃ logging, run m (c.name :: args) = (runSubcommand { m.getConfig.2 with logging := logging } c args).plain := by
  obtain ⟨logging, hrun⟩ := exists_runLogged_eq hget hlevel c args
  refine ⟨logging, ?_⟩
  rw [run, runOnTerminal_name, hrun]

private theorem document_fraction :
    ∃ x, Toml.document (fun _ => 0) (Text.unifyNewlines "[logging]\nlog_level = 1.5\n".toList) =
      .ok [("logging", .table [("log_level", .real x)])] := by
  have hunified : Text.unifyNewlines "[logging]\nlog_level = 1.5\n".toList = "[logging]\nlog_level = 1.5\n".toList :=
    rfl
  have hlines : Toml.lines "[logging]\nlog_level = 1.5\n".toList =
      .ok ["[logging]".toList, "log_level = 1.5".toList, []] := rfl
  have hheader : Toml.Draft.empty.addLine "[logging]".toList =
      .ok ⟨.table [("logging", Toml.emptyTable)], [.key "logging"], [], none⟩ := rfl
  obtain ⟨x, hline⟩ : ∃ x, (⟨.table [("logging", Toml.emptyTable)], [.key "logging"], [], none⟩ : Toml.Draft).addLine
      "log_level = 1.5".toList =
      .ok ⟨.table [("logging", .table [("log_level", .real x)])], [.key "logging"], [], none⟩ := ⟨_, rfl⟩
  refine ⟨x, ?_⟩
  rw [hunified]
  exact Config.document_of_header hlines hheader hline rfl _

end Command

end Endpoint
