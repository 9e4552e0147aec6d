import Endpoint.Command.Run

/-!
# What commands do with settings

A command asks for the settings that are kept, at most twice: for the level of the log, and for what it binds. The second
time gives what the first one gave (`ConfigCache.get_get`). So a command leaves kept what it found or what asking once
leaves, and a failure to load the settings is the one of asking once: `Command.asks_run`.
-/

namespace Endpoint

namespace ConfigCache

/-- Settings that are asked for are the ones that are kept, or new ones that are kept from then on, or cannot be
loaded. -/
private theorem get_cases (k : ConfigCache) (e : Environment) (t : FileTree) :
    (∃ c, k.kept = some c ∧ k.get e t = (.ok c, k)) ∨
    (k.kept = none ∧ ∃ c, Config.load e t = .ok c ∧ k.get e t = (.ok (k.fresh, c), k.store c)) ∨
    k.kept = none ∧ ∃ err, Config.load e t = .error err ∧ k.get e t = (.error err, k) := by
  unfold get reload
  cases hkept : k.kept with
  | some c => exact Or.inl ⟨c, rfl, rfl⟩
  | none =>
    cases hload : Config.load e t with
    | ok c => exact Or.inr (Or.inl ⟨rfl, c, rfl, rfl⟩)
    | error err => exact Or.inr (Or.inr ⟨rfl, err, rfl, rfl⟩)

theorem get_of_kept {k : ConfigCache} {c : Nat × Config} (h : k.kept = some c) (e : Environment) (t : FileTree) :
    k.get e t = (.ok c, k) := by
  rw [get, h]

/-- To ask twice is to ask once. -/
private theorem get_get (k : ConfigCache) (e : Environment) (t : FileTree) : (k.get e t).2.get e t = k.get e t := by
  rcases k.get_cases e t with ⟨c, -, hget⟩ | ⟨-, c, -, hget⟩ | ⟨-, err, -, hget⟩
  · rw [hget, hget]
  · rw [hget]
    exact get_of_kept rfl e t
  · rw [hget, hget]

end ConfigCache

/-- Whether a machine has come of another one by asking for settings, if at all, and by things that settings do not
depend on. -/
structure Machine.Asks (m m' : Machine) : Prop where
  environment : m'.environment = m.environment
  files : m'.files = m.files
  cache : m'.cache = m.cache ∨ m'.cache = m.getConfig.2.cache

namespace Machine

theorem getConfig_cases (m : Machine) :
    (∃ c, m.cache.kept = some c ∧ m.getConfig = (.ok c, m)) ∨
    (m.cache.kept = none ∧ ∃ c, m.loadConfig = .ok c ∧
      m.getConfig = (.ok (m.cache.fresh, c), { m with cache := m.cache.store c })) ∨
    m.cache.kept = none ∧ ∃ e, m.loadConfig = .error e ∧ m.getConfig = (.error e, m) := by
  unfold getConfig
  rcases m.cache.get_cases m.environment m.files with
    ⟨c, hkept, hget⟩ | ⟨hkept, c, hload, hget⟩ | ⟨hkept, e, hload, hget⟩
  · exact Or.inl ⟨c, hkept, by rw [hget]⟩
  · exact Or.inr (Or.inl ⟨hkept, c, hload, by rw [hget]⟩)
  · exact Or.inr (Or.inr ⟨hkept, e, hload, by rw [hget]⟩)

theorem kept_of_getConfig_eq_ok {m m' : Machine} {c : Nat × Config} (h : m.getConfig = (.ok c, m')) :
    m'.cache.kept = some c := by
  rcases m.getConfig_cases with ⟨c', hkept, hget⟩ | ⟨-, c', -, hget⟩ | ⟨-, e, -, hget⟩
  · rw [hget] at h
    cases h
    exact hkept
  · rw [hget] at h
    cases h
    rfl
  · rw [hget] at h
    cases h

theorem getConfig_of_kept {m : Machine} {c : Nat × Config} (h : m.cache.kept = some c) : m.getConfig = (.ok c, m) := by
  rw [getConfig, ConfigCache.get_of_kept h]

/-- Settings that can be had are kept, so they are had again. -/
theorem getConfig_again {m : Machine} {c : Nat × Config} (h : m.getConfig.1 = .ok c) (logging : Logging) :
    ({ m.getConfig.2 with logging := logging } : Machine).getConfig =
      (.ok c, { m.getConfig.2 with logging := logging }) := by
  have hkept : m.getConfig.2.cache.kept = some c := kept_of_getConfig_eq_ok (Prod.ext h rfl)
  exact getConfig_of_kept hkept

theorem getConfig_of_load {m : Machine} {c : Config} (hkept : m.cache.kept = none) (h : m.loadConfig = .ok c) :
    m.getConfig.1 = .ok (m.cache.fresh, c) := by
  rcases m.getConfig_cases with ⟨c', hkept', -⟩ | ⟨-, c', hload, hget⟩ | ⟨-, e, hload, -⟩
  · rw [hkept] at hkept'
    cases hkept'
  · obtain rfl : c = c' := Except.ok.inj (h.symm.trans hload)
    rw [hget]
  · rw [h] at hload
    cases hload

theorem of_getConfig_eq_error {m : Machine} {e : Config.LoadError} (h : m.getConfig.1 = .error e) :
    m.cache.kept = none ∧ m.loadConfig = .error e ∧ m.getConfig.2 = m := by
  rcases m.getConfig_cases with ⟨c, -, hget⟩ | ⟨-, c, -, hget⟩ | ⟨hkept, e', hload, hget⟩
  · rw [hget] at h
    cases h
  · rw [hget] at h
    cases h
  · rw [hget] at h
    cases h
    exact ⟨hkept, hload, by rw [hget]⟩

theorem reloadConfig_cases (m : Machine) :
    (∃ c, m.loadConfig = .ok c ∧
      m.reloadConfig = (.ok (m.cache.fresh, c), { m with cache := m.cache.store c })) ∨
    ∃ e, m.loadConfig = .error e ∧ m.reloadConfig = (.error e, m) := by
  unfold reloadConfig ConfigCache.reload loadConfig
  cases hload : Config.load m.environment m.files with
  | ok c => exact Or.inl ⟨c, rfl, rfl⟩
  | error e => exact Or.inr ⟨e, rfl, rfl⟩

theorem Asks.refl (m : Machine) : m.Asks m :=
  ⟨rfl, rfl, Or.inl rfl⟩

theorem asks_getConfig (m : Machine) : m.Asks m.getConfig.2 :=
  ⟨rfl, rfl, Or.inr rfl⟩

theorem Asks.get_eq {m m' : Machine} (h : m.Asks m') :
    m'.cache.get m'.environment m'.files = m.cache.get m.environment m.files := by
  rw [h.environment, h.files]
  rcases h.cache with hcache | hcache
  · rw [hcache]
  · rw [hcache]
    exact m.cache.get_get m.environment m.files

theorem Asks.trans {m m' m'' : Machine} (h : m.Asks m') (h' : m'.Asks m'') : m.Asks m'' := by
  refine ⟨h'.environment.trans h.environment, h'.files.trans h.files, ?_⟩
  rcases h'.cache with hcache | hcache
  · rw [hcache]
    exact h.cache
  · right
    rw [hcache]
    exact congrArg Prod.snd h.get_eq

end Machine

namespace Command

/-- Whether a command has asked for the settings, if at all, and its failure to load them is the one of asking. -/
structure Finished.Asks (m : Machine) (f : Finished) : Prop where
  machine : m.Asks f.machine
  failure : ∀ e, f.status = .error (.settings e) → m.getConfig.1 = .error e

private theorem Finished.Asks.of_asks {m m' : Machine} {f : Finished} (h : m.Asks m') (hf : Finished.Asks m' f) :
    Finished.Asks m f := by
  have hget := congrArg Prod.fst h.get_eq
  exact ⟨h.trans hf.machine, fun e he => hget.symm.trans (hf.failure e he)⟩

/-- A command that does not fail for the settings. -/
private theorem Finished.asks_of_ne {m : Machine} {f : Finished} (h : m.Asks f.machine)
    (hne : ∀ e, f.status ≠ .error (.settings e)) : Finished.Asks m f :=
  ⟨h, fun e he => absurd he (hne e)⟩

variable (m : Machine)

private theorem asks_printLine (r : Except AddressError String) : Finished.Asks m (printLine m r) := by
  cases r with
  | ok s => exact Finished.asks_of_ne (.refl m) (by simp [printLine, Finished.printed])
  | error e => exact Finished.asks_of_ne (.refl m) (by simp [printLine, Finished.failed])

private theorem asks_runPorts (spec : String) (countOnly : Bool) : Finished.Asks m (runPorts m spec countOnly) := by
  unfold runPorts
  split
  · exact Finished.asks_of_ne (.refl m) (by simp [Finished.failed])
  · split
    · exact Finished.asks_of_ne (.refl m) (by simp [Finished.printed])
    · exact Finished.asks_of_ne (.refl m) (by simp [Finished.printed])

private theorem asks_bindFirstOn (address : String) (host backlog : Value) (rs : List PortRange) :
    Finished.Asks m (bindFirstOn m address host backlog rs) := by
  have hnetwork : ∀ n : Network, m.Asks { m with network := n } := fun n => ⟨rfl, rfl, Or.inl rfl⟩
  unfold bindFirstOn
  dsimp only
  split
  · exact Finished.asks_of_ne (hnetwork _) (by simp)
  · split
    · exact Finished.asks_of_ne (hnetwork _) (by simp)
    · exact Finished.asks_of_ne (hnetwork _) (by simp)

private theorem asks_bindFirst (host backlog : Value) (rs : List PortRange) :
    Finished.Asks m (bindFirst m host backlog rs) := by
  unfold bindFirst
  split
  · exact asks_bindFirstOn m _ host backlog rs
  · exact Finished.asks_of_ne (.refl m) (by simp [Finished.passedOn])

private theorem rangesOf_ne_settings (v : Value) (e : Config.LoadError) : rangesOf v ≠ .error (.settings e) := by
  unfold rangesOf
  split
  · simp
  · split <;> simp
  · simp

private theorem asks_runBind (spec host : Option String) : Finished.Asks m (runBind m spec host) := by
  have hasks := m.asks_getConfig
  unfold runBind
  split
  · next e m' hget =>
    rw [hget] at hasks
    refine ⟨hasks, ?_⟩
    rintro e' he'
    cases he'
    rw [hget]
  · next n config m' hget =>
    rw [hget] at hasks
    split
    · exact Finished.asks_of_ne hasks (by simp [Finished.failed])
    · next f _ hranges =>
      refine Finished.asks_of_ne hasks ?_
      rintro e he
      cases he
      exact rangesOf_ne_settings _ _ hranges
    · exact .of_asks hasks (asks_bindFirst m' _ _ _)

private theorem asks_call (call : Call) : Finished.Asks m (call.run m) := by
  cases call with
  | bind spec host => exact asks_runBind m spec host
  | format host port => exact asks_printLine m _
  | ports spec countOnly => exact asks_runPorts m spec countOnly
  | url address port =>
    cases port with
    | none => exact asks_printLine m _
    | some p => exact asks_printLine m _

private theorem asks_helped (s : Scope) : Finished.Asks m (.helped m s) :=
  Finished.asks_of_ne (.refl m) (by simp [Finished.helped, Finished.printed])

private theorem asks_misused (s : Scope) (e : UsageError) : Finished.Asks m (.misused m s e) :=
  Finished.asks_of_ne (.refl m) (by simp [Finished.misused])

private theorem asks_runSubcommand (c : Subcommand) (args : List String) :
    Finished.Asks m (runSubcommand m c args) := by
  unfold runSubcommand
  dsimp only
  split
  · exact asks_misused m _ _
  · split
    · exact asks_helped m _
    · split
      · exact asks_misused m _ _
      · exact asks_call m _

private theorem asks_logLevel (verbose : Bool) :
    m.Asks (logLevel m verbose).2 ∧ ∀ e, (logLevel m verbose).1 = .error e → m.getConfig.1 = .error e := by
  have hasks := m.asks_getConfig
  unfold logLevel
  split
  · exact ⟨.refl m, by simp⟩
  · split
    · next hget =>
      rw [hget] at hasks
      exact ⟨hasks, by simp⟩
    · next e m' hget =>
      rw [hget] at hasks
      refine ⟨hasks, ?_⟩
      rintro e' he'
      cases he'
      rw [hget]

private theorem asks_runLogged (verbose : Bool) (c : Subcommand) (args : List String) :
    Finished.Asks m (runLogged m verbose c args) := by
  obtain ⟨hasks, hfailure⟩ := asks_logLevel m verbose
  unfold runLogged
  split
  · next e m' hlevel =>
    rw [hlevel] at hasks hfailure
    refine ⟨hasks, ?_⟩
    rintro e' he'
    cases he'
    exact hfailure e rfl
  · next level m' hlevel =>
    rw [hlevel] at hasks
    split
    · exact Finished.asks_of_ne hasks (by simp [Finished.passedOn])
    · -- the command asks on the machine that the log has left, which is asking on the first one
      next logging _ =>
      have hlogging : m'.Asks { m' with logging := logging } := ⟨rfl, rfl, Or.inl rfl⟩
      exact .of_asks (hasks.trans hlogging) (asks_runSubcommand _ c args)

/-- A command leaves the settings that it found, or that asking for them leaves, and it fails to load them only if they
cannot be had by asking. -/
theorem asks_run (args : List String) : Finished.Asks m (run m args) := by
  have hterminal : Finished.Asks m (runOnTerminal m args) := by
    unfold runOnTerminal
    dsimp only
    split
    · exact asks_helped m _
    · split
      · exact asks_misused m _ _
      · split
        · exact asks_helped m _
        · split
          · exact asks_misused m _ _
          · split
            · exact asks_runLogged m _ _ _
            · split
              · exact asks_helped m _
              · exact asks_misused m _ _
  exact ⟨hterminal.machine, hterminal.failure⟩

end Command

end Endpoint
