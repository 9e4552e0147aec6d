import Endpoint.Proofs.ExitStatus
import Endpoint.Proofs.KeptSettings

/-!
# Logs that are set up again and again

The log is set up by a step of a session or by a command, with the level that its arguments or the settings ask for
(`Command.levelAsked?`). In between, records are written and settings are changed (`Session.LogStep`).

* (one set-up) Where there is no handler, or only the one that was put there last (`Logging.Tidy`), a set-up that
  succeeds leaves one handler, with the level of the logger (`Logging.withLevel_of_tidy`). One that fails leaves the log
  alone.
* (many steps) So the log is as the last set-up that succeeds has left it: `Session.logging_runLog`.
* (loggers) Which loggers are below the one that is set up can depend on the other loggers that there are, but not for
  the usual names: `Logging.isOwn_of_isWithin`.
* (records) One handler with the level of the logger writes a record once if its level reaches that, and else not
  (`Logging.IsSetTo.write_eq`). What was answered for a logger and a level holds until the next set-up
  (`Session.lookup_answers_cases`), so a logger must have been below the one that is set up whenever it was asked for.
  Together: `Session.one_handler_after_set_up`. A logger that has come there later shows that this is needed:
  `Session.one_handler_misses_late_logger`.
-/

namespace Endpoint

/-! ### Loggers -/

namespace Log

/-- Whether a name is that of the logger that is set up, or goes on after it and a dot, where no second dot follows. -/
def IsWithin (name : String) : Prop :=
  name = ownLogger ∨ ∃ rest, name = ownLogger ++ "." ++ rest ∧ rest.toList.head? ≠ some '.'

/-- Cutting a name at its dots, from the last one on, comes to the first dot if no second one follows it. -/
private theorem isBelow_append (loggers : List String) : ∀ {t : List Char}, t.getLast? ≠ some '.' →
    isBelow loggers (t ++ '.' :: ownLogger.toList.reverse) = true
  | [], _ => by
    have hown : ownLogger.toList.reverse = ['t', 'r', 'o', 'p', 't', 's', 'o', 'h'] := by decide
    simp [hown, isBelow]
  | [c], h => by
    have hc : (c != '.') = true := by simpa using h
    have hnil : isBelow loggers ([] ++ '.' :: ownLogger.toList.reverse) = true := isBelow_append loggers (by simp)
    rw [List.cons_append, List.nil_append, isBelow, if_pos hc]
    exact hnil
  | c :: d :: t, h => by
    have hlonger : isBelow loggers ((d :: t) ++ '.' :: ownLogger.toList.reverse) = true :=
      isBelow_append loggers (by rwa [List.getLast?_cons_cons] at h)
    have hshorter : isBelow loggers (t ++ '.' :: ownLogger.toList.reverse) = true := by
      apply isBelow_append loggers
      intro hlast
      rw [List.getLast?_cons_cons, List.getLast?_cons, hlast] at h
      exact h rfl
    rw [List.cons_append, List.cons_append, isBelow]
    split_ifs
    · exact hlonger
    · rfl
    · exact hlonger
    · exact hshorter

/-- A logger itself is not looked for when its name is cut. -/
private theorem isBelow_cons {logger : String} {loggers : List String} {t : List Char}
    (h : t.length ≤ logger.toList.length) : isBelow (logger :: loggers) t = isBelow loggers t := by
  have hcontains : ∀ {c d : Char} {r : List Char}, (c :: d :: r).length ≤ logger.toList.length →
      (logger :: loggers).contains (String.ofList (d :: r).reverse) =
        loggers.contains (String.ofList (d :: r).reverse) := by
    intro c d r hlength
    have hne : String.ofList (d :: r).reverse ≠ logger := by
      rintro rfl
      rw [String.toList_ofList, List.length_reverse, List.length_cons] at hlength
      omega
    rw [List.contains_cons, beq_false_of_ne hne, Bool.false_or]
  fun_induction isBelow loggers t with
  | case1 c d r hc ih => rw [isBelow, if_pos hc, ih (Nat.le_of_succ_le h)]
  | case2 c d r hc hown => rw [isBelow, if_neg hc, if_pos hown]
  | case3 c d r hc hown hin ih =>
    rw [isBelow, if_neg hc, if_neg hown, hcontains h, if_pos hin, ih (Nat.le_of_succ_le h)]
  | case4 c d r hc hown hin ih =>
    rw [isBelow, if_neg hc, if_neg hown, hcontains h, if_neg hin, ih (Nat.le_of_succ_le (Nat.le_of_succ_le h))]
  | case5 t hshort => rw [isBelow]; exact hshort

end Log

namespace Logging

open Log

/-- A logger with a usual name is below the one that is set up, whatever other loggers there are. -/
theorem isOwn_of_isWithin {name : String} (h : IsWithin name) (l : Logging) : l.isOwn name = true := by
  rcases h with rfl | ⟨rest, rfl, hrest⟩
  · simp [isOwn]
  · have hreverse : (ownLogger ++ "." ++ rest).toList.reverse =
        rest.toList.reverse ++ '.' :: ownLogger.toList.reverse := by
      simp
    have hlast : rest.toList.reverse.getLast? ≠ some '.' := by rwa [List.getLast?_reverse]
    rw [isOwn, hreverse, isBelow_append l.loggers hlast, Bool.or_true]

private theorem isOwn_withLogger (l : Logging) (logger : String) :
    (l.withLogger logger).isOwn logger = l.isOwn logger := by
  rw [isOwn, isOwn, withLogger, isBelow_cons (by simp)]

/-! ### Set-ups -/

/-- Whether there is no handler but the one that was put there last, if there is one. -/
def Tidy (l : Logging) : Prop :=
  l.handlers = [] ∨ ∃ h, l.handlers = [h] ∧ l.installed = some h

/-- Whether there is one handler, the one that was put there last, with the level of the logger. -/
structure IsSetTo (l : Logging) (level : Int) : Prop where
  level_eq : l.level = level
  handlers : l.handlers = [⟨level⟩]
  installed : l.installed = some ⟨level⟩

/-- Whether two loggings have the same level and the same handlers. -/
structure Alike (l l' : Logging) : Prop where
  level : l'.level = l.level
  handlers : l'.handlers = l.handlers
  installed : l'.installed = l.installed

variable {l l' : Logging}

theorem Alike.refl (l : Logging) : l.Alike l :=
  ⟨rfl, rfl, rfl⟩

private theorem Alike.tidy (h : l.Alike l') (hl : l.Tidy) : l'.Tidy := by
  rw [Tidy, h.handlers, h.installed]
  exact hl

private theorem IsSetTo.tidy {level : Int} (h : l.IsSetTo level) : l.Tidy :=
  Or.inr ⟨⟨level⟩, h.handlers, h.installed⟩

/-- The handler that was put there last makes room for the next one. -/
private theorem withLevel_of_tidy (h : l.Tidy) (level : Int) : (l.withLevel level).IsSetTo level := by
  refine ⟨rfl, ?_, rfl⟩
  unfold withLevel
  rcases h with hnone | ⟨handler, hone, hinstalled⟩
  · cases hlast : l.installed with
    | none => simp only [hnone, List.nil_append]
    | some handler => simp only [hnone, List.erase_nil, List.nil_append]
  · simp only [hinstalled, hone, List.erase_cons_head, List.nil_append]

/-! ### Records -/

namespace IsSetTo

variable {level : Int} {r : Record}

/-- A record of level 1 or above counts if it reaches the level. -/
private theorem isEnabled_eq (h : l.IsSetTo level) (hlevel : 1 ≤ level) (hown : l.isOwn r.logger = true)
    (hr : 1 ≤ r.level) :
    l.isEnabled r = decide (level ≤ r.level) := by
  have heffective : l.effectiveLevel r.logger = level := by
    have hne : (level != 0) = true := by
      rw [bne_iff_ne]
      omega
    simp only [effectiveLevel, h.level_eq, hown, hne, Bool.and_self, if_true]
  have hpos : 0 < r.level := by omega
  simp [isEnabled, heffective, hpos]

/-- A record that counts is written once. -/
private theorem write_eq (h : l.IsSetTo level) (hown : l.isOwn r.logger = true) (hle : level ≤ r.level)
    (time : String) :
    l.write time r = [line time r] := by
  have hhandlers : l.handlersFor r.logger = [⟨level⟩] := by
    rw [handlersFor, if_pos hown, h.handlers]
  simp [write, hhandlers, hle]

/-- A single handler with the level of the logger writes each record that reaches the level, and writes it once. -/
theorem emitAll_eq (h : l.IsSetTo level) (hlevel : 1 ≤ level) (time : String) {rs : List Record}
    (hrs : ∀ r ∈ rs, l.isOwn r.logger = true ∧ 1 ≤ r.level) :
    l.emitAll time rs = String.join ((rs.filter fun r => level ≤ r.level).map (line time)) := by
  have hlines : rs.flatMap (l.emit time) = (rs.filter fun r => level ≤ r.level).map (line time) := by
    induction rs with
    | nil => rfl
    | cons r rs ih =>
      obtain ⟨hown, hr⟩ := hrs r List.mem_cons_self
      have hrest := ih fun r' h => hrs r' (List.mem_cons_of_mem r h)
      rw [List.flatMap_cons, hrest, emit, h.isEnabled_eq hlevel hown hr]
      by_cases hle : level ≤ r.level
      · simp [hle, h.write_eq hown hle]
      · simp [hle]
  rw [emitAll, hlines]

end IsSetTo

end Logging

/-! ### Set-ups by commands -/

namespace Command

open Log

/-- The value that arguments have the log set up with, if they come to that. -/
def levelAsked? (m : Machine) (args : List String) : Option Value :=
  match parse Scope.program.specs false args with
  | .error _ => none
  | .ok p =>
    if p.has "--help" then none
    else match p.arguments.head?.bind Subcommand.ofName? with
      | none => none
      | some _ => (logLevel m (p.has "--verbose")).1.toOption

private theorem logging_of_getConfig {m m' : Machine} {r : Except Config.LoadError (Nat × Config)}
    (h : m.getConfig = (r, m')) : m'.logging = m.logging := by
  obtain ⟨cache, rfl⟩ := Machine.exists_eq_of_getConfig h
  rfl

private theorem logging_logLevel (m : Machine) (verbose : Bool) : (logLevel m verbose).2.logging = m.logging := by
  unfold logLevel
  split
  · rfl
  · split
    · next hget => exact logging_of_getConfig hget
    · next hget => exact logging_of_getConfig hget

private theorem logging_bindFirst (m : Machine) (host backlog : Value) (rs : List PortRange) :
    (bindFirst m host backlog rs).machine.logging = m.logging := by
  unfold bindFirst
  split
  · unfold bindFirstOn
    dsimp only
    split
    · rfl
    · split <;> rfl
  · rfl

private theorem logging_runBind (m : Machine) (spec host : Option String) :
    (runBind m spec host).machine.logging = m.logging := by
  unfold runBind
  split
  · next hget => exact logging_of_getConfig hget
  · next hget =>
    rw [← logging_of_getConfig hget]
    split
    · rfl
    · rfl
    · exact logging_bindFirst _ _ _ _

private theorem logging_runSubcommand (m : Machine) (c : Subcommand) (args : List String) :
    (runSubcommand m c args).machine.logging = m.logging := by
  rcases runSubcommand_cases m c args with hsaid | ⟨spec, host, -, hrun⟩
  · rw [hsaid.machine]
  · rw [hrun]
    exact logging_runBind m _ _

/-- The log is set up before a command runs, unless the settings cannot be loaded or ask for what is no level. -/
private theorem logging_runLogged (m : Machine) (verbose : Bool) (c : Subcommand) (args : List String) :
    (runLogged m verbose c args).machine.logging =
      ((logLevel m verbose).1.toOption.bind levelOf?).elim m.logging m.logging.withLevel := by
  have hsame := logging_logLevel m verbose
  unfold runLogged
  generalize logLevel m verbose = asked at hsame ⊢
  obtain ⟨level, m'⟩ := asked
  dsimp only at hsame ⊢
  cases level with
  | error e => exact hsame
  | ok v =>
    rw [Except.toOption, Option.bind_some, ← hsame]
    cases hlevel : levelOf? v with
    | some n =>
      simp only [Logging.setUp_of_levelOf? hlevel]
      exact logging_runSubcommand _ c args
    | none =>
      simp only [Logging.setUp_of_levelOf?_eq_none hlevel]
      rfl

private theorem status_runLogged_of_asked {m : Machine} {verbose : Bool} {v : Value}
    (hasked : (logLevel m verbose).1.toOption = some v) (hlevel : levelOf? v = none) (c : Subcommand)
    (args : List String) : (runLogged m verbose c args).status = .error (.level v) := by
  unfold runLogged
  generalize logLevel m verbose = asked at hasked ⊢
  obtain ⟨level, m'⟩ := asked
  dsimp only at hasked ⊢
  cases level with
  | error e => cases hasked
  | ok v' =>
    cases hasked
    simp only [Logging.setUp_of_levelOf?_eq_none hlevel]
    rfl

/-- Whether records are for loggers with usual names, and of level 1 or above. -/
def AreUsual (rs : List Record) : Prop :=
  ∀ r ∈ rs, IsWithin r.logger ∧ 1 ≤ r.level

theorem isWithin_logger : IsWithin Binder.logger := by
  have hlogger : Binder.logger = ownLogger ++ "." ++ "utils.ports" := by decide +kernel
  exact Or.inr ⟨"utils.ports", hlogger, by decide +kernel⟩

private theorem areUsual_nil : AreUsual [] := nofun

private theorem AreUsual.cons {message : String} {n : Int} {rs : List Record} (hn : 1 ≤ n) (h : AreUsual rs) :
    AreUsual (⟨Binder.logger, n, message⟩ :: rs) := by
  intro r hr
  rcases List.mem_cons.1 hr with rfl | hr
  · exact ⟨isWithin_logger, hn⟩
  · exact h r hr

private theorem AreUsual.reverse {rs : List Record} (h : AreUsual rs) : AreUsual rs.reverse :=
  fun r hr => h r (List.mem_reverse.1 hr)

private theorem areUsual_scanFrom {σ α ι : Type} (address : String) (factory : Factory σ α ι) (tried : List Int)
    {records : List Record} (c : Candidates) (s : σ) (h : AreUsual records) :
    AreUsual (Binder.scanFrom address factory tried records c s).records := by
  fun_induction Binder.scanFrom address factory tried records c s with
  | case1 tried records c s hnone => exact (h.cons (by decide)).reverse
  | case2 tried records c s p rest hnext trying a s' hf => exact (h.cons (by decide)).reverse
  | case3 tried records c s p rest hnext trying i s' hf => exact (h.cons (by decide)).reverse
  | case4 tried records c s p rest hnext trying why s' hf ih => exact ih ((h.cons (by decide)).cons (by decide))

private theorem areUsual_bindFirst (m : Machine) (host backlog : Value) (rs : List PortRange) :
    AreUsual (bindFirst m host backlog rs).records := by
  unfold bindFirst
  split
  · unfold bindFirstOn
    dsimp only
    split
    · exact areUsual_scanFrom _ _ _ _ _ areUsual_nil
    · split
      · exact areUsual_scanFrom _ _ _ _ _ areUsual_nil
      · exact areUsual_scanFrom _ _ _ _ _ areUsual_nil
  · intro r hr
    obtain ⟨p, -, rfl⟩ := List.mem_map.1 hr
    exact (areUsual_nil.cons (n := 10) (by decide)) _ List.mem_cons_self

private theorem areUsual_runSubcommand (m : Machine) (c : Subcommand) (args : List String) :
    AreUsual (runSubcommand m c args).records := by
  rcases runSubcommand_cases m c args with hsaid | ⟨spec, host, -, hrun⟩
  · rw [hsaid.records]
    exact areUsual_nil
  · rw [hrun]
    unfold runBind
    split
    · exact areUsual_nil
    · split
      · exact areUsual_nil
      · exact areUsual_nil
      · exact areUsual_bindFirst _ _ _ _

/-- What a command tells the log is for loggers with usual names. -/
private theorem areUsual_run (m : Machine) (args : List String) : AreUsual (run m args).records := by
  change AreUsual (runOnTerminal m args).records
  rcases runOnTerminal_cases m args with hsaid | ⟨verbose, c, rest, hrun⟩
  · rw [hsaid.records]
    exact areUsual_nil
  · rw [hrun]
    unfold runLogged
    split
    · exact areUsual_nil
    · split
      · exact areUsual_nil
      · exact areUsual_runSubcommand _ c rest

/-- Arguments that do not ask for a set-up only have the program say something, and the others run a command. -/
private theorem levelAsked?_cases (m : Machine) (args : List String) :
    (levelAsked? m args = none ∧ Finished.Said m (runOnTerminal m args)) ∨
      ∃ verbose c rest, levelAsked? m args = (logLevel m verbose).1.toOption ∧
        runOnTerminal m args = runLogged m verbose c rest := by
  unfold levelAsked? runOnTerminal
  dsimp only
  by_cases hnil : args = []
  · subst hnil
    exact Or.inl ⟨rfl, Finished.said_helped _⟩
  rw [if_neg hnil]
  cases parse Scope.program.specs false args with
  | error e => exact Or.inl ⟨rfl, Finished.said_misused _ _⟩
  | ok p =>
    dsimp only
    by_cases hhelp : p.has "--help" = true
    · rw [if_pos hhelp, if_pos hhelp]
      exact Or.inl ⟨rfl, Finished.said_helped _⟩
    rw [if_neg hhelp, if_neg hhelp]
    cases p.arguments with
    | nil => exact Or.inl ⟨rfl, Finished.said_misused _ _⟩
    | cons name rest =>
      rw [List.head?_cons, Option.bind_some]
      dsimp only
      cases Subcommand.ofName? name with
      | some c => exact Or.inr ⟨_, c, rest, rfl, rfl⟩
      | none =>
        left
        refine ⟨rfl, ?_⟩
        dsimp only
        split
        · exact Finished.said_helped _
        · exact Finished.said_misused _ _

/-- A command sets up the log with the value that its arguments ask for, or leaves it alone. -/
private theorem logging_run (m : Machine) (args : List String) :
    (run m args).machine.logging = ((levelAsked? m args).bind levelOf?).elim m.logging m.logging.withLevel := by
  change (runOnTerminal m args).machine.logging = _
  rcases levelAsked?_cases m args with ⟨hnone, hsaid⟩ | ⟨verbose, c, rest, hasked, hrun⟩
  · rw [hnone, hsaid.machine]
    rfl
  · rw [hasked, hrun]
    exact logging_runLogged m verbose c rest

private theorem status_run_of_asked {m : Machine} {args : List String} {v : Value}
    (hasked : levelAsked? m args = some v)
    (hlevel : levelOf? v = none) : (run m args).status = .error (.level v) := by
  change (runOnTerminal m args).status = _
  rcases levelAsked?_cases m args with ⟨hnone, -⟩ | ⟨verbose, c, rest, hsome, hrun⟩
  · rw [hnone] at hasked
    cases hasked
  · rw [hrun]
    exact status_runLogged_of_asked (hsome.symm.trans hasked) hlevel c rest

end Command

/-! ### Set-ups in a session -/

namespace Session

open Log

/-- A step of a session that sets up the log, hands a message to a logger, or does something on settings, among it to
run a command. -/
inductive LogStep where
  | setUp (level : Value)
  | log (logger : String) (level : Int) (message : String)
  | settings (st : SettingsStep)

namespace LogStep

def outcome (s : Session) : LogStep → Outcome Unit
  | .setUp level => (s.setUpLog level).ended
  | .log logger level message => s.log logger level message
  | .settings st => st.outcome s

def after (s : Session) (st : LogStep) : Session :=
  (st.outcome s).session

/-- The value that a step sets up the log with, whether this succeeds or not. -/
def asked? (s : Session) : LogStep → Option Value
  | .setUp level => some level
  | .settings (.command args) => Command.levelAsked? s.machine args
  | _ => none

end LogStep

def runLog (s : Session) : List LogStep → Session
  | [] => s
  | st :: sts => runLog (st.after s) sts

/-- The levels of the set-ups that succeed in some steps, in order. -/
def levelsSet (s : Session) : List LogStep → List Int
  | [] => []
  | st :: sts => ((st.asked? s).bind levelOf?).toList ++ levelsSet (st.after s) sts

private theorem logging_setUpLog (s : Session) (v : Value) :
    (s.setUpLog v).session.machine.logging = (levelOf? v).elim s.machine.logging s.machine.logging.withLevel := by
  unfold setUpLog
  cases hlevel : levelOf? v with
  | some n =>
    rw [Logging.setUp_of_levelOf? hlevel]
    rfl
  | none =>
    rw [Logging.setUp_of_levelOf?_eq_none hlevel]
    rfl

private theorem setUpLog_of_levelOf?_eq_none {v : Value} (h : levelOf? v = none) (s : Session) :
    s.setUpLog v = s.quiet (.error (.level v)) := by
  rw [setUpLog, Logging.setUp_of_levelOf?_eq_none h]

/-- A step on settings sets up the log only by a command. -/
private theorem logging_settingsStep {s : Session} {st : SettingsStep} (h : ∀ args, st ≠ .command args) :
    (st.after s).machine.logging = s.machine.logging := by
  cases st with
  | changeEnvironment unset set => rfl
  | writeFile path bytes => rfl
  | makeDirectory path => rfl
  | removeFile path =>
    rw [SettingsStep.after, SettingsStep.outcome]
    rcases s.removeFile_cases path with h | ⟨t, h⟩ <;> rw [h] <;> rfl
  | loadConfig => exact congrArg (·.machine.logging) s.loadConfig_session
  | getConfig => exact congrArg (·.logging) s.getConfig_machine
  | reloadConfig =>
    rw [SettingsStep.after, SettingsStep.outcome, reloadConfig]
    rcases s.machine.reloadConfig_cases with ⟨c, -, hreload⟩ | ⟨e, -, hreload⟩
    · rw [hreload]
      rfl
    · rw [hreload]
      rfl
  | assign part key v =>
    obtain ⟨got, m, hget⟩ : ∃ got m, s.machine.getConfig = (got, m) := ⟨_, _, rfl⟩
    rw [SettingsStep.after, SettingsStep.outcome, assign, hget, ← Command.logging_of_getConfig hget]
    cases got with
    | error e => rfl
    | ok c =>
      dsimp only
      split <;> rfl
  | wildcard prefer =>
    cases prefer with
    | some p => rfl
    | none => exact congrArg (·.logging) s.wildcard_machine
  | command args => exact absurd rfl (h args)

/-- A step sets up the log with the value that it asks for, or leaves it alone, except that a record has its logger be
there and its answer be known. -/
private theorem logging_after (s : Session) (st : LogStep) :
    (st.after s).machine.logging = match st with
      | .log logger n message => (s.machine.logging.withLogger logger).withAnswer ⟨logger, n, message⟩
      | st => ((st.asked? s).bind levelOf?).elim s.machine.logging s.machine.logging.withLevel := by
  cases st with
  | setUp v => exact s.logging_setUpLog v
  | log logger level message => rfl
  | settings st =>
    by_cases hcommand : ∃ args, st = .command args
    · obtain ⟨args, rfl⟩ := hcommand
      exact Command.logging_run s.machine args
    · have hasked : LogStep.asked? s (.settings st) = none := by
        cases st with
        | command args => exact absurd ⟨args, rfl⟩ hcommand
        | _ => rfl
      dsimp only
      rw [hasked]
      exact logging_settingsStep fun args h => hcommand ⟨args, h⟩

private theorem alike_after {s : Session} {st : LogStep} (h : (st.asked? s).bind levelOf? = none) :
    s.machine.logging.Alike (st.after s).machine.logging := by
  rw [logging_after]
  cases st with
  | log logger n message => exact ⟨rfl, rfl, rfl⟩
  | _ =>
    dsimp only
    rw [h]
    exact .refl _

private theorem withLevel_after {s : Session} {st : LogStep} {n : Int} (h : (st.asked? s).bind levelOf? = some n) :
    (st.after s).machine.logging = s.machine.logging.withLevel n := by
  rw [logging_after]
  cases st with
  | log logger n message => cases h
  | _ =>
    dsimp only
    rw [h]
    rfl

/-- Some steps leave level and handlers as the last set-up that succeeds leaves them, with a single handler. -/
private theorem logging_runLog {s : Session} (h : s.machine.logging.Tidy) (steps : List LogStep) :
    match (s.levelsSet steps).getLast? with
    | none => s.machine.logging.Alike (s.runLog steps).machine.logging
    | some level => (s.runLog steps).machine.logging.IsSetTo level := by
  -- A set-up leaves a single handler that was put there last, whatever the log was like before it.
  induction steps generalizing s with
  | nil => exact .refl _
  | cons st sts ih =>
    rw [runLog, levelsSet]
    cases hlevel : (st.asked? s).bind levelOf? with
    | none =>
      have halike := alike_after hlevel
      have hrest := ih (halike.tidy h)
      rw [Option.toList_none, List.nil_append]
      split at hrest
      · exact ⟨hrest.level.trans halike.level, hrest.handlers.trans halike.handlers,
          hrest.installed.trans halike.installed⟩
      · exact hrest
    | some n =>
      have hset : (st.after s).machine.logging.IsSetTo n := by
        rw [withLevel_after hlevel]
        exact Logging.withLevel_of_tidy h n
      have hrest := ih hset.tidy
      rw [Option.toList_some, List.singleton_append]
      cases hlevels : levelsSet (st.after s) sts with
      | nil =>
        rw [hlevels] at hrest
        exact ⟨hrest.level.trans hset.level_eq, hrest.handlers.trans hset.handlers,
          hrest.installed.trans hset.installed⟩
      | cons n' ns =>
        rw [hlevels] at hrest
        rw [List.getLast?_cons_cons]
        exact hrest

theorem isSetTo_runLog {s : Session} (h : s.machine.logging.Tidy) {steps : List LogStep} {level : Int}
    (hlast : (s.levelsSet steps).getLast? = some level) : (s.runLog steps).machine.logging.IsSetTo level := by
  have hlogging := logging_runLog h steps
  rwa [hlast] at hlogging

/-! ### Answers -/

private theorem runLog_append (s : Session) (sts sts' : List LogStep) :
    s.runLog (sts ++ sts') = (s.runLog sts).runLog sts' := by
  induction sts generalizing s with
  | nil => rfl
  | cons st sts ih => rw [List.cons_append, runLog, ih, runLog]

private theorem levelsSet_append (s : Session) (sts sts' : List LogStep) :
    s.levelsSet (sts ++ sts') = s.levelsSet sts ++ (s.runLog sts).levelsSet sts' := by
  induction sts generalizing s with
  | nil => rfl
  | cons st sts ih => rw [List.cons_append, levelsSet, ih, levelsSet, runLog, List.append_assoc]

/-- An answer that is known after some steps was given in one of them, and no set-up has succeeded since, or it was known
before them. -/
private theorem lookup_answers_cases {s : Session} {steps : List LogStep} {logger : String} {n : Int} {b : Bool}
    (h : (s.runLog steps).machine.logging.answers.lookup (logger, n) = some b) :
    (∃ before message after, steps = before ++ .log logger n message :: after ∧
      (s.runLog (before ++ [.log logger n message])).levelsSet after = [] ∧
      b = ((s.runLog before).machine.logging.withLogger logger).isEnabled ⟨logger, n, message⟩) ∨
    s.levelsSet steps = [] ∧ s.machine.logging.answers.lookup (logger, n) = some b := by
  induction steps generalizing s with
  | nil => exact Or.inr ⟨rfl, h⟩
  | cons st sts ih =>
    rcases ih h with ⟨before, message, after, rfl, hnone, hb⟩ | ⟨hnone, hlookup⟩
    · exact Or.inl ⟨st :: before, message, after, rfl, hnone, hb⟩
    cases hlevel : (st.asked? s).bind levelOf? with
    | some n' =>
      rw [withLevel_after hlevel] at hlookup
      cases hlookup
    | none =>
      have hlevels : s.levelsSet (st :: sts) = [] := by
        rw [levelsSet, hlevel, hnone]
        rfl
      rw [logging_after] at hlookup
      cases st with
      | log logger' n' message =>
        change List.lookup (logger, n) (((logger', n'), _) :: s.machine.logging.answers) = some b at hlookup
        rw [List.lookup_cons] at hlookup
        by_cases hkey : (logger, n) = (logger', n')
        · obtain ⟨rfl, rfl⟩ := Prod.mk.inj hkey
          rw [beq_self_eq_true] at hlookup
          have hrecalls : (s.machine.logging.answers.lookup (logger, n)).getD _ = b := Option.some.inj hlookup
          cases hbefore : s.machine.logging.answers.lookup (logger, n) with
          | none =>
            rw [hbefore] at hrecalls
            exact Or.inl ⟨[], message, sts, rfl, hnone, hrecalls.symm⟩
          | some b' =>
            rw [hbefore] at hrecalls
            exact Or.inr ⟨hlevels, congrArg some hrecalls⟩
        · rw [beq_false_of_ne hkey] at hlookup
          exact Or.inr ⟨hlevels, hlookup⟩
      | _ =>
        dsimp only at hlookup
        rw [hlevel] at hlookup
        exact Or.inr ⟨hlevels, hlookup⟩

/-- Whether a logger was below the one that is set up each time that a record of a level was handed to it, since the last
set-up that has succeeded in some steps. -/
def OwnSinceSetUp (s : Session) (steps : List LogStep) (logger : String) (n : Int) : Prop :=
  ∀ before message after, steps = before ++ .log logger n message :: after →
    (s.runLog (before ++ [.log logger n message])).levelsSet after = [] →
    (s.runLog before).machine.logging.isOwn logger = true

/-- A record for a logger that always was below the one that is set up counts just if it reaches the level of that. -/
private theorem recalls_runLog {s : Session} (h : s.machine.logging.Tidy) {steps : List LogStep} {level : Int}
    (hlast : (s.levelsSet steps).getLast? = some level) (hlevel : 1 ≤ level) {logger : String} {n : Int} (hn : 1 ≤ n)
    (hown : (s.runLog steps).machine.logging.isOwn logger = true) (hsince : s.OwnSinceSetUp steps logger n)
    (message : String) :
    ((s.runLog steps).machine.logging.withLogger logger).recalls ⟨logger, n, message⟩ = decide (level ≤ n) := by
  have henabled : ∀ {l : Logging}, l.IsSetTo level → l.isOwn logger = true →
      ∀ message, (l.withLogger logger).isEnabled ⟨logger, n, message⟩ = decide (level ≤ n) := by
    intro l hset hown message
    have hset' : (l.withLogger logger).IsSetTo level := ⟨hset.level_eq, hset.handlers, hset.installed⟩
    exact hset'.isEnabled_eq hlevel ((l.isOwn_withLogger logger).trans hown) hn
  have hnow := henabled (isSetTo_runLog h hlast) hown message
  unfold Logging.recalls
  cases hlookup : ((s.runLog steps).machine.logging.withLogger logger).answers.lookup (logger, n) with
  | none => exact hnow
  | some b =>
    rcases lookup_answers_cases hlookup with ⟨before, message', after, hsteps, hnone, rfl⟩ | ⟨hnone, -⟩
    · have hbefore : s.levelsSet before = s.levelsSet steps := by
        have hstep : (s.runLog before).levelsSet (.log logger n message' :: after) = [] := by
          rw [runLog_append] at hnone
          exact hnone
        rw [hsteps, levelsSet_append, hstep, List.append_nil]
      exact henabled (isSetTo_runLog h (hbefore ▸ hlast)) (hsince before message' after hsteps hnone) message'
    · rw [hnone] at hlast
      cases hlast

private theorem stderr_log_runLog {s : Session} (h : s.machine.logging.Tidy) {steps : List LogStep} {level : Int}
    (hlast : (s.levelsSet steps).getLast? = some level) (hlevel : 1 ≤ level) {logger : String} {n : Int} (hn : 1 ≤ n)
    (hown : (s.runLog steps).machine.logging.isOwn logger = true) (hsince : s.OwnSinceSetUp steps logger n)
    (message : String) :
    ((LogStep.log logger n message).outcome (s.runLog steps)).stderr =
      if level ≤ n then line (s.runLog steps).machine.time ⟨logger, n, message⟩ else "" := by
  have hrecalls := recalls_runLog h hlast hlevel hn hown hsince message
  have hset := isSetTo_runLog h hlast
  rw [LogStep.outcome, log]
  dsimp only
  rw [hrecalls]
  by_cases hle : level ≤ n
  · have hset' : ((s.runLog steps).machine.logging.withLogger logger).IsSetTo level :=
      ⟨hset.level_eq, hset.handlers, hset.installed⟩
    have hown' := ((s.runLog steps).machine.logging.isOwn_withLogger logger).trans hown
    rw [decide_eq_true hle, if_pos rfl, if_pos hle, hset'.write_eq hown' hle]
    simp
  · rw [decide_eq_false hle, if_neg hle]
    rfl

/-- A command writes what it tells the log, and then its complaint. -/
private theorem stderr_command_runLog {s : Session} (h : s.machine.logging.Tidy) {steps : List LogStep}
    {args : List String} {level : Int}
    (hlast : (s.levelsSet (steps ++ [.settings (.command args)])).getLast? = some level) (hlevel : 1 ≤ level) :
    let f := Command.run (s.runLog steps).machine args
    ((LogStep.settings (.command args)).outcome (s.runLog steps)).stderr =
      String.join ((f.records.filter fun r => level ≤ r.level).map (line f.machine.time)) ++ f.complaint := by
  intro f
  have hset : f.machine.logging.IsSetTo level := by
    have hrun := isSetTo_runLog h hlast
    rwa [runLog_append] at hrun
  have hrecords : ∀ r ∈ f.records, f.machine.logging.isOwn r.logger = true ∧ 1 ≤ r.level := by
    intro r hr
    obtain ⟨hwithin, hr1⟩ := Command.areUsual_run _ _ r hr
    exact ⟨Logging.isOwn_of_isWithin hwithin _, hr1⟩
  change f.machine.logText f.records ++ f.complaint = _
  rw [Machine.logText, hset.emitAll_eq hlevel _ hrecords]

/-- Where the log has no handler at first, it has none until a set-up succeeds. From then on it has exactly one, and both
this handler and the logger have the level of the last set-up that has succeeded, where a text that names no level stands
for `INFO`. A set-up with a value that is no level fails, by itself or in a command, and leaves the log alone.

As long as the level is 1 or above, a record that is handed to the logger or to one below it is written, and only once, if
its level reaches that, and else nothing is; provided that the logger was there or below also whenever a record of the
same level was handed to it since the last set-up, as it always is if its name is a usual one. Commands write what they
tell the log in the same way. -/
theorem one_handler_after_set_up (s : Session) (h : s.machine.logging.handlers = []) (steps : List LogStep) :
    let now := s.runLog steps
    (match (s.levelsSet steps).getLast? with
      | none => now.machine.logging.handlers = [] ∧ now.machine.logging.level = s.machine.logging.level
      | some level => now.machine.logging.handlers = [⟨level⟩] ∧ now.machine.logging.level = level ∧
          (1 ≤ level → ∀ logger n message, 1 ≤ n → now.machine.logging.isOwn logger = true →
            s.OwnSinceSetUp steps logger n →
            ((LogStep.log logger n message).outcome now).stderr =
              if level ≤ n then line now.machine.time ⟨logger, n, message⟩ else "")) ∧
    (∀ (l : Logging) name, IsWithin name → l.isOwn name = true) ∧
    (∀ args level, (s.levelsSet (steps ++ [.settings (.command args)])).getLast? = some level → 1 ≤ level →
      let f := Command.run now.machine args
      (∀ r ∈ f.records, IsWithin r.logger ∧ 1 ≤ r.level) ∧
      ((LogStep.settings (.command args)).outcome now).stderr =
        String.join ((f.records.filter fun r => level ≤ r.level).map (line f.machine.time)) ++ f.complaint) ∧
    (∀ name, levelNamed? (String.ofList (name.toList.map upperChar)) = none → levelOf? (.text name) = some 20) ∧
    (∀ v, levelOf? v = none →
      (now.setUpLog v).result = .error (.level v) ∧ (now.setUpLog v).session = now) ∧
    ∀ args v, Command.levelAsked? now.machine args = some v → levelOf? v = none →
      (Command.run now.machine args).status = .error (.level v) ∧
        (Command.run now.machine args).machine.logging = now.machine.logging := by
  intro now
  have htidy : s.machine.logging.Tidy := Or.inl h
  refine ⟨?_, fun l name hname => Logging.isOwn_of_isWithin hname l, ?_, ?_, ?_, ?_⟩
  · cases hlast : (s.levelsSet steps).getLast? with
    | none =>
      have hlogging := logging_runLog htidy steps
      rw [hlast] at hlogging
      exact ⟨hlogging.handlers.trans h, hlogging.level⟩
    | some level =>
      have hset := isSetTo_runLog htidy hlast
      exact ⟨hset.handlers, hset.level_eq, fun hlevel logger n message hn hown hsince =>
        stderr_log_runLog htidy hlast hlevel hn hown hsince message⟩
  · intro args level hlast hlevel
    exact ⟨Command.areUsual_run _ _, stderr_command_runLog htidy hlast hlevel⟩
  · intro name hname
    rw [levelOf?, hname]
    rfl
  · intro v hv
    rw [setUpLog_of_levelOf?_eq_none hv]
    exact ⟨rfl, rfl⟩
  · intro args v hasked hv
    refine ⟨Command.status_run_of_asked hasked hv, ?_⟩
    rw [Command.logging_run, hasked, Option.bind_some, hv]
    rfl

/-- A text that names no level counts as `INFO`, a command asks for all attempts and raises the level to `DEBUG`, and a
set-up without a level fails. There is one handler, which writes one of two records. -/
theorem one_handler_after_set_up_again :
    let s := fresh "/r" "12:00"
    let steps : List LogStep := [.setUp (.text "chatty"), .log "hostport.x" 20 "a",
      .settings (.command ["-v", "ports", "1"]), .setUp .null]
    let now := s.runLog steps
    s.machine.logging.handlers = [] ∧ s.levelsSet steps = [20, 10] ∧ now.machine.logging.handlers = [⟨10⟩] ∧
      now.machine.logging.level = 10 ∧
      ((LogStep.log "hostport.x" 5 "a").outcome now).stderr = "" ∧
      ((LogStep.log "hostport" 10 "b").outcome now).stderr = "[12:00] hostport - DEBUG - b\n" := by
  intro s steps now
  have hnone : s.machine.logging.handlers = [] := rfl
  have hlevels : s.levelsSet steps = [20, 10] := by decide +kernel
  obtain ⟨hlast, hwithin, -⟩ := one_handler_after_set_up s hnone steps
  rw [hlevels] at hlast
  obtain ⟨hhandlers, hlevel, hrecords⟩ := hlast
  have hwritten : ∀ logger n message, 1 ≤ n → IsWithin logger →
      ((LogStep.log logger n message).outcome now).stderr =
        if 10 ≤ n then line now.machine.time ⟨logger, n, message⟩ else "" :=
    fun logger n message hn h =>
      hrecords (by decide) logger n message hn (hwithin _ _ h) fun _ _ _ _ _ => hwithin _ _ h
  refine ⟨hnone, hlevels, hhandlers, hlevel, ?_, ?_⟩
  · have hx : IsWithin "hostport.x" := Or.inr ⟨"x", by decide +kernel, by decide +kernel⟩
    rw [hwritten _ _ _ (by decide) hx]
    rfl
  · have hown : IsWithin "hostport" := Or.inl rfl
    rw [hwritten _ _ _ (by decide) hown]
    decide +kernel

/-- The logger `hostport..x` is not below the one that is set up when it is first handed a record. It comes to be once
there is the logger `hostport.`, and yet the next record of the same level is not written. -/
theorem one_handler_misses_late_logger :
    let s := fresh "/r" "12:00"
    let steps : List LogStep := [.setUp (.text "INFO"), .log "hostport..x" 20 "a", .log "hostport." 20 "b"]
    let now := s.runLog steps
    s.machine.logging.handlers = [] ∧ (s.levelsSet steps).getLast? = some 20 ∧
      now.machine.logging.isOwn "hostport..x" = true ∧
      ((LogStep.log "hostport..x" 20 "c").outcome now).stderr = "" := by
  decide +kernel

end Session

end Endpoint
