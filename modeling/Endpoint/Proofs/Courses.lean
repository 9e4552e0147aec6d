import Endpoint.Command.Run

/-!
# Courses of commands

What a command can come to. The program only says something, which leaves machine and log alone and ends with status 0,
1 or 2 (`Finished.Said`), or it sets up the log and runs a command (`runOnTerminal_cases`); it does the latter for
arguments that begin with the name of a command (`runOnTerminal_name`). The command again only says something, or it
binds a port (`runSubcommand_cases`).
-/

namespace Endpoint.Command

variable {m : Machine}

/-- Whether a command ends with status 0, 1 or 2, leaves the machine as it was, and tells the log nothing. -/
structure Finished.Said (m : Machine) (f : Finished) : Prop where
  machine : f.machine = m
  status : ∃ k ≤ 2, f.status = .ok k
  records : f.records = []

namespace Finished

private theorem said_printed (text : String) : Said m (printed m text) :=
  ⟨rfl, ⟨0, by decide, rfl⟩, rfl⟩

theorem said_helped (s : Scope) : Said m (helped m s) :=
  said_printed _

private theorem said_failed (message : String) : Said m (failed m message) :=
  ⟨rfl, ⟨1, by decide, rfl⟩, rfl⟩

theorem said_misused (s : Scope) (e : UsageError) : Said m (misused m s e) :=
  ⟨rfl, ⟨2, by decide, rfl⟩, rfl⟩

end Finished

open Finished

private theorem said_printLine (r : Except AddressError String) : Said m (printLine m r) := by
  cases r with
  | ok s => exact said_printed _
  | error e => exact said_failed _

private theorem said_runPorts (spec : String) (countOnly : Bool) : Said m (runPorts m spec countOnly) := by
  unfold runPorts
  split
  · exact said_failed _
  · split
    · exact said_printed _
    · exact said_printed _

/-! ### Arguments -/

/-- The name of a command is no option, so it ends the options of the program. -/
theorem parse_name (c : Subcommand) (args : List String) :
    parse Scope.program.specs false (c.name :: args) = .ok ⟨[], c.name :: args⟩ := by
  have hname : c.name ≠ "--" := by cases c <;> decide
  have hoption : isOption c.name.toList = false := by cases c <;> decide
  rw [parse]
  dsimp only
  rw [if_neg hname, hoption]
  rfl

/-- An argument that does not begin with a hyphen is no option. -/
theorem parse_cons_argument {arg : String} (h : arg.toList.head? ≠ some '-') (specs : List OptionSpec)
    (rest : List String) :
    parse specs true (arg :: rest) = (parse specs true rest).map fun p => { p with arguments := arg :: p.arguments } := by
  have hne : arg ≠ "--" := by
    rintro rfl
    exact h (by decide)
  have hoption : isOption arg.toList = false := by simp [isOption, h]
  rw [parse]
  dsimp only
  rw [if_neg hne, hoption]
  rfl

theorem ofName?_name (c : Subcommand) : Subcommand.ofName? c.name = some c := by
  cases c <;> decide

/-- Arguments that begin with the name of a command run this command, without an option of the program. -/
theorem runOnTerminal_name (m : Machine) (c : Subcommand) (args : List String) :
    runOnTerminal m (c.name :: args) = runLogged m false c args := by
  unfold runOnTerminal
  dsimp only
  rw [if_neg (by simp), parse_name]
  dsimp only
  rw [ofName?_name]
  rfl

theorem status_run_name (m : Machine) (c : Subcommand) (args : List String) :
    (run m (c.name :: args)).status = (runLogged m false c args).status := by
  rw [run, runOnTerminal_name]
  rfl

/-- Whether arguments make a call of a command: they can be taken apart, ask for no help, and are those of the call. -/
def Makes (c : Subcommand) (args : List String) (call : Call) : Prop :=
  ∃ p, parse (Scope.command c).specs true args = .ok p ∧ p.has "--help" = false ∧ Call.of? c p = .ok call

/-- Arguments that make a call run it. -/
theorem runSubcommand_of_makes {c : Subcommand} {args : List String} {call : Call} (h : Makes c args call)
    (m : Machine) : runSubcommand m c args = call.run m := by
  obtain ⟨p, hparse, hhelp, hcall⟩ := h
  unfold runSubcommand
  simp only [hparse, hhelp, hcall, Bool.false_eq_true, if_false]

/-- A command only says something, or its arguments make a call that binds. -/
theorem runSubcommand_cases (m : Machine) (c : Subcommand) (args : List String) :
    Said m (runSubcommand m c args) ∨ ∃ spec host, Makes c args (.bind spec host) ∧
      runSubcommand m c args = runBind m spec host := by
  unfold runSubcommand
  dsimp only
  split
  · exact Or.inl (said_misused _ _)
  next p hp =>
  split
  · exact Or.inl (said_helped _)
  next hhelp =>
  split
  · exact Or.inl (said_misused _ _)
  next call hcall =>
  cases call with
  | bind spec host => exact Or.inr ⟨spec, host, ⟨p, hp, by simpa using hhelp, hcall⟩, rfl⟩
  | format host port => exact Or.inl (said_printLine _)
  | ports spec countOnly => exact Or.inl (said_runPorts _ _)
  | url address port =>
    cases port with
    | none => exact Or.inl (said_printLine _)
    | some port => exact Or.inl (said_printLine _)

/-- The program only says something, or it runs a command after the log is set up. -/
theorem runOnTerminal_cases (m : Machine) (args : List String) :
    Said m (runOnTerminal m args) ∨ ∃ verbose c rest, runOnTerminal m args = runLogged m verbose c rest := by
  unfold runOnTerminal
  dsimp only
  split
  · exact Or.inl (said_helped _)
  split
  · exact Or.inl (said_misused _ _)
  split
  · exact Or.inl (said_helped _)
  split
  · exact Or.inl (said_misused _ _)
  split
  · exact Or.inr ⟨_, _, _, rfl⟩
  split
  · exact Or.inl (said_helped _)
  · exact Or.inl (said_misused _ _)

end Endpoint.Command
