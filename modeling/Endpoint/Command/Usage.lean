import Endpoint.Command.Options
import Endpoint.Environment
import Endpoint.Text.Integer
import Endpoint.Text.Quoted
import Endpoint.Text.Wrapped

/-!
# Commands and how they are used

The subcommands with their arguments and options, the help on each, and the wording of wrong use.
-/

namespace Endpoint.Command

/-- The name of the program. -/
def programName : String := "hostport"

/-- A command of the program. -/
inductive Subcommand where
  | bind
  | format
  | ports
  | url
  deriving DecidableEq, Repr

namespace Subcommand

/-- All commands, by name. -/
def all : List Subcommand := [.bind, .format, .ports, .url]

/-- The name of a command. -/
def name : Subcommand → String
  | .bind => "bind"
  | .format => "format"
  | .ports => "ports"
  | .url => "url"

/-- The command with a name. -/
def ofName? (s : String) : Option Subcommand :=
  all.find? fun c => c.name == s

/-- What a command does. -/
def description : Subcommand → String
  | .bind => "Bind the first free port in SPEC, print it and release it."
  | .format => "Print HOST and PORT as a normalized host:port string."
  | .ports => "Expand a port range specification such as 50000-50050,51234."
  | .url => "Print an IP address in URL-safe form."

end Subcommand

/-- The program itself, or one of its commands. -/
inductive Scope where
  | program
  | command (c : Subcommand)
  deriving DecidableEq, Repr

/-- An option in the help: how it is written, and what it does. -/
structure OptionHelp where
  spec : OptionSpec
  written : String
  effect : String

namespace Scope

/-- The option for help. -/
def helpOption : OptionHelp :=
  ⟨⟨"--help", none, false⟩, "--help", "Show this message and exit."⟩

/-- The options, with the one for help last. -/
def options : Scope → List OptionHelp
  | .program => [⟨⟨"--verbose", some 'v', false⟩, "-v, --verbose", "Log every bind attempt."⟩, helpOption]
  | .command .ports => [⟨⟨"--count", none, false⟩, "--count", "Only print how many ports SPEC holds."⟩, helpOption]
  | .command .bind => [⟨⟨"--host", none, true⟩, "--host TEXT", "Address to bind (default from config)."⟩, helpOption]
  | .command _ => [helpOption]

/-- The options as they are parsed. -/
def specs (s : Scope) : List OptionSpec :=
  s.options.map OptionHelp.spec

/-- The program and the command, as they are called. -/
def path : Scope → String
  | .program => programName
  | .command c => programName ++ " " ++ c.name

/-- What follows the options. -/
def arguments : Scope → String
  | .program => "COMMAND [ARGS]..."
  | .command .bind => "[SPEC]"
  | .command .format => "HOST PORT"
  | .command .ports => "SPEC"
  | .command .url => "ADDRESS [PORT]"

/-- What is done. -/
def description : Scope → String
  | .program => "hostport CLI commands."
  | .command c => c.description

/-- The line that shows how to call the program or the command. -/
def usage (s : Scope) : String :=
  "Usage: " ++ s.path ++ " [OPTIONS] " ++ s.arguments ++ "\n"

/-- A text after so many spaces. -/
def indented (n : Nat) (s : String) : String :=
  String.ofList (List.replicate n ' ') ++ s ++ "\n"

/-- A row of two columns, where the second column begins at the same place in each of its lines. -/
def row (start width : Nat) (first second : String) : String :=
  match Text.wrapped (max (width - start - 2) 10) second with
  | [] => indented 2 first
  | line :: lines =>
    let gap := String.ofList (List.replicate (start - first.length) ' ')
    indented 2 (first ++ gap ++ line) ++ String.join (lines.map (indented (start + 2)))

/-- Rows of two columns, the second one aligned. -/
def rows (width : Nat) (entries : List (String × String)) : String :=
  let start := (entries.map fun e => e.1.length).foldl max 0 + 2
  String.join (entries.map fun e => row start width e.1 e.2)

/-- The commands with what they do, cut down to fit beside the longest name. -/
def commandRows (width : Nat) : List (String × String) :=
  let longest := (Subcommand.all.map fun c => c.name.length).foldl max 0
  Subcommand.all.map fun c => (c.name, Text.shortened (width - 6 - longest) c.description)

/-- The help text, in lines of a width. -/
def help (width : Nat) (s : Scope) : String :=
  let description := String.join ((Text.wrapped (width - 2) s.description).map (indented 2))
  let options := "\nOptions:\n" ++ rows width (s.options.map fun o => (o.written, o.effect))
  let commands := match s with
    | .program => "\nCommands:\n" ++ rows width (commandRows width)
    | .command _ => ""
  s.usage ++ "\n" ++ description ++ options ++ commands

end Scope

/-- The width of help texts: two columns less than the terminal has, but 50 at least and 78 at most. A terminal has the
columns that a variable names, or else 80. -/
def helpWidth (e : Environment) : Nat :=
  let columns : Nat := match (e.get? "COLUMNS").bind Text.integer? with
    | some n => if 0 < n then n.toNat else 80
    | none => 80
  max (min columns 80 - 2) 50

/-- Wrong use of the program or a command. -/
inductive UsageError where
  | option (e : OptionError)
  | argumentMissing (name : String)
  /-- A text that is no integer, for an argument as the help writes it. -/
  | notInteger (argument value : String)
  | extraArguments (arguments : List String)
  | commandMissing
  | unknownCommand (name : String)
  deriving DecidableEq, Repr

namespace UsageError

/-- The wording of wrong use. -/
def message : UsageError → String
  | .option (.unknown name near) =>
    let hint := match near.mergeSort (fun a b => a ≤ b) with
      | [] => ""
      | [n] => " Did you mean " ++ n ++ "?"
      | ns => " (Possible options: " ++ String.intercalate ", " ns ++ ")"
    "No such option: " ++ name ++ hint
  | .option (.valueMissing name) => "Option " ++ Text.quoted name ++ " requires an argument."
  | .option (.valueGiven name) => "Option " ++ Text.quoted name ++ " does not take a value."
  | .argumentMissing name => "Missing argument " ++ Text.quoted name ++ "."
  | .notInteger argument value =>
    "Invalid value for " ++ Text.quoted argument ++ ": " ++ Text.quoted value ++ " is not a valid integer."
  | .extraArguments args =>
    "Got unexpected extra argument" ++ (if args.length = 1 then "" else "s") ++ " (" ++
      String.intercalate " " args ++ ")"
  | .commandMissing => "Missing command."
  | .unknownCommand name => "No such command " ++ Text.quoted name ++ "."

/-- Whether the wording comes after a reminder of the usage. -/
def showsUsage : UsageError → Bool
  | .option (.valueMissing _) => false
  | .option (.valueGiven _) => false
  | _ => true

/-- What is written to standard error about wrong use. -/
def report (e : UsageError) (s : Scope) : String :=
  let usage := if e.showsUsage then s.usage ++ "Try \x27" ++ s.path ++ " --help\x27 for help.\n\n" else ""
  usage ++ "Error: " ++ e.message ++ "\n"

end UsageError

end Endpoint.Command
