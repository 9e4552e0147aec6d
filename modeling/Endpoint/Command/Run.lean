import Endpoint.Command.Usage
import Endpoint.Failure
import Endpoint.Host.Normal
import Endpoint.Machine
import Endpoint.Text.Alphanumeric
import Endpoint.Text.ControlSequence

/-!
# Running commands

`Command.run` takes the arguments of the program to an exit status and what is written. Status 1 tells of a failure,
2 of wrong use. A failure that no command answers for is passed on. What is written is meant for files and other
programs; `Command.runOnTerminal` gives what a terminal is shown.
-/

namespace Endpoint.Command

/-- What a command leaves behind: its exit status or a failure it does not answer for, the machine, and the calls on
sockets. -/
structure Finished where
  status : Except Failure Nat
  machine : Machine
  /-- What is written to standard output. -/
  stdout : String
  /-- What the log is told. -/
  records : List Log.Record
  /-- What is written to standard error after the log. -/
  complaint : String
  events : List SocketEvent

namespace Finished

/-- All that is written to standard error: the lines of the log, and then what is complained about. -/
def stderr (f : Finished) : String :=
  f.machine.logText f.records ++ f.complaint

/-- What is written where no terminal shows it: output and complaint have no control sequences. The log keeps its
own. -/
def plain (f : Finished) : Finished :=
  { f with stdout := Text.withoutSequences f.stdout, complaint := Text.withoutSequences f.complaint }

/-- The complaint about a failure. -/
def complaintOf (message : String) : String :=
  "Error: " ++ message ++ "\n"

/-- A command that writes to standard output. -/
def printed (m : Machine) (text : String) : Finished :=
  ⟨.ok 0, m, text, [], "", []⟩

/-- The help on the program or a command. -/
def helped (m : Machine) (s : Scope) : Finished :=
  printed m (s.help (helpWidth m.environment))

/-- A command that fails with a message. -/
def failed (m : Machine) (message : String) : Finished :=
  ⟨.ok 1, m, "", [], complaintOf message, []⟩

/-- A command that is used wrongly. -/
def misused (m : Machine) (s : Scope) (e : UsageError) : Finished :=
  ⟨.ok 2, m, "", [], e.report s, []⟩

/-- A failure that is passed on. -/
def passedOn (m : Machine) (f : Failure) : Finished :=
  ⟨.error f, m, "", [], "", []⟩

end Finished

/-- A line of output, or the message of a failure. -/
def printLine (m : Machine) : Except AddressError String → Finished
  | .ok s => .printed m (s ++ "\n")
  | .error e => .failed m e.message

/-- The integer in an argument. -/
def integerArgument (argument value : String) : Except UsageError Int :=
  match Text.integer? value with
  | some n => .ok n
  | none => .error (.notInteger argument value)

/-- A command whose arguments are understood. -/
inductive Call where
  | bind (spec host : Option String)
  | format (host : String) (port : Int)
  | ports (spec : String) (countOnly : Bool)
  | url (address : String) (port : Option Int)

/-- The call that arguments make, where options have been taken out. Arguments are looked at in order, and only then
is it asked whether there are too many. -/
def Call.of? (c : Subcommand) (p : Parsed) : Except UsageError Call :=
  let ending (extra : List String) (call : Call) : Except UsageError Call :=
    if extra = [] then .ok call else .error (.extraArguments extra)
  match c, p.arguments with
  | .bind, [] => .ok (.bind none (p.value? "--host"))
  | .bind, spec :: r => ending r (.bind (some spec) (p.value? "--host"))
  | .format, [] => .error (.argumentMissing "HOST")
  | .format, [_] => .error (.argumentMissing "PORT")
  | .format, host :: port :: r => (integerArgument "PORT" port).bind fun n => ending r (.format host n)
  | .ports, [] => .error (.argumentMissing "SPEC")
  | .ports, spec :: r => ending r (.ports spec (p.has "--count"))
  | .url, [] => .error (.argumentMissing "ADDRESS")
  | .url, [address] => .ok (.url address none)
  | .url, address :: port :: r => (integerArgument "[PORT]" port).bind fun n => ending r (.url address (some n))

/-- The ports of a specification one on a line, or how many they are. -/
def runPorts (m : Machine) (spec : String) (countOnly : Bool) : Finished :=
  match PortSpec.parse spec with
  | .error e => .failed m e.message
  | .ok rs =>
    if countOnly then .printed m (toString (PortSpec.size rs) ++ "\n")
    else .printed m (String.join ((PortSpec.expand rs).map fun p => toString p ++ "\n"))

/-- The ranges of a specification that is any value. -/
def rangesOf : Value → Except Failure (List PortRange)
  | .null => .error (.ports .missing)
  | .text s => match PortSpec.parse s with
    | .ok rs => .ok rs
    | .error e => .error (.ports e)
  | v => .error (.range v)

/-- Why a host that is no text is refused at every port. -/
def hostRefusal : Value → String
  | .octets _ _ => "startswith first arg must be bytes or a tuple of bytes, not str"
  | v => "\x27" ++ v.kindName ++ "\x27 object has no attribute \x27strip\x27"

/-- Tries ports on a host that is any value; every attempt with one that is no text is refused. -/
def hostFactory (host backlog : Value) : Factory Network.Traced Socket Empty :=
  match host with
  | .text _ => Network.socketFactory backlog
  | v => fun _ _ t => (.refused (hostRefusal v), t)

/-- Binds the first port that works on a host with a text, closes the socket again, and prints the socket's name. -/
def bindFirstOn (m : Machine) (address : String) (host backlog : Value) (rs : List PortRange) : Finished :=
  let run := Binder.scan address (hostFactory host backlog) (.ofRanges rs) ⟨m.network, []⟩
  let t := run.state
  match run.verdict with
  | .exhausted e =>
    ⟨.ok 1, { m with network := t.network }, "", run.records, Finished.complaintOf e.message, t.events.reverse⟩
  | .bound s =>
    let closed := t.network.close s
    let m' := { m with network := closed.1 }
    let events := t.events.reverse ++ closed.2
    match urlWithPort (.text s.host) (.int s.port) with
    | .ok line => ⟨.ok 0, m', line ++ "\n", run.records, "", events⟩
    | .error e => ⟨.error (.address e), m', "", run.records, "", events⟩

/-- Binds the first port that works. A host that cannot be written is refused at every port, and then it cannot be told
that all ports failed. Nor can the log tell of the host; what it says of that is left out. -/
def bindFirst (m : Machine) (host backlog : Value) (rs : List PortRange) : Finished :=
  match host.display with
  | .ok address => bindFirstOn m address host backlog rs
  | .error f =>
    let refusals := (PortSpec.expand rs).map fun p : Nat => Binder.refusedRecord p (hostRefusal host)
    { Finished.passedOn m (.unwritable f) with records := refusals }

/-- Binds the first port of a specification that works; specification, host and backlog come from the settings unless
they are given. -/
def runBind (m : Machine) (spec host : Option String) : Finished :=
  match m.getConfig with
  | (.error e, m) => .passedOn m (.settings e)
  | (.ok (_, config), m) =>
    match rangesOf (spec.elim config.range .text) with
    | .error (.ports e) => .failed m e.message
    | .error f => .passedOn m f
    | .ok rs => bindFirst m (host.elim config.bindHost .text) config.backlog rs

/-- What a call does. -/
def Call.run (m : Machine) : Call → Finished
  | .format host port => printLine m (normalHostPort (some host) (.int port))
  | .url address none => printLine m (urlText (.text address))
  | .url address (some port) => printLine m (urlWithPort (.text address) (.int port))
  | .ports spec countOnly => runPorts m spec countOnly
  | .bind spec host => runBind m spec host

/-- Runs a command with its arguments. Help comes before everything but options that cannot be understood. -/
def runSubcommand (m : Machine) (c : Subcommand) (args : List String) : Finished :=
  let scope := Scope.command c
  match parse scope.specs true args with
  | .error e => .misused m scope (.option e)
  | .ok p =>
    if p.has "--help" then .helped m scope
    else match Call.of? c p with
      | .error e => .misused m scope e
      | .ok call => call.run m

/-- The level that the log is set up with: all attempts if they are asked for, or else the one of the settings. -/
def logLevel (m : Machine) (verbose : Bool) : Except Config.LoadError Value × Machine :=
  if verbose then (.ok (.text "DEBUG"), m)
  else match m.getConfig with
    | (.ok (_, config), m) => (.ok config.logLevel, m)
    | (.error e, m) => (.error e, m)

/-- Sets up the log and then runs a command. -/
def runLogged (m : Machine) (verbose : Bool) (c : Subcommand) (args : List String) : Finished :=
  match logLevel m verbose with
  | (.error e, m) => .passedOn m (.settings e)
  | (.ok level, m) => match m.logging.setUp level with
    | .error v => .passedOn m (.level v)
    | .ok logging => runSubcommand { m with logging := logging } c args

/-- Whether a name that is no command begins with a mark, like an option. -/
def beginsWithMark (name : String) : Bool :=
  match name.toList with
  | [] => false
  | c :: _ => !Text.isAlphanumeric c

/-- Runs the program with its arguments, for a terminal. -/
def runOnTerminal (m : Machine) (args : List String) : Finished :=
  let scope := Scope.program
  if args = [] then .helped m scope
  else match parse scope.specs false args with
    | .error e => .misused m scope (.option e)
    | .ok p =>
      if p.has "--help" then .helped m scope
      else match p.arguments with
        | [] => .misused m scope .commandMissing
        | name :: rest => match Subcommand.ofName? name with
          | some c => runLogged m (p.has "--verbose") c rest
          | none =>
            if beginsWithMark name then .helped m scope
            else .misused m scope (.unknownCommand name)

/-- Runs the program with its arguments. -/
def run (m : Machine) (args : List String) : Finished :=
  (runOnTerminal m args).plain

end Endpoint.Command
