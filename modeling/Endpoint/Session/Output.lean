import Endpoint.Command.Run
import Endpoint.Session.Basic

/-!
# Steps on the log, and whole commands
-/

namespace Endpoint

/-- A finished command with what it wrote to standard output. -/
structure Commanded where
  outcome : Outcome Nat
  stdout : String

namespace Session

/-- Sets up the log. -/
def setUpLog (s : Session) (level : Value) : Outcome Logging :=
  match s.machine.logging.setUp level with
  | .error v => s.quiet (.error (.level v))
  | .ok l => (s.withLogging l).quiet (.ok l)

/-- Hands a message to a logger, which is there from then on. -/
def log (s : Session) (logger : String) (level : Int) (message : String) : Outcome Unit :=
  let r : Log.Record := ⟨logger, level, message⟩
  let l := s.machine.logging.withLogger logger
  let lines := if l.recalls r then l.write s.machine.time r else []
  ⟨.ok (), s.withLogging (l.withAnswer r), String.join lines, []⟩

/-- Runs the program with its arguments. -/
def runCommand (s : Session) (args : List String) : Commanded :=
  let f := Command.run s.machine args
  ⟨⟨f.status, { s with machine := f.machine }, f.stderr, f.events⟩, f.stdout⟩

end Session

end Endpoint
