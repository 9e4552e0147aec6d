import Endpoint.Command.Run
import Std.Time

/-!
# The program

`main` gathers the machine that a command runs on, runs the command, and writes what it says. Ports are bound in a
network where everything is free.
-/

namespace Endpoint

/-- The variables that commands look at. -/
def variableNames : List String :=
  ["APPDATA", "COLUMNS", "HOME", "HOSTPORT_BACKLOG", "HOSTPORT_BIND_HOST", "HOSTPORT_DATA_DIR", "HOSTPORT_LOG_LEVEL",
    "HOSTPORT_PORT_RANGE", "HOSTPORT_PREFER_IPV6"]

/-- Those of the variables that are set. -/
def readEnvironment : IO Environment := do
  let vars ← variableNames.filterMapM fun name => do
    return (← IO.getEnv name).map fun value => (name, value)
  return .ofVars vars

/-- The tree with the file of settings, if it can be read, seen from the directory one is in. -/
def readFiles (e : Environment) : IO FileTree := do
  let here ← IO.currentDir
  let tree : FileTree := { FileTree.empty with here := Path.partsOf here.toString.toList }
  match Config.path? e with
  | none => return tree
  | some path =>
    let bytes? ← try
        let bytes ← IO.FS.readBinFile path.text
        pure (some bytes)
      catch _ => pure none
    return match bytes? with
      | none => tree
      | some bytes => tree.writeFile path (bytes.toList.map UInt8.toNat)

/-- The time of day, as the log shows it. -/
def readTime : IO String := do
  let now ← Std.Time.PlainDateTime.now
  return now.format "uuuu-MM-dd HH:mm:ss"

/-- The machine that the program is started on. -/
def readMachine : IO Machine := do
  let e ← readEnvironment
  return ⟨e, ← readFiles e, .empty, .idle, .unset, ← readTime⟩

end Endpoint

/-- Runs a command; a failure that it does not answer for is written to standard error. -/
def main (args : List String) : IO UInt32 := do
  let f := Endpoint.Command.runOnTerminal (← Endpoint.readMachine) args
  let shown (isTerminal : Bool) : Endpoint.Command.Finished := if isTerminal then f else f.plain
  IO.print (shown (← (← IO.getStdout).isTty)).stdout
  IO.eprint (shown (← (← IO.getStderr).isTty)).stderr
  match f.status with
  | .ok n => return n.toUInt32
  | .error e =>
    IO.eprintln e.message
    return 1
