import Endpoint.Host.Normal
import Endpoint.Session.Basic

/-!
# Steps on settings and their sources

Environment and files are changed, and the settings are loaded from them or taken as they are kept. Settings that are
shown come with the word whether they are the ones shown before.
-/

namespace Endpoint

/-- The settings with one field changed, named by its section and its key; a section has to be one that there is. -/
def Config.assign? (c : Config) (part key : String) (v : Value) : Option Config :=
  match part, key with
  | "ports", "range" => some { c with range := v }
  | "ports", "backlog" => some { c with backlog := v }
  | "network", "bind_host" => some { c with bindHost := v }
  | "network", "prefer_ipv6" => some { c with preferV6 := v }
  | "logging", "log_level" => some { c with logLevel := v }
  | _, _ => if ["ports", "network", "logging"].contains part then some c else none

/-- Settings, and whether they are the ones that were shown last. -/
structure Shown where
  config : Config
  same : Bool

namespace Session

/-- Takes some variables out of the environment and then sets others. -/
def changeEnvironment (s : Session) (unset : List String) (set : List (String × String)) : Outcome Unit :=
  let without := unset.foldl Environment.unset s.machine.environment
  (s.withEnvironment (set.foldl (fun e v => e.set v.1 v.2) without)).quiet (.ok ())

/-- Writes a file and makes the directories above it. -/
def writeFile (s : Session) (path : String) (bytes : List Nat) : Outcome Unit :=
  (s.withFiles (s.machine.files.writeFile (.ofString path) bytes)).quiet (.ok ())

/-- Makes a directory and those above it. -/
def makeDirectory (s : Session) (path : String) : Outcome Unit :=
  (s.withFiles (s.machine.files.writeDirectory (.ofString path))).quiet (.ok ())

/-- Removes a file. -/
def removeFile (s : Session) (path : String) : Outcome Unit :=
  match s.machine.files.remove? (.ofString path) with
  | none => s.quiet (.error (.noFile path))
  | some t => (s.withFiles t).quiet (.ok ())

/-- Loads the settings, which are not kept. -/
def loadConfig (s : Session) : Outcome Config :=
  match s.machine.loadConfig with
  | .error e => s.quiet (.error (.settings e))
  | .ok c => s.quiet (.ok c)

/-- Shows settings with their number after a change of the machine. -/
def showing (s : Session) (got : Except Config.LoadError (Nat × Config) × Machine) : Outcome Shown :=
  match got with
  | (.error e, m) => { s with machine := m }.quiet (.error (.settings e))
  | (.ok (n, c), m) => { s with machine := m, shown := some n }.quiet (.ok ⟨c, s.shown == some n⟩)

/-- Shows the settings that are kept, or else loads and keeps them. -/
def getConfig (s : Session) : Outcome Shown :=
  s.showing s.machine.getConfig

/-- Loads the settings anew, keeps them and shows them. -/
def reloadConfig (s : Session) : Outcome Shown :=
  s.showing s.machine.reloadConfig

/-- Changes a field of the settings that are kept. -/
def assign (s : Session) (part key : String) (v : Value) : Outcome Config :=
  match s.machine.getConfig with
  | (.error e, m) => { s with machine := m }.quiet (.error (.settings e))
  | (.ok (n, c), m) => match c.assign? part key v with
    | none => { s with machine := m }.quiet (.error (.noField "Config" part))
    | some c' =>
      let m' := { m with cache := m.cache.modify fun _ => c' }
      { s with machine := m', shown := some n }.quiet (.ok c')

/-- The address that binds on every interface. Unless it is said which version is preferred, the settings say it. -/
def wildcard (s : Session) (prefer : Option Bool) : Outcome String :=
  match prefer with
  | some p => s.quiet (.ok (wildcardAddress p))
  | none => match s.machine.getConfig with
    | (.error e, m) => { s with machine := m }.quiet (.error (.settings e))
    | (.ok (_, c), m) => { s with machine := m }.quiet (.ok (wildcardAddress c.preferV6.isTruthy))

end Session

end Endpoint
