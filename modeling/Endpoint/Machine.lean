import Endpoint.Config.Cache
import Endpoint.Network.Probe

/-!
# The machine a command runs on

What commands read and change: environment, files, the settings that are kept, the network and the log.
-/

namespace Endpoint

/-- The state that commands share. -/
structure Machine where
  environment : Environment
  files : FileTree
  cache : ConfigCache
  network : Network
  logging : Logging
  /-- The time that the log shows. -/
  time : String

namespace Machine

/-- A machine whose home directory lies in an otherwise empty directory. -/
def fresh (root : String) (time : String) : Machine where
  environment := .ofVars [("HOME", root ++ "/home"), ("COLUMNS", "80")]
  files := .ofDirectory (.ofString root)
  cache := .empty
  network := .idle
  logging := .unset
  time := time

/-- The settings that are kept, or else loaded and kept. -/
def getConfig (m : Machine) : Except Config.LoadError (Nat × Config) × Machine :=
  let got := m.cache.get m.environment m.files
  (got.1, { m with cache := got.2 })

/-- Whoever asks for the settings leaves everything else alone. -/
theorem exists_eq_of_getConfig {m m' : Machine} {r : Except Config.LoadError (Nat × Config)}
    (h : m.getConfig = (r, m')) : ∃ cache, m' = { m with cache := cache } :=
  ⟨_, (congrArg Prod.snd h).symm⟩

/-- The settings loaded anew, and kept if that succeeds. -/
def reloadConfig (m : Machine) : Except Config.LoadError (Nat × Config) × Machine :=
  let got := m.cache.reload m.environment m.files
  (got.1, { m with cache := got.2 })

/-- The settings loaded anew, and not kept. -/
def loadConfig (m : Machine) : Except Config.LoadError Config :=
  Config.load m.environment m.files

/-- The text the log writes for some records. -/
def logText (m : Machine) (rs : List Log.Record) : String :=
  m.logging.emitAll m.time rs

end Machine

end Endpoint
