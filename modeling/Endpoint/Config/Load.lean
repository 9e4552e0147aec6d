import Endpoint.Config.Basic
import Endpoint.Toml.Document

/-!
# Loading the settings

The file `hostport.toml` lies in a directory that a variable names, or else below the home directory. A file that is
missing or is not valid TOML counts as empty. One that cannot be looked for, is not UTF-8, breaks off its reading in
another way or holds a table that is refused is an error.
-/

namespace Endpoint

/-- The systems that differ in where an application keeps its files. -/
inductive Platform where
  | windows
  | other
  deriving DecidableEq, Repr

namespace Config

/-- The home directory: what the variable says, or else what is on record, without the slashes at its end, and the root
if nothing is left of it. One that begins with a tilde is not known. -/
def home? (e : Environment) : Option String :=
  match (e.get? "HOME").or e.account with
  | none => none
  | some home =>
    let trimmed := (home.toList.reverse.dropWhile (· == '/')).reverse
    if trimmed.head? = some '~' then none
    else if trimmed = [] then some "/"
    else some (String.ofList trimmed)

/-- The directory of the file with settings, unless it is below a home directory that is not known. -/
def directory? (p : Platform) (e : Environment) : Option Path :=
  match e.get? "HOSTPORT_DATA_DIR" with
  | some s => if s = "" then standard else some (Path.ofString s)
  | none => standard
where
  /-- The directory unless a variable names one. -/
  standard : Option Path :=
    match p with
    | .windows => some ((Path.ofString ((e.get? "APPDATA").getD "")).child "hostport")
    | .other => (home? e).map fun home => (Path.ofString home).child ".hostport"

/-- Where the file with settings is. -/
def path? (e : Environment) : Option Path :=
  (directory? .other e).map fun d => d.child "hostport.toml"

/-- The table in the contents of a file; contents that are not valid give an empty one. -/
def tableOf (memory : List Nat → Nat) (bytes : List Nat) : Except LoadError (List (String × Value)) :=
  match Text.decode bytes with
  | .error f => .error (.notUtf8 f)
  | .ok s => match Toml.document memory (Text.unifyNewlines s) with
    | .ok es => .ok es
    | .error .invalid => .ok []
    | .error f => .error (.unreadable f)

/-- The table in the file with settings. -/
def fileTable (e : Environment) (t : FileTree) : Except LoadError (List (String × Value)) :=
  match path? e with
  | none => .error .noHome
  | some p => match t.find? p with
    | .error f => .error (.notFollowed f)
    | .ok (some (.file bytes)) => tableOf e.memory bytes
    | .ok _ => .ok []

/-- The defaults with a file over them. -/
def ofFile (file : List (String × Value)) : Except LoadError Config :=
  defaults.withFile file

/-- The settings from the defaults, the file and the environment. -/
def load (e : Environment) (t : FileTree) : Except LoadError Config :=
  (fileTable e t).bind fun file => (ofFile file).map fun c => c.withEnvironment e

end Config

end Endpoint
