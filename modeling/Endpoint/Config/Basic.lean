import Endpoint.Environment
import Endpoint.Files.Tree
import Endpoint.Text.Integer
import Endpoint.Text.Utf8
import Endpoint.Toml.Fault
import Endpoint.Value.Printer

/-!
# Settings

The settings have defaults. A table from a file goes over the defaults, and environment variables go over both, field
by field. The table is refused as a whole where a section of it is no table, or where its range of ports is nothing that
can be written, also if a variable names another range.
-/

namespace Endpoint

/-- The settings. A file may give a field a value of any kind. -/
structure Config where
  /-- The ports to choose from. -/
  range : Value
  backlog : Value
  bindHost : Value
  preferV6 : Value
  logLevel : Value

/-- A section of a file that is not a table, with the name of its kind. -/
structure NotTable where
  kind : String
  deriving DecidableEq, Repr

/-- The wording of a failure to look into a section. -/
def NotTable.message (e : NotTable) : String :=
  "\x27" ++ e.kind ++ "\x27 object has no attribute \x27get\x27"

namespace Config

/-- Why settings cannot be loaded. -/
inductive LoadError where
  /-- Nothing says where the home directory is. -/
  | noHome
  /-- The file cannot be looked for. -/
  | notFollowed (e : TooLong)
  | notUtf8 (f : Text.Utf8Fault)
  | unreadable (f : Toml.Fault)
  | notTable (e : NotTable)
  /-- A range of ports that cannot be taken as text. -/
  | unwritable (f : TextFault)
  deriving DecidableEq, Repr

/-- The wording of a failure to load. -/
def LoadError.message : LoadError → String
  | .noHome => "Could not determine home directory."
  | .notFollowed e => e.message
  | .notUtf8 f => f.message
  | .unreadable f => f.message
  | .notTable e => e.message
  | .unwritable f => f.message

/-- The settings without a file and without environment variables. -/
def defaults : Config :=
  ⟨.text "50000-50050", .int 64, .text "127.0.0.1", .bool false, .text "INFO"⟩

/-- The entries of a section, if the file has it. -/
def section? (file : List (String × Value)) (name : String) : Except LoadError (Option (List (String × Value))) :=
  match Value.entry? file name with
  | none => .ok none
  | some (.table es) => .ok (some es)
  | some v => .error (.notTable ⟨v.kindName⟩)

/-- The value under a key of a section that may not be there, or else the value so far. -/
def field (entries : Option (List (String × Value))) (key : String) (soFar : Value) : Value :=
  (entries.bind fun es => Value.entry? es key).getD soFar

/-- The settings with the section of ports over them. A range of any kind is taken as text, if it has one. -/
def withPorts (c : Config) (es : Option (List (String × Value))) : Except LoadError Config :=
  match es.bind fun es => Value.entry? es "range" with
  | some v => match v.display with
    | .ok s => .ok { c with range := .text s, backlog := field es "backlog" c.backlog }
    | .error f => .error (.unwritable f)
  | none => .ok { c with backlog := field es "backlog" c.backlog }

/-- The settings with the section of the network over them. -/
def withNetwork (c : Config) (es : Option (List (String × Value))) : Config :=
  { c with bindHost := field es "bind_host" c.bindHost, preferV6 := field es "prefer_ipv6" c.preferV6 }

/-- The settings with the section of the log over them. -/
def withLog (c : Config) (es : Option (List (String × Value))) : Config :=
  { c with logLevel := field es "log_level" c.logLevel }

/-- The settings with a file over them, one section after the other. -/
def withFile (c : Config) (file : List (String × Value)) : Except LoadError Config :=
  (section? file "ports").bind fun ports => (c.withPorts ports).bind fun c =>
    (section? file "network").bind fun network => (section? file "logging").map fun log =>
      (c.withNetwork network).withLog log

/-- The text of a variable that is set and not empty, or else the value so far. -/
def textOver (e : Environment) (name : String) (soFar : Value) : Value :=
  match e.get? name with
  | none => soFar
  | some s => if s = "" then soFar else .text s

/-- The integer in a variable that is set and holds one, or else the value so far. -/
def integerOver (e : Environment) (name : String) (soFar : Value) : Value :=
  match e.get? name with
  | none => soFar
  | some s => match Text.integer? s with
    | some n => .int n
    | none => soFar

/-- Whether a variable says yes: `1`, `true`, `yes` or `on`, in either case. -/
def isYes (s : String) : Bool :=
  ["1", "true", "yes", "on"].contains (String.ofList (s.toList.map Char.toLower))

/-- Whether a variable that is set says yes, or else the value so far. -/
def booleanOver (e : Environment) (name : String) (soFar : Value) : Value :=
  match e.get? name with
  | none => soFar
  | some s => .bool (isYes s)

/-- The settings with the environment over them. -/
def withEnvironment (c : Config) (e : Environment) : Config where
  range := textOver e "HOSTPORT_PORT_RANGE" c.range
  backlog := integerOver e "HOSTPORT_BACKLOG" c.backlog
  bindHost := textOver e "HOSTPORT_BIND_HOST" c.bindHost
  preferV6 := booleanOver e "HOSTPORT_PREFER_IPV6" c.preferV6
  logLevel := textOver e "HOSTPORT_LOG_LEVEL" c.logLevel

end Config

end Endpoint
