import Endpoint.Log.Level

/-!
# The log

Loggers are named with dots. A logger is right below the one that is found by cutting its name at dots, from the last one
on, where the character before a dot at which it was cut is passed over; if none is found it is right below the root.
One logger, `hostport`, is set up with a level and a handler; the others have neither. The root has the level `WARNING`
and no handler.
-/

namespace Endpoint

namespace Log

/-- A message for a logger. -/
structure Record where
  logger : String
  level : Int
  message : String
  deriving DecidableEq, Repr

/-- A handler writes the records from its level on to standard error. -/
structure Handler where
  level : Int
  deriving DecidableEq, Repr

/-- The name of the logger that is set up. -/
def ownLogger : String := "hostport"

/-- The level of the root. -/
def rootLevel : Int := 30

/-- The layout of a line, with the places of time, logger, level and message. -/
def lineLayout : String := "[%(asctime)s] %(name)s - %(levelname)s - %(message)s"

/-- The layout of the time in a line. -/
def timeLayout : String := "%Y-%m-%d %H:%M:%S"

/-- Whether a logger is below the one that is set up, given the other loggers that there are, for a name turned round. -/
def isBelow (loggers : List String) : List Char → Bool
  | c :: d :: r =>
    if c != '.' then isBelow loggers (d :: r)
    else if d :: r == ownLogger.toList.reverse then true
    else if loggers.contains (String.ofList (d :: r).reverse) then isBelow loggers (d :: r)
    else isBelow loggers r
  | _ => false

/-- The line a handler writes. -/
def line (time : String) (r : Record) : String :=
  "[" ++ time ++ "] " ++ r.logger ++ " - " ++ levelName r.level ++ " - " ++ r.message ++ "\n"

end Log

/-- The level and the handlers of the logger that is set up, the handler that the last set-up put there, and the names of
the other loggers that there are. -/
structure Logging where
  level : Int
  handlers : List Log.Handler
  installed : Option Log.Handler
  loggers : List String
  /-- Whether records of a logger and a level count, where that was asked since the last set-up; the latest comes first. -/
  answers : List ((String × Int) × Bool)
  deriving DecidableEq, Repr

namespace Logging

open Log

/-- No level and no handler. -/
def unset : Logging := ⟨0, [], none, [], []⟩

/-- The logging once a logger is there. -/
def withLogger (l : Logging) (logger : String) : Logging :=
  { l with loggers := logger :: l.loggers }

/-- Whether a logger is the one that is set up or below it. -/
def isOwn (l : Logging) (logger : String) : Bool :=
  logger == ownLogger || isBelow l.loggers logger.toList.reverse

/-- The logging with its level set and with a new handler in the place of the one put there before. What counts is asked
anew from then on. -/
def withLevel (l : Logging) (level : Int) : Logging :=
  let others := match l.installed with
    | none => l.handlers
    | some h => l.handlers.erase h
  { l with level := level, handlers := others ++ [⟨level⟩], installed := some ⟨level⟩, answers := [] }

/-- The set-up for a level of any kind of value; one that cannot be a level is given back. -/
def setUp (l : Logging) (level : Value) : Except Value Logging :=
  match levelOf? level with
  | some n => .ok (l.withLevel n)
  | none => .error level

theorem setUp_of_levelOf? {v : Value} {n : Int} (h : levelOf? v = some n) (l : Logging) :
    l.setUp v = .ok (l.withLevel n) := by
  rw [setUp, h]

theorem setUp_of_levelOf?_eq_none {v : Value} (h : levelOf? v = none) (l : Logging) : l.setUp v = .error v := by
  rw [setUp, h]

/-- The level that decides which records of a logger count: its own, or if that is zero the one of the root. -/
def effectiveLevel (l : Logging) (logger : String) : Int :=
  if l.isOwn logger && l.level != 0 then l.level else rootLevel

/-- Whether a record counts. Records of level zero and below never do. -/
def isEnabled (l : Logging) (r : Record) : Bool :=
  0 < r.level && l.effectiveLevel r.logger ≤ r.level

/-- The handlers that see the records of a logger. -/
def handlersFor (l : Logging) (logger : String) : List Handler :=
  if l.isOwn logger then l.handlers else []

/-- The lines written for a record that counts. Each handler that sees it and whose level it reaches writes one; without
any handler the bare message is written from level `WARNING` on. -/
def write (l : Logging) (time : String) (r : Record) : List String :=
  match l.handlersFor r.logger with
  | [] => if rootLevel ≤ r.level then [r.message ++ "\n"] else []
  | hs => (hs.filter fun h => h.level ≤ r.level).map fun _ => line time r

/-- The lines written for a record of the program. Its loggers never change places, so that what was answered for them
still holds. -/
def emit (l : Logging) (time : String) (r : Record) : List String :=
  if l.isEnabled r then l.write time r else []

/-- Whether a record counts, by the answer for its logger and its level if there is one. The answer may be out of date
where another logger has come between. -/
def recalls (l : Logging) (r : Record) : Bool :=
  (l.answers.lookup (r.logger, r.level)).getD (l.isEnabled r)

/-- The logging that has the answer for a record from then on. -/
def withAnswer (l : Logging) (r : Record) : Logging :=
  { l with answers := ((r.logger, r.level), l.recalls r) :: l.answers }

/-- The text written for some records, in order. -/
def emitAll (l : Logging) (time : String) (rs : List Record) : String :=
  String.join (rs.flatMap (l.emit time))

end Logging

end Endpoint
