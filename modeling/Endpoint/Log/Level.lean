import Endpoint.Value.Printer

/-!
# Levels of log records

A level is an integer; six of them have names.
-/

namespace Endpoint.Log

/-- The name of a level; a level without a name shows its number. -/
def levelName (level : Int) : String :=
  if level = 50 then "CRITICAL"
  else if level = 40 then "ERROR"
  else if level = 30 then "WARNING"
  else if level = 20 then "INFO"
  else if level = 10 then "DEBUG"
  else if level = 0 then "NOTSET"
  else "Level " ++ toString level

/-- The level with a name in upper case. -/
def levelNamed? (name : String) : Option Int :=
  [("CRITICAL", 50), ("FATAL", 50), ("ERROR", 40), ("WARN", 30), ("WARNING", 30), ("INFO", 20), ("DEBUG", 10),
    ("NOTSET", 0)].lookup name

/-- Upper case for the names of levels. Beyond ASCII, only the dotless i and the long s have an upper case that
occurs in a name. -/
def upperChar (c : Char) : Char :=
  if c = '\u0131' then 'I' else if c = '\u017f' then 'S' else c.toUpper

/-- The level a value stands for, if it is of a kind that can be a level: an integer, a boolean, or a name in either
case. A name of no level stands for `INFO`. -/
def levelOf? : Value → Option Int
  | .int n => some n
  | .bool b => some (if b then 1 else 0)
  | .text s => some ((levelNamed? (String.ofList (s.toList.map upperChar))).getD 20)
  | _ => none

end Endpoint.Log
