import Endpoint.Value.Basic

/-!
# Places in nested values

A place is reached from a value by keys of tables and by the last elements of lists.
-/

namespace Endpoint.Toml

/-- The entries of a table, in the order they were given. -/
abbrev Entries := List (String × Value)

/-- One step into a value. -/
inductive Step where
  | key (name : String)
  /-- To the last element of a list or the last character of a text. -/
  | last
  deriving DecidableEq, Repr

/-- The steps that lead to a place. -/
abbrev Place := List Step

/-- The last character of a text, as a text. -/
def lastText? (s : String) : Option Value :=
  s.toList.getLast?.map fun c => .text (String.ofList [c])

/-- The value one step further. -/
def Step.from? (v : Value) : Step → Option Value
  | .key name => match v with
    | .table es => Value.entry? es name
    | _ => none
  | .last => match v with
    | .list xs => xs.getLast?
    | .text s => lastText? s
    | _ => none

/-- The value at a place. -/
def Place.find? (p : Place) (v : Value) : Option Value :=
  p.foldlM Step.from? v

/-- The value with what is at a place changed. -/
def Place.change (f : Value → Value) : Place → Value → Value
  | [], v => f v
  | .key name :: p, .table es =>
    .table (es.map fun e => if e.1 == name then (e.1, change f p e.2) else e)
  | .last :: p, .list xs => .list (xs.dropLast ++ (xs.getLast?.map (change f p)).toList)
  | _, v => v

/-- A table with a value under a key, in the place of the one it had or at the end. -/
def put (name : String) (v : Value) : Value → Value
  | .table es =>
    if (Value.entry? es name).isSome then .table (es.map fun e => if e.1 == name then (name, v) else e)
    else .table (es ++ [(name, v)])
  | w => w

/-- A list with one more element. -/
def extend (v : Value) : Value → Value
  | .list xs => .list (xs ++ [v])
  | w => w

/-- A table without entries. -/
def emptyTable : Value := .table []

end Endpoint.Toml
