import Endpoint.Text.Blank
import Endpoint.Toml.Fault
import Endpoint.Toml.Mark

/-!
# Headers of tables

A header names a table by the tables around it, in brackets, or one more element of a list of tables, in double
brackets. A name is bare or between marks, and dots stand between names.
-/

namespace Endpoint.Toml

open Text

/-- The header of a table, or of an element of a list of tables. -/
structure Header where
  isElement : Bool
  names : List String

/-- The characters of a name without marks in a header. -/
def isHeaderChar (c : Char) : Bool :=
  c.isAlphanum || c == '_' || c == '-'

/-- A name that begins with a mark, continued over dots until it ends with the mark; and the parts that are left. -/
def markedName (part : List Char) : List (List Char) → Except Fault (List Char × List (List Char))
  | [] => if isMarked (strip part) then .ok (within (strip part), []) else .error .invalid
  | p :: ps => if isMarked (strip part) then .ok (within (strip part), p :: ps) else markedName (part ++ '.' :: p) ps
where
  /-- Whether a text ends with the mark it begins with. -/
  isMarked (s : List Char) : Bool :=
    1 < s.length && s.head? == s.getLast?

/-- The names in the parts of a header between dots, at most so many. -/
def headerNames : Nat → List (List Char) → Except Fault (List String)
  | 0, _ => .ok []
  | _, [] => .ok []
  | n + 1, p :: ps =>
    let name := strip p
    if name.head?.any isMark then
      (markedName name ps).bind fun q => (headerNames n q.2).map fun names => String.ofList q.1 :: names
    else if name.isEmpty || !name.all isHeaderChar then .error .invalid
    else (headerNames n ps).map fun names => String.ofList name :: names

/-- What stands before the brackets that close a header, if nothing but blanks follows them. The brackets are those
first met outside of marks. -/
def beforeClosing (isElement : Bool) (s : List Char) : Except Fault (List Char) :=
  let cut (t : List Char) : List (List Char) := if isElement then splitOnPair ']' ']' t else splitOn ']' t
  let join (ps : List (List Char)) : List Char := (ps.intersperse (if isElement then [']', ']'] else [']'])).flatten
  let count := 1 + skipped (fun t => (cut t).length - 1) false (markedParts s)
  let pieces := cut s
  if pieces.length < count + 1 ∨ strip (join (pieces.drop count)) ≠ [] then .error .invalid
  else .ok (join (pieces.take count))

/-- The header that a line holds. -/
def Header.ofLine (line : List Char) : Except Fault Header :=
  let read (isElement : Bool) (s : List Char) : Except Fault Header :=
    (beforeClosing isElement s).bind fun s =>
      let parts := splitOn '.' s
      (headerNames parts.length parts).map fun names => ⟨isElement, names⟩
  match line.drop 1 with
  | [] => .error .invalid
  | '[' :: r => read true r
  | r => read false r

end Endpoint.Toml
