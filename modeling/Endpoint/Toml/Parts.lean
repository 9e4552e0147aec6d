import Endpoint.Text.Blank
import Endpoint.Toml.Fault
import Endpoint.Toml.Mark

/-!
# Parts of arrays and of tables within a line

Both are cut at their commas, and parts that a comma within a value has cut in two are put together again.

* Texts in an array go on until they end with their mark.
* Arrays in an array end at the comma that stands outside of brackets, wherever the brackets stand.
* Tables in an array go from brace to brace.
* Values in a table go on until their end fits their beginning.
-/

namespace Endpoint.Toml

open Text

/-- Whether a text that begins with a mark also ends with it. -/
def endsAsItBegins (s : List Char) : Bool :=
  match s with
  | [] => true
  | c :: r => s.getLast? == some c && !escapesNext r.dropLast

/-- Whether a text begins with three marks and ends with just one. -/
def isOpenLong (s : List Char) : Bool :=
  match s, s.reverse with
  | a :: b :: c :: _, _ :: y :: x :: _ => a == b && b == c && y != a && x != a
  | _, _ => false

/-- The parts of an array of texts, of which the first is `part`, from those between commas. A part that comes last as
it stands need not end with its mark. -/
def joinTexts (part : List Char) (isWhole : Bool) : List (List Char) → Except Fault (List (List Char))
  | [] =>
    if isWhole || (endsAsItBegins (strip part) && !isOpenLong (strip part)) then .ok [part] else .error .noPart
  | p :: ps =>
    if endsAsItBegins (strip part) && !isOpenLong (strip part) then (joinTexts p true ps).map (part :: ·)
    else joinTexts (part ++ ',' :: p) false ps

/-- The parts of an array of arrays: from comma to comma, where as many brackets are open as closed. -/
def cutArrays (depth : Int) (part : List Char) : List Char → List (List Char)
  | [] => [part.reverse]
  | c :: r =>
    if c == ',' && depth == 0 then part.reverse :: cutArrays depth [] r
    else
      let step : Int := if c == '[' then 1 else if c == ']' then -1 else 0
      cutArrays (depth + step) (c :: part) r

/-- An array of tables that is cut up to some character. -/
structure TableCut where
  /-- The braces opened less the braces closed. -/
  depth : Nat
  isInside : Bool
  /-- Whether an odd number of backslashes comes before. -/
  isEscaped : Bool
  /-- The table that is open, the latest character first. -/
  part : Option (List Char)
  /-- Whether the character after a table is next, which counts for nothing. -/
  isAfter : Bool
  /-- The tables that are closed, the latest first. -/
  parts : List (List Char)

namespace TableCut

/-- A character within a table. A mark of either kind closes what a mark has opened. -/
def grow (s : TableCut) (part : List Char) (c : Char) : TableCut :=
  let isInside := if isMark c then (if s.isInside then s.isEscaped else true) else s.isInside
  let depth := if !isInside && c == '\x7b' then s.depth + 1 else s.depth
  let next : TableCut :=
    { s with depth := depth, isInside := isInside, isEscaped := c == '\\' && !s.isEscaped, part := some (c :: part) }
  if isInside || c != '\x7d' then next
  else if 1 < depth then { next with depth := depth - 1 }
  else { next with part := none, isAfter := true, parts := (c :: part).reverse :: s.parts }

/-- One more character. -/
def step (s : TableCut) (c : Char) : TableCut :=
  match s.part with
  | some part => s.grow part c
  | none =>
    if !s.isAfter && c == '\x7b' then { s with isEscaped := false, part := some [c] }
    else { s with isAfter := false }

end TableCut

/-- The parts of an array of tables; what stands between them, and a table without its end, are left out. -/
def cutTables (s : List Char) : List (List Char) :=
  match s with
  | [] => []
  | c :: r =>
    let first : TableCut := ⟨if c == '\x7b' then 1 else 0, false, false, some [c], false, []⟩
    (r.foldl TableCut.step first).parts.reverse

/-- The parts of an array, by what stands first in it. -/
def arrayParts (s : List Char) : Except Fault (List (List Char)) :=
  let body := within s
  match (stripLeft body).head? with
  | some '[' => .ok (cutArrays 0 [] body)
  | some '\x7b' => .ok (cutTables body)
  | first =>
    match splitOn ',' body with
    | part :: ps => if first.any isMark then joinTexts part true ps else .ok (part :: ps)
    | [] => .ok []

/-- Whether a key and a value in a table within a line are all there: the value is a text between two marks of a kind,
begins with a digit or a hyphen, is a boolean, or stands between brackets or braces. -/
def isEntry (s : List Char) : Except Fault Bool :=
  match cutFirst '=' s with
  | (_, none) => .error .invalid
  | (_, some value) =>
    let v := strip value
    match v.head?, v.getLast? with
    | some a, some z =>
      .ok ((isMark a && z == a) || a == '-' || a.isDigit || v == "true".toList || v == "false".toList ||
        (a == '[' && z == ']') || (a == '\x7b' && z == '\x7d'))
    | _, _ => .error .noCharacter

/-- The keys and values of a table within a line, of which the first is `part`, from those between commas. -/
def joinEntries (part : List Char) : List (List Char) → Except Fault (List (List Char))
  | [] => (isEntry part).bind fun b => if b then .ok [part] else .error .invalid
  | p :: ps => (isEntry part).bind fun b =>
    if b then (joinEntries p ps).map (part :: ·) else joinEntries (part ++ ',' :: p) ps

/-- The keys and values of a table within a line. -/
def entryParts (s : List Char) : Except Fault (List (List Char)) :=
  match splitOn ',' (within s) with
  | [] => .ok []
  | [part] => if strip part = [] then .ok [] else joinEntries part []
  | part :: ps => joinEntries part ps

end Endpoint.Toml
