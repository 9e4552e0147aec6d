import Endpoint.Text.Alphanumeric
import Endpoint.Text.Blank
import Endpoint.Toml.Fault
import Endpoint.Toml.Mark

/-!
# Lines of a document

A document is laid out in lines before its values are read. Comments become blanks, and so do the ends of lines
between brackets. The characters of keys are checked, and marks are followed so that a text does not end in the
middle of a line. The ends of lines in a text of several lines stay.
-/

namespace Endpoint.Toml

open Text

/-- What a character belongs to. -/
inductive Region where
  /-- A value, or the beginning of a line. -/
  | plain
  /-- A name in a key; whether a dot came before. -/
  | key (dotted : Bool)
  /-- What follows a name in a key; whether a dot came before. -/
  | afterKey (dotted : Bool)
  /-- The header of a table. -/
  | tableHeader
  /-- The header of an element of a list of tables. -/
  | elementHeader
  deriving DecidableEq, Repr

/-- Whether characters belong to a header. -/
def Region.isHeader : Region → Bool
  | .tableHeader => true
  | .elementHeader => true
  | _ => false

/-- A document that is laid out up to some character. -/
structure Layout where
  /-- The characters laid out, the latest first. -/
  before : List Char
  region : Region
  /-- The mark of the text that is open. -/
  mark : Option Char
  /-- Whether three marks have opened a text of several lines that three more have not closed. -/
  isLong : Bool
  /-- The brackets opened less the brackets closed, without those of headers. -/
  depth : Int
  /-- Whether nothing but blanks was seen on the line. -/
  atStart : Bool
  inComment : Bool

namespace Layout

/-- Nothing laid out. -/
def empty : Layout := ⟨[], .plain, none, false, 0, true, false⟩

/-- One more character. -/
def push (s : Layout) (c : Char) : Layout :=
  { s with before := c :: s.before }

/-- The characters before one, the nearest first. Before the first character of a document comes its end. -/
def behind (s : Layout) (c : Char) (rest : List Char) : List Char :=
  match s.before with
  | [] => (c :: rest).reverse
  | b => b

/-- A key goes on with another name if neither a blank nor a dot comes next. -/
def resume (s : Layout) (next : Option Char) : Except Fault Layout :=
  match next with
  | none => .error .noPart
  | some d => .ok { s with region := if isBlank d || d == '.' then .afterKey true else .key true }

/-- A character of a name in a key without marks. A name after a dot may begin with a mark. -/
def nameStep (s : Layout) (dotted : Bool) (c : Char) : Except Fault Layout :=
  let next := s.push c
  if isBlank c then .ok { next with region := .afterKey dotted }
  else if c == '.' then .ok { next with region := .key true }
  else if isAlphanumeric c || c == '_' || c == '-' then .ok next
  else if dotted && s.before.head? == some '.' && isMark c then .ok { next with mark := some c }
  else if c == '=' then .ok { next with region := .plain }
  else .error .invalid

/-- A character after a name in a key: a blank, a dot, or the equals sign. -/
def afterNameStep (s : Layout) (dotted : Bool) (c : Char) (next : Option Char) : Except Fault Layout :=
  if isBlank c then (if dotted then (s.push c).resume next else .ok (s.push c))
  else if c == '.' then (s.push c).resume next
  else if c == '=' then .ok { s.push c with region := .plain }
  else .error .invalid

/-- A character of a key, which ends on the line it begins on. -/
def keyStep (s : Layout) (dotted : Bool) (c : Char) (next : Option Char) : Except Fault Layout :=
  if c == '\n' then .error .invalid
  else match s.mark with
    | some m =>
      if c == m && !hasOddBackslashes s.before then
        .ok { s.push c with region := .afterKey dotted, mark := none }
      else .ok (s.push c)
    | none => match s.region with
      | .afterKey _ => s.afterNameStep dotted c next
      | _ => s.nameStep dotted c

/-- The marks after one more mark: it opens or closes a text, or the third in a row a text of several lines. A double
mark after an odd number of backslashes counts for nothing. -/
def turn (s : Layout) (c : Char) (rest : List Char) : Layout :=
  let behind := s.behind c rest
  let run := ((behind.take 2).takeWhile (· == c)).length
  if c == doubleMark && run != 1 && hasOddBackslashes (behind.drop run) then s
  else
    let isLong := if run = 2 then !s.isLong else s.isLong
    let isOpen := if run = 2 then isLong else s.mark.isNone
    { s with isLong := isLong, mark := if isOpen then some c else none }

/-- The end of a line. In a text of several lines two marks before it go on with a third in its place. -/
def newline (s : Layout) : Except Fault Layout :=
  if s.mark.isSome && !s.isLong then .error .invalid
  else if s.isLong then
    match s.before with
    | a :: b :: r =>
      if isMark a && a == b then
        let r := if r.head? == some a then ' ' :: r.drop 1 else r
        .ok { s with before := a :: a :: b :: r }
      else .ok (s.push '\n')
    | _ => .ok (s.push '\n')
  else if s.depth ≠ 0 then .ok (s.push ' ')
  else .ok { s.push '\n' with atStart := true }

/-- The brackets after one more character. -/
def bracket (s : Layout) (c : Char) (next : Option Char) : Layout :=
  if s.mark.isSome then s
  else if c == '[' && !s.region.isHeader then
    if s.atStart then { s with region := if next == some '[' then .elementHeader else .tableHeader }
    else { s with depth := s.depth + 1 }
  else if c == ']' then
    match s.region with
    | .tableHeader => { s with region := .plain }
    | .elementHeader => if s.before.head? == some ']' then { s with region := .plain } else s
    | _ => { s with depth := s.depth - 1 }
  else s

/-- A character laid out as it is. The first one of a line that is not in a header begins a key. -/
def keep (s : Layout) (c : Char) : Except Fault Layout :=
  if !s.atStart || c == ' ' || c == '\t' then .ok (s.push c)
  else if s.region.isHeader then .ok { s.push c with atStart := false }
  else if c == '=' then .error .invalid
  else .ok { s.push c with atStart := false, region := .key false }

/-- A character outside of keys and comments. -/
def plainStep (s : Layout) (c : Char) (rest : List Char) : Except Fault Layout :=
  if c == '\n' then s.newline
  else if c == '#' && s.mark.isNone && !s.region.isHeader then .ok { s.push ' ' with inComment := true }
  else if isMark c && s.mark.all (· == c) then (s.turn c rest).keep c
  else (s.bracket c rest.head?).keep c

/-- The layout after one more character, before some others. -/
def step (s : Layout) (c : Char) (rest : List Char) : Except Fault Layout :=
  if s.inComment && c != '\n' then .ok (s.push ' ')
  else
    let s := { s with inComment := false }
    match s.region with
    | .key dotted => s.keyStep dotted c rest.head?
    | .afterKey dotted => s.keyStep dotted c rest.head?
    | _ => s.plainStep c rest

/-- The layout after some more characters. -/
def run (s : Layout) : List Char → Except Fault Layout
  | [] => .ok s
  | c :: r => (s.step c r).bind fun s => s.run r

/-- The lines, if neither a key nor a text is unfinished. -/
def lines (s : Layout) : Except Fault (List (List Char)) :=
  match s.region with
  | .key _ => .error .invalid
  | .afterKey _ => .error .invalid
  | _ => if s.mark.isSome then .error .invalid else .ok (splitOn '\n' s.before.reverse)

end Layout

/-- The lines of a document. -/
def lines (s : List Char) : Except Fault (List (List Char)) :=
  (Layout.empty.run s).bind Layout.lines

end Endpoint.Toml
