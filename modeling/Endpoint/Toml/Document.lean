import Endpoint.Toml.Draft
import Endpoint.Toml.Layout
import Endpoint.Toml.Term

/-!
# TOML documents

A document is read line by line into the entries of one table. A line is a header, an assignment, the entries of a
table in braces, or goes on with a text of several lines.
-/

namespace Endpoint.Toml

open Text

namespace OpenText

/-- Whether a line closes an open text: it ends with three marks, or with a bracket if the text is in an array. -/
def isClosedBy (t : OpenText) (line : List Char) : Except Fault Bool :=
  if t.opener == '[' then
    match line.getLast? with
    | some c => .ok (c == ']')
    | none => .error .noCharacter
  else .ok (2 < line.length && line.reverse.take 3 == List.replicate 3 t.opener)

/-- The characters of an open text and of one more line, the latest first. -/
def withLine (t : OpenText) (line : List Char) : List Char :=
  line.reverse ++ t.before

end OpenText

namespace Draft

/-- A line without the blanks at its ends, which it keeps where it begins a new line of an open text. -/
def trimmed (d : Draft) (line : List Char) : List Char :=
  if d.opened.any (!·.isJoined) then line else strip line

/-- The draft after a line of an open text. -/
def continueText (d : Draft) (t : OpenText) (line : List Char) : Except Fault Draft :=
  (t.isClosedBy line).bind fun isClosed =>
    if isClosed then
      (value true (t.withLine line).reverse).map fun v =>
        { d with root := d.place.change (put t.key v) d.root, opened := none }
    else .ok { d with opened := some (.atLineEnd t.key t.opener (t.withLine line)) }

/-- The draft after a line that is not blank and outside of texts. -/
def readLine (d : Draft) (line : List Char) : Except Fault Draft :=
  match line.head? with
  | some '[' => (Header.ofLine line).bind d.openTable
  | some '\x7b' =>
    if line.getLast? ≠ some '\x7d' then .error .invalid
    else (entryParts line).bind fun parts =>
      (assignAll value d.root d.place parts).map fun root => { d with root := root }
  | _ =>
    if line.contains '=' then
      (assign value d.root d.place line).map fun r => { d with root := r.1, opened := r.2 }
    else .ok d

/-- The draft after one more line. -/
def addLine (d : Draft) (line : List Char) : Except Fault Draft :=
  let line := d.trimmed line
  match d.opened with
  | some t => if line = [] ∧ t.isJoined then .ok d else d.continueText t line
  | none => if line = [] then .ok d else d.readLine line

/-- The entries of the outermost table. -/
def entries (d : Draft) : Entries :=
  match d.root with
  | .table es => es
  | _ => []

end Draft

mutual

/-- A value with the zones in it where they lie in memory, by their places in the value. -/
def located (memory : List Nat → Nat) : Value → Value
  | .moment (.dateTime d t (some z)) => .moment (.dateTime d t (some { z with address := memory [] }))
  | .list xs => .list (locatedList memory 0 xs)
  | .table es => .table (locatedEntries memory 0 es)
  | v => v

/-- The values of a list from an index on, with their zones where they lie. -/
def locatedList (memory : List Nat → Nat) (i : Nat) : List Value → List Value
  | [] => []
  | v :: vs => located (fun path => memory (i :: path)) v :: locatedList memory (i + 1) vs

/-- The entries of a table from an index on, with the zones of their values where they lie. -/
def locatedEntries (memory : List Nat → Nat) (i : Nat) : Entries → Entries
  | [] => []
  | (k, v) :: es => (k, located (fun path => memory (i :: path)) v) :: locatedEntries memory (i + 1) es

end

/-- The entries of a document whose lines end in newlines. Each zone in it is an object of its own, wherever that comes
to lie. -/
def document (memory : List Nat → Nat) (s : List Char) : Except Fault Entries :=
  (lines s).bind fun ls => (ls.foldlM Draft.addLine .empty).map fun d => locatedEntries memory 0 d.entries

theorem document_of_lines {s : List Char} {ls : List (List Char)} {d : Draft} (hlines : lines s = .ok ls)
    (hd : ls.foldlM Draft.addLine .empty = .ok d) (memory : List Nat → Nat) :
    document memory s = .ok (locatedEntries memory 0 d.entries) := by
  rw [document, hlines]
  change (ls.foldlM Draft.addLine .empty).map _ = _
  rw [hd]
  rfl

end Endpoint.Toml
