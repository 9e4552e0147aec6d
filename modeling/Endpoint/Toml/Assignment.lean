import Endpoint.Toml.Date
import Endpoint.Toml.Marked
import Endpoint.Toml.Number
import Endpoint.Toml.Parts
import Endpoint.Toml.Place

/-!
# Keys and their values

A line gives a value to a key. It is cut at the equals sign after which a value can begin; the key may lead through
tables, which are made where there are none; and no key is given a value twice. A text of several lines may be left
open at the end of the line.
-/

namespace Endpoint.Toml

open Text

/-- A line cut into key and value. -/
structure Assignment where
  key : List Char
  value : List Char
  /-- Whether the value, if it is a number, is written in good order. -/
  isOrderly : Bool

/-- Whether a value can begin as a text does: it is empty, begins with a blank, a mark, a bracket or a brace, or is
a boolean, a number, a date or a time. -/
def canBeValue (s : List Char) : Except Fault Bool :=
  match s with
  | [] => .ok true
  | c :: _ =>
    if c == ' ' || c == '\t' || isMark c || c == '[' || c == '\x7b' || strip s = "true".toList ||
        strip s = "false".toList || (real? s).isSome then
      .ok true
    else (date? s).map fun d => d.isSome || (clock? s).isSome

/-- The first cut into key and value whose value can be one. -/
def chooseCut (isOrderly : Bool) : List (List Char × List Char) → Except Fault Assignment
  | [] => .error .invalid
  | (k, v) :: cuts =>
    let orderly := isOrderly && Toml.isOrderly v
    (canBeValue v).bind fun b =>
      if b then .ok ⟨strip k, strip v, orderly⟩ else chooseCut orderly cuts

/-- The key and the value of a line. A value that begins with a digit right after the equals sign is looked at without
its underscores first. -/
def Assignment.ofLine (line : List Char) : Except Fault Assignment :=
  let pieces := splitOn '=' line
  let last := pieces.length - 1
  let first := min (1 + skipped (List.count '=') false (markedParts line)) last
  let cut (i : Nat) : List Char × List Char := (joinWith '=' (pieces.take i), joinWith '=' (pieces.drop i))
  let value := (cut first).2
  let plain := if value.head?.any Char.isDigit then value.filter (· != '_') else value
  let later :=
    if first < last then (List.range (last - first)).map fun i => cut (first + 1 + i)
    else if plain ≠ value then [cut last]
    else []
  (canBeValue plain).bind fun b =>
    if b then .ok ⟨strip (cut first).1, strip plain, Toml.isOrderly value⟩
    else chooseCut (Toml.isOrderly value) later

/-- The names in the parts of a key outside and inside of marks, in turn: outside they stand between dots. -/
def namesOf (isInside : Bool) : List (List Char) → List (List Char)
  | [] => []
  | p :: ps => (if isInside then [p] else (splitOn '.' p).map strip) ++ namesOf (!isInside) ps

/-- The names of the tables that a key leads through, and its last name. -/
def keyNames (key : List Char) : Except Fault (List String × String) :=
  if key.contains '.' then
    let names := if key.any isMark then namesOf false (markedParts key) else splitOn '.' key
    match names.reverse.dropWhile (· = []) with
    | [] => .error .noPart
    | last :: outer =>
      .ok (((outer.filter (· ≠ [])).reverse).map String.ofList, String.ofList (strip last))
  else
    match key.head?, key.getLast? with
    | some a, some z =>
      if isMark a && a == z then (unescape (within key)).map fun s => ([], String.ofList s)
      else .ok ([], String.ofList key)
    | _, _ => .error .noCharacter

/-- Whether a text occurs within another. -/
def occursIn (s : List Char) : List Char → Bool
  | [] => s.isEmpty
  | c :: r => s.isPrefixOf (c :: r) || occursIn s r

/-- Why there is no table under a key of a value that is none. -/
def keyFault (name : String) : Value → Fault
  | .text s => if occursIn name.toList s.toList then .textByKey else .keyOfText
  | .list _ => .listByKey
  | v => .noMembers v.kindName

/-- The place that names lead to from a place, and the value with a table at each name on the way. -/
def reach (root : Value) (place : Place) : List String → Except Fault (Value × Place)
  | [] => .ok (root, place)
  | name :: names =>
    match place.find? root with
    | some (.table es) =>
      let root := if (Value.entry? es name).isSome then root else place.change (put name emptyTable) root
      reach root (place ++ [.key name]) names
    | some v => .error (keyFault name v)
    | none => .error .noPart

/-- A text of several lines that is not closed yet, or an array that ends in one. -/
structure OpenText where
  key : String
  /-- The character that the value begins with. -/
  opener : Char
  /-- The characters of the value so far, the latest first. -/
  before : List Char
  /-- Whether the next line goes on where this one ended. -/
  isJoined : Bool

/-- An open text at the end of a line: a backslash there leaves out the newline. -/
def OpenText.atLineEnd (key : String) (opener : Char) (before : List Char) : OpenText :=
  if hasOddBackslashes before then ⟨key, opener, before.drop 1, true⟩ else ⟨key, opener, '\n' :: before, false⟩

/-- The last text in an array that is not closed, from the parts between its commas, the last of which comes first. -/
def lastInArray (part : List Char) : List (List Char) → Except Fault (List Char)
  | [] => .ok part
  | p :: ps => match part with
    | [] => .error .noCharacter
    | c :: _ => if isMark c then .ok part else lastInArray (p ++ ',' :: part) ps

/-- Whether a text begins with three marks and does not end with three more. -/
def leavesText (s : List Char) : Except Fault Bool :=
  match s with
  | [] => .error .noCharacter
  | a :: r =>
    if !isMark a then .ok false
    else match r with
      | [] => .error .noCharacter
      | b :: r =>
        if b != a then .ok false
        else match r with
          | [] => .error .noCharacter
          | c :: _ => .ok (c == a && !(5 < s.length && s.reverse.take 3 == [a, a, a]))

/-- Whether a value leaves a text of several lines open: it is such a text, or an array whose last text is one. -/
def leavesOpen (s : List Char) : Except Fault Bool :=
  if s.length < 3 then .ok false
  else if s.head? = some '[' ∧ s.getLast? ≠ some ']' ∧ (strip (within s)).head?.any isMark then
    match (splitOn ',' (strip (s.drop 1))).reverse with
    | part :: ps => (lastInArray part ps).bind leavesText
    | [] => .error .noCharacter
  else leavesText s

/-- A value read from the text of an assignment, given a reader of values, or the text that it leaves open. -/
inductive Assigned where
  | value (v : Value)
  | opened (t : OpenText)

/-- What an assignment gives to its key. -/
def Assignment.assigned (a : Assignment) (key : String) (read : Bool → List Char → Except Fault Value) :
    Except Fault Assigned :=
  (leavesOpen a.value).bind fun b => match b, a.value with
    | true, c :: r => .ok (.opened (.atLineEnd key c (c :: r).reverse))
    | _, s => (read a.isOrderly s).map .value

/-- The value with a line's key given a value at a place, and the text that the line leaves open. -/
def assign (read : Bool → List Char → Except Fault Value) (root : Value) (place : Place) (line : List Char) :
    Except Fault (Value × Option OpenText) :=
  (Assignment.ofLine line).bind fun a =>
    (keyNames a.key).bind fun names =>
      (reach root place names.1).bind fun reached =>
        (a.assigned names.2 read).bind fun assigned =>
          match reached.2.find? reached.1 with
          | some (.table es) =>
            if (Value.entry? es names.2).isSome then .error .invalid
            else match assigned with
              | .opened t => if names.2 = "" then .error .unnamedText else .ok (reached.1, some t)
              | .value v => .ok (reached.2.change (put names.2 v) reached.1, none)
          | _ => .error .invalid

/-- The value with lines' keys given values at a place. A line that leaves a text open is the last one to count. -/
def assignAll (read : Bool → List Char → Except Fault Value) (root : Value) (place : Place) :
    List (List Char) → Except Fault Value
  | [] => .ok root
  | line :: lines => (assign read root place line).bind fun r => match r.2 with
    | none => assignAll read r.1 place lines
    | some _ => .ok r.1

end Endpoint.Toml
