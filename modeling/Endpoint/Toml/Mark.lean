import Endpoint.Text.Quoted
import Endpoint.Text.Split

/-!
# Marks and backslashes

Texts stand between single or double marks, and a mark with an odd number of backslashes before it does not count.
A line is cut at its marks into parts that stand outside and inside of them in turn; a separator is looked for outside.
-/

namespace Endpoint.Toml

open Text

/-- Whether a character opens and closes a text. -/
def isMark (c : Char) : Bool :=
  c == singleMark || c == doubleMark

/-- Whether an odd number of backslashes comes first. -/
def hasOddBackslashes (s : List Char) : Bool :=
  (s.takeWhile (· == '\\')).length % 2 == 1

/-- Whether what comes after a text is escaped, because the text ends in an odd number of backslashes. -/
def escapesNext (s : List Char) : Bool :=
  hasOddBackslashes s.reverse

/-- A text without its first and its last character. -/
def within (s : List Char) : List Char :=
  (s.drop 1).dropLast

/-- Parts between single marks, continued over double marks until their number is odd; and the parts between double
marks that are left. -/
def balance (singles : List (List Char)) : List (List Char) → List (List Char) × List (List Char)
  | [] => (singles, [])
  | d :: ds =>
    if singles.length % 2 = 0 then
      let last := singles.getLast?.getD []
      balance (singles.dropLast ++ splitOn singleMark (last ++ doubleMark :: d)) ds
    else (singles, d :: ds)

/-- The parts between double marks, of which the first is cut at single marks too. -/
def cutFirstPart : List (List Char) → List (List Char)
  | [] => []
  | d :: ds => splitOn singleMark d ++ ds

/-- The parts of a line that stand outside and inside of marks, in turn. Double marks are looked at before single
ones, except where a single mark comes first. -/
def markedParts (s : List Char) : List (List Char) :=
  match splitOn doubleMark s with
  | first :: d :: ds =>
    if first.contains singleMark then
      let b := balance (splitOn singleMark first) (d :: ds)
      b.1 ++ cutFirstPart b.2
    else cutFirstPart (first :: d :: ds)
  | ds => cutFirstPart ds

/-- The number of separators before the first part outside of marks that holds one. -/
def skipped (count : List Char → Nat) (isInside : Bool) : List (List Char) → Nat
  | [] => 0
  | p :: ps =>
    if !isInside && count p != 0 then 0
    else count p + skipped count (!isInside) ps

end Endpoint.Toml
