import Endpoint.Text.Numeral
import Endpoint.Toml.Fault
import Endpoint.Toml.Mark

/-!
# Texts between marks

Double marks hold escapes, single marks do not. Three marks hold a text of several lines.
-/

namespace Endpoint.Toml

open Text

/-- The character that a letter after a backslash stands for. -/
def escape? : Char → Option Char
  | '0' => some '\x00'
  | 'b' => some '\x08'
  | 't' => some '\t'
  | 'n' => some '\n'
  | 'f' => some '\x0c'
  | 'r' => some '\r'
  | '\x22' => some '\x22'
  | _ => none

/-- Whether a letter after a backslash begins the code of a character. -/
def isCodeLetter (c : Char) : Bool :=
  c == 'u' || c == 'U'

/-- Whether nothing follows the mark that closes a text, for the parts of the text between marks of its kind. `run`
counts the marks in a row that may close a text of several lines. -/
def endsWithMark (isLong : Bool) (run : Nat) (closed : Bool) : List (List Char) → Bool
  | [] => true
  | [] :: ps => if isLong then endsWithMark isLong (run + 1) closed ps else endsWithMark isLong run true ps
  | p :: ps =>
    if escapesNext p then endsWithMark isLong run closed ps
    else if closed then false
    else if !isLong || 1 < run then endsWithMark isLong run true ps
    else endsWithMark isLong 0 closed ps

/-- Whether nothing follows the mark that closes a text. -/
def isClosed (mark : Char) (s : List Char) : Bool :=
  match splitOn mark (s.drop 1) with
  | [] :: [] :: ps => endsWithMark true 0 false ps
  | ps => endsWithMark false 0 false ps

/-- Whether every backslash begins an escape, for the parts of a text after its backslashes. -/
def escapesOnly (isEscaped : Bool) : List (List Char) → Bool
  | [] => true
  | [] :: ps => escapesOnly (!isEscaped) ps
  | (c :: _) :: ps =>
    if (escape? c).isNone && !isCodeLetter c && !isEscaped then false
    else escapesOnly false ps

/-- The character with a code. The codes from `D800` up to `DFFF` are those of no characters, and the replacement
character stands for them. -/
def charOfCode (n : Nat) : Char :=
  if n.isValidChar then Char.ofNat n else '\uFFFD'

/-- The character whose code begins a text, in so many hexadecimal digits or as many as there are, and the rest. Codes
from `D800` up to `DFFF` are refused only if they are written without zeros before them. -/
def coded (width : Nat) (s : List Char) : Except Fault (Char × List Char) :=
  let digits := s.take width
  match digits.mapM hexDigit? with
  | none => .error .invalid
  | some [] => .error .noCharacter
  | some [0xD] => .error .noCharacter
  | some (d :: ds) =>
    let n := (d :: ds).foldl (fun n d => 16 * n + d) 0
    if d = 0xD ∧ ds.head?.any (8 ≤ ·) then .error .invalid
    else if 0x7FFFFFFF < n then .error .codeTooLarge
    else if 0x10FFFF < n then .error .invalid
    else .ok (charOfCode n, s.drop width)

/-- The parts of a text after a letter of codes, with the codes that they begin with as characters. A part that is
escaped is kept as it is. -/
def decodeParts (letter : Char) (width : Nat) (isEscaped : Bool) : List (List Char) → Except Fault (List Char)
  | [] => .ok []
  | p :: ps =>
    if isEscaped then
      (decodeParts letter width (escapesNext p) ps).map fun r => '\\' :: letter :: p ++ r
    else
      (coded width p).bind fun q => (decodeParts letter width false ps).map fun r => q.1 :: q.2 ++ r

/-- A text with the codes after backslash and a letter as characters. -/
def decodeCodes (letter : Char) (width : Nat) (s : List Char) : Except Fault (List Char) :=
  match splitOnPair '\\' letter s with
  | [] => .ok []
  | p :: ps => (decodeParts letter width (escapesNext p) ps).map fun r => p ++ r

/-- A text with its escapes as characters, but for codes. -/
def unescape : List Char → Except Fault (List Char)
  | [] => .ok []
  | '\\' :: c :: r =>
    match escape? c with
    | some x => (unescape r).map (x :: ·)
    | none =>
      if c = '\\' then (unescape r).map ('\\' :: ·)
      else if isCodeLetter c then (unescape r).map fun r => '\\' :: c :: r
      else .error .invalid
  | c :: r => (unescape r).map (c :: ·)

/-- A text in double marks with its escapes as characters. -/
def unescapeAll (s : List Char) : Except Fault (List Char) :=
  if escapesOnly false ((splitOn '\\' s).drop 1) then
    ((decodeCodes 'u' 4 s).bind (decodeCodes 'U' 8)).bind unescape
  else .error .invalid

/-- A text without the marks at its ends: three at each end if the second character is a mark, and the third as well
where there is one, and else one. -/
def withoutMarks (mark : Char) (s : List Char) : List Char :=
  let isLong := match s with
    | [_, b] => b == mark
    | _ :: b :: c :: _ => b == mark && b == c
    | _ => false
  within (if isLong then within (within s) else s)

/-- The text that stands between marks, the first of which the input begins with. -/
def marked (mark : Char) (s : List Char) : Except Fault (List Char) :=
  if isClosed mark s then
    (if mark == doubleMark then unescapeAll s else .ok s).map (withoutMarks mark)
  else .error .invalid

end Endpoint.Toml
