import Endpoint.Address.DottedQuad

/-!
# Colon-separated groups

The text form of an address of version 6, without its scope: eight groups of hexadecimal digits between colons. A
double colon stands for one or more zero groups, and a dotted quad may stand for the last two groups. Groups may have
leading zeros.

`write` gives the shortest form: the leftmost of the longest runs of two or more zero groups becomes the double colon.
-/

namespace Endpoint.ColonGroups

open Text

/-- The number in one group. -/
def group? (s : List Char) : Option Nat :=
  (hexValue? s).bind fun n => if n < 65536 then some n else none

/-- The two groups that a dotted quad stands for. -/
def tailGroups (o : Octets) : List Nat :=
  groupsOfOctets o.vals

/-- The groups in a list of pieces; the last piece may be a dotted quad. -/
def groups? : List (List Char) → Option (List Nat)
  | [] => some []
  | [p] => if '.' ∈ p then (DottedQuad.read? p).map tailGroups else (group? p).map ([·])
  | p :: q :: ps => (group? p).bind fun g => (groups? (q :: ps)).map (g :: ·)

/-- The texts before and after the first double colon. -/
def cutGap : List Char → Option (List Char × List Char)
  | ':' :: ':' :: r => some ([], r)
  | c :: r => (cutGap r).map fun p => (c :: p.1, p.2)
  | [] => none

/-- The groups to the left of a double colon. -/
def before? (s : List Char) : Option (List Nat) :=
  if s = [] then some [] else (splitOn ':' s).mapM group?

/-- The groups to the right of a double colon. -/
def after? (s : List Char) : Option (List Nat) :=
  if s = [] then some [] else groups? (splitOn ':' s)

/-- The zero groups put in for a double colon: as many as are missing, and at least one. -/
def fill? (left right : List Nat) : Option (List Nat) :=
  if left.length + right.length ≤ 7 then
    some (left ++ List.replicate (8 - (left.length + right.length)) 0 ++ right)
  else none

/-- The groups a text denotes. -/
def read? (s : List Char) : Option Groups :=
  let all := match cutGap s with
    | none => groups? (splitOn ':' s)
    | some (l, r) => (before? l).bind fun left => (after? r).bind fun right => fill? left right
  all.bind (Words.ofList? 8 65536)

/-- The number of zeros a list begins with. -/
def zeroRun : List Nat → Nat
  | 0 :: r => zeroRun r + 1
  | _ => 0

/-- Where the leftmost of the longest runs of zeros begins, and its length. -/
def longestRun : List Nat → Nat × Nat
  | [] => (0, 0)
  | g :: gs =>
    let here := zeroRun (g :: gs)
    let later := longestRun gs
    if later.2 ≤ here then (0, here) else (later.1 + 1, later.2)

/-- Groups in hexadecimal with colons between them. -/
def writeAll (gs : List Nat) : List Char :=
  joinWith ':' (gs.map hex)

/-- The shortest text of eight groups. -/
def write (g : Groups) : List Char :=
  let run := longestRun g.vals
  if 2 ≤ run.2 then
    writeAll (g.vals.take run.1) ++ [':', ':'] ++ writeAll (g.vals.drop (run.1 + run.2))
  else writeAll g.vals

end Endpoint.ColonGroups
