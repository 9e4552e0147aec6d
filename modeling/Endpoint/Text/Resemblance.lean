/-!
# Resemblance of words

The characters two words share are counted along their longest common block, the blocks to the left of it, and the
blocks to the right of it. Words resemble each other if these are at least three fifths of all characters.
-/

namespace Endpoint.Text

/-- The number of characters two texts begin with alike. -/
def commonStart : List Char → List Char → Nat
  | a :: as, b :: bs => if a = b then commonStart as bs + 1 else 0
  | _, _ => 0

/-- The longest common block of two texts: where it begins in either, and its length. Of several, it is the leftmost
in the first text, and then in the second. -/
def longestBlock (a b : List Char) : Nat × Nat × Nat :=
  let starts := (List.range a.length).flatMap fun i => (List.range b.length).map fun j => (i, j)
  starts.foldl (fun best s =>
    let n := commonStart (a.drop s.1) (b.drop s.2)
    if best.2.2 < n then (s.1, s.2, n) else best) (0, 0, 0)

/-- The number of characters in the common blocks of two texts, at most so many blocks deep. -/
def sharedChars : Nat → List Char → List Char → Nat
  | 0, _, _ => 0
  | n + 1, a, b =>
    let (i, j, k) := longestBlock a b
    if k = 0 then 0
    else sharedChars n (a.take i) (b.take j) + k + sharedChars n (a.drop (i + k)) (b.drop (j + k))

/-- Whether a word resembles another one. -/
def resembles (candidate word : String) : Bool :=
  let a := candidate.toList
  let b := word.toList
  3 * (a.length + b.length) ≤ 10 * sharedChars (a.length + 1) a b

end Endpoint.Text
