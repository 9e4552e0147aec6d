import Endpoint.Text.Split

/-!
# Paths

A path is relative, or begins with one slash or with exactly two. Empty components and single dots are left out, and
two dots stay. The empty path is written as a dot.
-/

namespace Endpoint

/-- A path: the slashes it begins with, and its components. -/
structure Path where
  slashes : Nat
  parts : List String
  deriving DecidableEq, Repr

namespace Path

/-- The components in a text. -/
def partsOf (s : List Char) : List String :=
  ((Text.splitOn '/' s).filter fun p => p != [] && p != ['.']).map String.ofList

/-- The path a text denotes. -/
def ofString (s : String) : Path :=
  let leading := (s.toList.takeWhile (· == '/')).length
  ⟨if leading = 0 then 0 else if leading = 2 then 2 else 1, partsOf s.toList⟩

/-- A name in the directory at a path. -/
def child (p : Path) (name : String) : Path :=
  { p with parts := p.parts ++ [name] }

/-- The text of a path. -/
def text (p : Path) : String :=
  if p.slashes = 0 ∧ p.parts = [] then "."
  else String.ofList (List.replicate p.slashes '/') ++ String.intercalate "/" p.parts

end Path

end Endpoint
