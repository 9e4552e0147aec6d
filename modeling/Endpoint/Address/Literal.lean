import Endpoint.Address.ColonGroups
import Endpoint.Text.Blank

/-!
# Address literals

Reading an address from text, and the texts of an address: the plain one and the one for a URL.
-/

namespace Endpoint

open Text

/-- The text inside one pair of square brackets, or the text itself if it is not in brackets. -/
def unbracket : List Char → List Char
  | '[' :: r => if r.getLast? = some ']' then r.dropLast else '[' :: r
  | s => s

namespace IpAddress

/-- The address of version 6 a text denotes: groups, and after a percent sign a scope, which is neither empty nor
holds another percent sign. A slash is refused everywhere. -/
def readV6? (s : List Char) : Option IpAddress :=
  if '/' ∈ s then none
  else match cutFirst '%' s with
    | (a, none) => (ColonGroups.read? a).map (.v6 · none)
    | (a, some z) =>
      if z = [] ∨ '%' ∈ z then none
      else (ColonGroups.read? a).map (.v6 · (some (String.ofList z)))

/-- The address of version 4 a text denotes. -/
def readV4? (s : List Char) : Option IpAddress :=
  (DottedQuad.read? s).map .v4

/-- The scope as it is written after the groups. -/
def scopeText : Option String → List Char
  | none => []
  | some z => '%' :: z.toList

/-- The text of an address, with groups throughout and with its scope. -/
def compressed : IpAddress → List Char
  | .v4 o => DottedQuad.write o
  | .v6 g z => ColonGroups.write g ++ scopeText z

/-- The text of an address, where an IPv4-mapped address ends in a dotted quad and has no scope. -/
def plain : IpAddress → List Char
  | .v4 o => DottedQuad.write o
  | .v6 g z => match mapped? g with
    | some o => "::ffff:".toList ++ DottedQuad.write o
    | none => compressed (.v6 g z)

/-- The text of an address in a URL: brackets around version 6. -/
def url : IpAddress → List Char
  | .v4 o => plain (.v4 o)
  | .v6 g z => '[' :: plain (.v6 g z) ++ [']']

/-- The text of an address, with groups throughout and with its scope. -/
def text (a : IpAddress) : String :=
  String.ofList a.compressed

end IpAddress

end Endpoint
