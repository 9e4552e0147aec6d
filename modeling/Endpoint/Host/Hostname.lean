import Endpoint.Text.Digit
import Endpoint.Text.Split

/-!
# Hostnames

A hostname is at most 253 characters long and made of labels between dots. A label begins with an ASCII letter or digit.
If there is more of it, there are up to 61 letters, digits and hyphens, and then a letter or a digit closes it. The last
label is not a number, since that would be a malformed address of version 4.
-/

namespace Endpoint.Hostname

open Text

/-- The characters of a label: ASCII letters, digits and the hyphen. -/
def isLabelChar (c : Char) : Bool :=
  c.isAlphanum || c == '-'

/-- Whether a text is up to `room` characters of a label, and then a letter or a digit that closes it. Where a character
may do either, it is first taken for one of the label. -/
def closesLabel : Nat → List Char → Bool
  | _, [] => false
  | 0, c :: r => c.isAlphanum && r.isEmpty
  | room + 1, c :: r => (isLabelChar c && closesLabel room r) || (c.isAlphanum && r.isEmpty)

/-- Whether a text is a label. -/
def isLabel : List Char → Bool
  | [] => false
  | c :: r => c.isAlphanum && (r.isEmpty || closesLabel 61 r)

/-- Whether a text is a hostname. -/
def isValid (s : List Char) : Bool :=
  let labels := splitOn '.' s
  !s.isEmpty && s.length ≤ 253 && s.getLast? != some '.' && labels.all isLabel && !(labels.getLast?.any isDigits)

/-- A hostname in lower case. -/
def lower (s : List Char) : List Char :=
  s.map Char.toLower

/-- The first label of a name, which is all of it if it has no dot. -/
def firstLabel (s : List Char) : List Char :=
  (cutFirst '.' s).1

end Endpoint.Hostname
