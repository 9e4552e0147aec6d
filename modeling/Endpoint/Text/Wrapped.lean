/-!
# Words in lines

Words are put into lines of a width, each as full as the width allows, and a text is shortened to its first sentence
or to whole words and three dots.
-/

namespace Endpoint.Text

/-- The words that go into lines of a width, after a line of words that is begun and as long as `used`. -/
def fillFrom (width : Nat) (line : List String) (used : Nat) : List String → List (List String)
  | [] => [line]
  | w :: ws =>
    if used + 1 + w.length ≤ width then fillFrom width (line ++ [w]) (used + 1 + w.length) ws
    else line :: fillFrom width [w] w.length ws

/-- The words that go into lines of a width. A word that is longer than the width has a line of its own. -/
def fill (width : Nat) : List String → List (List String)
  | [] => []
  | w :: ws => fillFrom width [w] w.length ws

/-- The words of a text between single spaces. -/
def words (s : String) : List String :=
  s.splitOn " "

/-- Words with single spaces between them. -/
def unwords (ws : List String) : String :=
  String.intercalate " " ws

/-- A text in lines of a width. -/
def wrapped (width : Nat) (s : String) : List String :=
  (fill width (words s)).map unwords

/-- The first words that fit into a width, one space after each. -/
def leading (room : Nat) : List String → List String
  | [] => []
  | w :: ws => if w.length ≤ room then w :: leading (room - w.length - 1) ws else []

/-- Words up to the first one that ends with a full stop. -/
def sentence : List String → List String
  | [] => []
  | w :: ws => if w.endsWith "." then [w] else w :: sentence ws

/-- The first sentence of a text if it is not longer than a width, or else as many of its words as fit with three dots
after them. -/
def shortened (width : Nat) (s : String) : String :=
  let whole := unwords (sentence (words s))
  if whole.length ≤ width then whole else unwords (leading (width - 3) (words s)) ++ "..."

end Endpoint.Text
