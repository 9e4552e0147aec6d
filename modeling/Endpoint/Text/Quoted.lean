import Endpoint.Text.Numeral
import Endpoint.Text.Printable

/-!
# Quoted texts

A text is quoted in single marks, or in double marks if it holds a single mark and no double one. The mark and the
backslash are written after a backslash, tab, newline and carriage return as `\t`, `\n` and `\r`, and the other
unprintable characters by their code in hexadecimal.
-/

namespace Endpoint.Text

/-- The single quotation mark. -/
def singleMark : Char := '\x27'

/-- The double quotation mark. -/
def doubleMark : Char := '\x22'

/-- The mark a text is quoted in. -/
def quoteMark (s : List Char) : Char :=
  if s.contains singleMark && !s.contains doubleMark then doubleMark else singleMark

/-- The code of a character in as many digits as its size asks for: two, four or eight. -/
def codeEscape (n : Nat) : List Char :=
  if n < 0x100 then '\\' :: 'x' :: hexPadded 2 n
  else if n < 0x10000 then '\\' :: 'u' :: hexPadded 4 n
  else '\\' :: 'U' :: hexPadded 8 n

/-- One character as it is written between marks. -/
def quoteChar (mark c : Char) : List Char :=
  if c = mark ∨ c = '\\' then ['\\', c]
  else if c = '\t' then ['\\', 't']
  else if c = '\n' then ['\\', 'n']
  else if c = '\r' then ['\\', 'r']
  else if isPrintable c then [c]
  else codeEscape c.toNat

/-- A text between quotation marks. -/
def quoteChars (s : List Char) : List Char :=
  let mark := quoteMark s
  mark :: s.flatMap (quoteChar mark) ++ [mark]

/-- A text between quotation marks. -/
def quoted (s : String) : String :=
  String.ofList (quoteChars s.toList)

end Endpoint.Text
