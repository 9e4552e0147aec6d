/-!
# What stands against reading a document

A document that breaks a rule of the format is invalid, and counts as no document at all. Some documents lead further:
to a character or a part that is not there, or to a key of a value that has no keys. Those are failures of their own,
each with its wording.
-/

namespace Endpoint.Toml

/-- Why a document cannot be read. -/
inductive Fault where
  /-- A rule of the format is broken. -/
  | invalid
  /-- A character is needed where the text has ended. -/
  | noCharacter
  /-- A part is needed where there are no more parts. -/
  | noPart
  /-- The last element is needed of a value that has no elements. -/
  | noElements (kind : String)
  /-- A key is looked for in a value that holds nothing. -/
  | noMembers (kind : String)
  /-- A key is needed of a text that holds the key's name. -/
  | textByKey
  /-- A key is given to a text that does not hold the key's name. -/
  | keyOfText
  /-- A key is needed of a list. -/
  | listByKey
  /-- A table is added to what is no list. -/
  | notList
  /-- A text of several lines has an empty key. -/
  | unnamedText
  /-- The code of a character does not fit into 31 bits. -/
  | codeTooLarge
  /-- The decimals of a second make a number too large to be rounded. -/
  | decimalsTooLarge
  deriving DecidableEq, Repr

/-- The wording of a failure to read. -/
def Fault.message : Fault → String
  | .invalid => "not a valid document"
  | .noCharacter => "string index out of range"
  | .noPart => "list index out of range"
  | .noElements kind => "\x27" ++ kind ++ "\x27 object is not subscriptable"
  | .noMembers kind => "argument of type \x27" ++ kind ++ "\x27 is not iterable"
  | .textByKey => "string indices must be integers, not \x27str\x27"
  | .keyOfText => "\x27str\x27 object does not support item assignment"
  | .listByKey => "list indices must be integers or slices, not str"
  | .notList => "You can only load a file descriptor, filename or list"
  | .unnamedText => "cannot access local variable \x27value\x27 where it is not associated with a value"
  | .codeTooLarge => "Python int too large to convert to C int"
  | .decimalsTooLarge => "int too large to convert to float"

end Endpoint.Toml
