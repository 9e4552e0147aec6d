import Endpoint.Toml.Assignment

/-!
# Values

A value is a boolean, a text between marks, an array, a table within a line, a time, a date or a number, by how it
begins. The values of an array are of one kind.
-/

namespace Endpoint.Toml

open Text

/-- Whether two values may stand in one array. -/
def sameKind : Value → Value → Bool
  | .moment (.time _), .moment (.time _) => true
  | .moment (.time _), _ => false
  | _, .moment (.time _) => false
  | .moment _, .moment _ => true
  | v, w => v.kindName == w.kindName

/-- The elements that parts of an array denote, after those already read, which are kept with the latest first. Parts
of blanks are left out. -/
def elements (read : List Char → Except Fault Value) (done : List Value) :
    List (List Char) → Except Fault (List Value)
  | [] => .ok done.reverse
  | p :: ps =>
    if strip p = [] then elements read done ps
    else (read (strip p)).bind fun v =>
      if done.head?.all (sameKind v) then elements read (v :: done) ps else .error .invalid

/-- The value of a text that is neither boolean, text, array nor table. A number has to be in good order if that is
asked for. -/
def scalar (isOrderly : Bool) (s : List Char) : Except Fault Value :=
  match clock? s with
  | some t => if t.isValid then .ok (.moment (.time t)) else .error .invalid
  | none => (date? s).bind fun d => match d with
    | some m => .ok (.moment m)
    | none => if isOrderly then (number? s).elim (.error .invalid) .ok else .error .invalid

/-- The value that a text denotes, with at most so many values within each other. -/
def valueWithin : Nat → Bool → List Char → Except Fault Value
  | 0, _, _ => .error .invalid
  | n + 1, isOrderly, s =>
    match s.head? with
    | none => .error .invalid
    | some c =>
      if s = "true".toList then .ok (.bool true)
      else if s = "false".toList then .ok (.bool false)
      else if s.map Char.toLower = "true".toList ∨ s.map Char.toLower = "false".toList then .error .invalid
      else if isMark c then (marked c s).map fun t => .text (String.ofList t)
      else if c == '[' then
        (arrayParts s).bind fun parts => (elements (valueWithin n true) [] parts).map .list
      else if c == '\x7b' then
        (entryParts s).bind fun parts => assignAll (valueWithin n) emptyTable [] parts
      else scalar isOrderly s

/-- The value that a text denotes. The values within it are shorter than itself. -/
def value (isOrderly : Bool) (s : List Char) : Except Fault Value :=
  valueWithin (s.length + 1) isOrderly s

end Endpoint.Toml
