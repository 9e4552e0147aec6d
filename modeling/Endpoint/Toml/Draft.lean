import Endpoint.Toml.Assignment
import Endpoint.Toml.Header

/-!
# Documents read in part

The keys of a document go to the table that the last header names. A table has one header, except that a table which
only exists because a header named one inside it may have its own later. Where a header comes to a list of tables it
goes on in the last one.
-/

namespace Endpoint.Toml

/-- A document that is read in part: its entries, the place that keys go to, the names of tables that only exist
because a header named one inside them, and the text that is open. -/
structure Draft where
  root : Value
  place : Place
  implied : List String
  opened : Option OpenText

namespace Draft

/-- A document without entries. -/
def empty : Draft := ⟨emptyTable, [], [], none⟩

/-- The value at the place that keys go to. -/
def current? (d : Draft) : Option Value :=
  d.place.find? d.root

/-- The draft at the last element of what is at its place. -/
def enterLast (d : Draft) : Except Fault Draft :=
  match d.current? with
  | some (.list []) => .error .noPart
  | some (.list _) => .ok { d with place := d.place ++ [.last] }
  | some (.text s) => if s = "" then .error .noCharacter else .ok { d with place := d.place ++ [.last] }
  | some v => .error (.noElements v.kindName)
  | none => .error .noPart

/-- The draft with a value under a new key, and at that key. -/
def make (d : Draft) (name : String) (v : Value) : Draft :=
  { d with root := d.place.change (put name v) d.root, place := d.place ++ [.key name] }

/-- The draft with a table at a key that its place already has. -/
def reopen (d : Draft) (name : String) (v : Value) (isElement isLast : Bool) : Except Fault Draft :=
  let entered : Draft := { d with place := d.place ++ [.key name] }
  if !isLast then .ok entered
  else if d.implied.contains name then
    if isElement then .error .invalid else .ok { entered with implied := d.implied.erase name }
  else if isElement then
    match v with
    | .list _ => .ok { entered with root := entered.place.change (extend emptyTable) d.root }
    | _ => .error .notList
  else .error .invalid

/-- The draft at a key, where a table or a list of one table is made if there is nothing. In a list the key is looked
for in the last element. -/
def enter (d : Draft) (name : String) (isElement isLast : Bool) : Except Fault Draft :=
  let fresh : Value := if isElement && isLast then .list [emptyTable] else emptyTable
  match d.current? with
  | some (.table es) => match Value.entry? es name with
    | some v => d.reopen name v isElement isLast
    | none => .ok ({ d with implied := if isLast then d.implied else d.implied ++ [name] }.make name fresh)
  | _ => d.enterLast.bind fun d => match d.current? with
    | some (.table es) =>
      if (Value.entry? es name).isSome then .ok { d with place := d.place ++ [.key name] }
      else .ok (d.make name fresh)
    | some v => .error (keyFault name v)
    | none => .error .noPart

/-- The draft at the last element where an element of a list is named, unless there is a table. -/
def settle (d : Draft) (isElement : Bool) : Except Fault Draft :=
  if !isElement then .ok d
  else match d.current? with
    | some (.table _) => .ok d
    | _ => d.enterLast

/-- The draft after the names of a header. -/
def follow (d : Draft) (isElement : Bool) : List String → Except Fault Draft
  | [] => .ok d
  | name :: names =>
    if name = "" then .error .invalid
    else (d.enter name isElement names.isEmpty).bind fun d =>
      (d.settle isElement).bind fun d => d.follow isElement names

/-- The draft after a header, which is looked for from the outermost table. -/
def openTable (d : Draft) (h : Header) : Except Fault Draft :=
  { d with place := [] }.follow h.isElement h.names

end Draft

end Endpoint.Toml
