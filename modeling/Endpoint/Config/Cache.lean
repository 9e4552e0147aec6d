import Endpoint.Config.Load

/-!
# Settings kept between uses

The settings are loaded when they are first asked for and kept. Loading them again replaces what is kept; a failure to
load leaves it alone. Each settings record that is kept has a number of its own.
-/

namespace Endpoint

/-- The settings that are kept, with their number, and the number for the next ones. -/
structure ConfigCache where
  kept : Option (Nat × Config)
  fresh : Nat

namespace ConfigCache

/-- Nothing kept yet. -/
def empty : ConfigCache := ⟨none, 0⟩

/-- Other settings in the place of those that are kept. -/
def store (k : ConfigCache) (c : Config) : ConfigCache :=
  ⟨some (k.fresh, c), k.fresh + 1⟩

/-- The settings loaded anew, and kept if that succeeds. -/
def reload (k : ConfigCache) (e : Environment) (t : FileTree) :
    Except Config.LoadError (Nat × Config) × ConfigCache :=
  match Config.load e t with
  | .ok c => (.ok (k.fresh, c), k.store c)
  | .error err => (.error err, k)

/-- The settings that are kept, or else loaded and kept. -/
def get (k : ConfigCache) (e : Environment) (t : FileTree) :
    Except Config.LoadError (Nat × Config) × ConfigCache :=
  match k.kept with
  | some c => (.ok c, k)
  | none => k.reload e t

/-- The settings that are kept, changed in place. -/
def modify (k : ConfigCache) (f : Config → Config) : ConfigCache :=
  { k with kept := k.kept.map fun c => (c.1, f c.2) }

end ConfigCache

end Endpoint
