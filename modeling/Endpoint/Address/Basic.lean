/-!
# IP addresses

An address is four octets, or eight groups of 16 bits with an optional scope. Both are `Words`, and both have a packed
form in octets.

* `ofPacked?_packed`: an address without scope is recovered from its octets.
-/

namespace Endpoint

/-- A fixed number of words below a bound, the most significant first. -/
structure Words (count bound : Nat) where
  vals : List Nat
  length_eq : vals.length = count
  lt_bound : ∀ w ∈ vals, w < bound
  deriving DecidableEq

namespace Words

/-- The words in a list, if they are as many as they should be and all below the bound. -/
def ofList? (count bound : Nat) (l : List Nat) : Option (Words count bound) :=
  if h : l.length = count ∧ ∀ w ∈ l, w < bound then some ⟨l, h.1, h.2⟩ else none

@[simp] theorem ofList?_vals {count bound : Nat} (w : Words count bound) : ofList? count bound w.vals = some w :=
  dif_pos ⟨w.length_eq, w.lt_bound⟩

theorem vals_of_ofList? {count bound : Nat} {l : List Nat} {w : Words count bound}
    (h : ofList? count bound l = some w) : w.vals = l := by
  unfold ofList? at h
  split at h
  · cases h; rfl
  · cases h

theorem ofList?_eq_none {count bound : Nat} {l : List Nat} (h : l.length ≠ count) : ofList? count bound l = none :=
  dif_neg fun h' => h h'.1

end Words

/-- The four octets of an address of version 4. -/
abbrev Octets := Words 4 256

/-- The eight groups of an address of version 6. -/
abbrev Groups := Words 8 65536

/-- Two octets for each 16-bit group. -/
def octetsOfGroups (gs : List Nat) : List Nat :=
  gs.flatMap fun g => [g / 256, g % 256]

/-- One 16-bit group for each two octets. -/
def groupsOfOctets : List Nat → List Nat
  | hi :: lo :: r => (256 * hi + lo) :: groupsOfOctets r
  | _ => []

@[simp] theorem groupsOfOctets_octetsOfGroups (gs : List Nat) : groupsOfOctets (octetsOfGroups gs) = gs := by
  induction gs with
  | nil => rfl
  | cons g gs ih =>
    have hg : 256 * (g / 256) + g % 256 = g := Nat.div_add_mod g 256
    simp only [octetsOfGroups, List.flatMap_cons, List.cons_append, List.nil_append, groupsOfOctets, hg] at ih ⊢
    rw [ih]

/-- An IP address of either version. -/
inductive IpAddress where
  | v4 (octets : Octets)
  | v6 (groups : Groups) (scope : Option String)
  deriving DecidableEq

namespace IpAddress

/-- The number of the protocol version. -/
def version : IpAddress → Nat
  | .v4 _ => 4
  | .v6 _ _ => 6

/-- The scope of an address of version 6, which names the interface that it belongs to. -/
def scope? : IpAddress → Option String
  | .v4 _ => none
  | .v6 _ z => z

/-- The address in octets, the most significant first. -/
def packed : IpAddress → List Nat
  | .v4 o => o.vals
  | .v6 g _ => octetsOfGroups g.vals

/-- The address with these 4 or 16 octets. -/
def ofPacked? (bytes : List Nat) : Option IpAddress :=
  if bytes.length = 4 then (Words.ofList? 4 256 bytes).map .v4
  else if bytes.length = 16 then (Words.ofList? 8 65536 (groupsOfOctets bytes)).map (.v6 · none)
  else none

/-- The address of version 4 inside an IPv4-mapped one, of the block `::ffff:0:0/96`. -/
def mapped? (g : Groups) : Option Octets :=
  match g.vals with
  | [0, 0, 0, 0, 0, 0xFFFF, a, b] => Words.ofList? 4 256 (octetsOfGroups [a, b])
  | _ => none

private theorem length_packed (a : IpAddress) : a.packed.length = if a.version = 4 then 4 else 16 := by
  cases a with
  | v4 o => simp [packed, version, o.length_eq]
  | v6 g z =>
    have h := g.length_eq
    have hl : ∀ l : List Nat, (octetsOfGroups l).length = 2 * l.length := by
      intro l
      induction l with
      | nil => rfl
      | cons x xs ih =>
        simp only [octetsOfGroups, List.flatMap_cons, List.cons_append, List.nil_append, List.length_cons] at ih ⊢
        omega
    simp [packed, version, hl, h]

theorem ofPacked?_packed (a : IpAddress) (h : a.scope? = none) : ofPacked? a.packed = some a := by
  have hl := length_packed a
  cases a with
  | v4 o => simp_all [ofPacked?, packed, version]
  | v6 g z =>
    simp only [scope?] at h
    subst h
    simp_all [ofPacked?, packed, version]

end IpAddress

end Endpoint
