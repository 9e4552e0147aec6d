import Endpoint.Proofs.CanonicalNumeral
import Endpoint.Proofs.SameHosts

/-!
# The classes of hosts

A host is an address of version 6, with or without brackets, an address of version 4 or a hostname (`HostClass`). No text
is of two of these classes.

* (addresses) An address of version 6 has a colon, and neither a dotted quad nor a hostname has one or stands in brackets.
  The last label of a dotted quad is a number, and that of a hostname is none: `HostClass.eq_of_read`.
* (numbers) Digits are no blanks, so a last label that is a number is the same before the host is stripped:
  `Text.getLast?_splitOn_strip`.
* (order) There is one success at most, so it is found in every order: `HostClass.findSome?_read_eq_some_iff`.

So a host can be tried for the classes in any order: `normalHost_tells_classes_apart`.
-/

namespace Endpoint

open Text

/-! ### Last labels -/

private theorem Text.getLast?_splitOn_strip {s r : List Char} (h : (splitOn '.' s).getLast? = some r)
    (hr : ∀ c ∈ r, isBlank c = false) : (splitOn '.' (strip s)).getLast? = some r := by
  have hdot : isBlank '.' = false := by decide
  rcases cutLast_cases '.' s with ⟨hs, -⟩ | ⟨p, q, hq, rfl, -⟩
  · rw [splitOn_of_not_mem hs] at h
    obtain rfl : s = r := Option.some.inj h
    rw [strip_eq_self_of_not_blank hr, splitOn_of_not_mem hs]
    rfl
  · rw [getLast?_splitOn_append_sep hq] at h
    obtain rfl : q = r := Option.some.inj h
    have hright : stripRight q = q := stripRight_eq_self fun c hc => hr c (List.mem_of_mem_getLast? hc)
    rw [strip, stripLeft, dropWhile_append_cons hdot, stripRight_append_cons hdot, hright]
    exact getLast?_splitOn_append_sep hq _

/-- Whether the last label of a text is made of digits of any script. -/
def endsInDigits (s : List Char) : Bool :=
  (splitOn '.' s).getLast?.any isDigits

private theorem endsInDigits_strip {s : List Char} (h : endsInDigits s = true) : endsInDigits (strip s) = true := by
  obtain ⟨r, hr, hdigits⟩ := (Option.any_eq_true _ _).1 h
  rw [endsInDigits, getLast?_splitOn_strip hr, Option.any_some, hdigits]
  intro c hc
  rw [isDigits, Bool.and_eq_true, List.all_eq_true] at hdigits
  exact isBlank_of_isAnyDigit (hdigits.2 c hc)

private theorem endsInDigits_of_isValid {s : List Char} (h : Hostname.isValid s = true) : endsInDigits s = false := by
  simp only [Hostname.isValid, Bool.and_eq_true, Bool.not_eq_true'] at h
  exact h.2

/-! ### Classes -/

/-- What a host can be. -/
inductive HostClass
  | v6
  | v4
  | name
  deriving DecidableEq

namespace HostClass

/-- The normal form of a text as a host of a class. -/
def read (t : List Char) : HostClass → Option (List Char)
  | .v6 => (IpAddress.readV6? (unbracket t)).map IpAddress.url
  | .v4 => (IpAddress.readV4? t).map IpAddress.url
  | .name => if Hostname.isValid t then some (Hostname.lower t) else none

private theorem read_name_eq_some_iff {t x : List Char} :
    read t .name = some x ↔ Hostname.isValid t = true ∧ x = Hostname.lower t := by
  rw [read, Option.ite_none_right_eq_some, Option.some.injEq, eq_comm (a := x)]

private theorem exists_isQuad_of_read {t x : List Char} (h : read t .v4 = some x) : ∃ o, DottedQuad.IsQuad t o := by
  obtain ⟨a, ha, -⟩ := Option.map_eq_some_iff.1 h
  obtain ⟨o, ho, -⟩ := Option.map_eq_some_iff.1 ha
  exact ⟨o, DottedQuad.read?_eq_some_iff.1 ho⟩

/-- Only addresses of version 6 are in brackets. -/
private theorem unbracket_eq_self_of_read {t x : List Char} {c : HostClass} (h : read t c = some x) (hc : c ≠ .v6) :
    unbracket t = t := by
  cases c with
  | v6 => exact absurd rfl hc
  | v4 =>
    obtain ⟨o, ho⟩ := exists_isQuad_of_read h
    exact ho.unbracket_eq_self
  | name => exact Hostname.unbracket_eq_self_of_isValid (read_name_eq_some_iff.1 h).1

/-- Only addresses of version 6 have colons. -/
private theorem colon_not_mem_of_read {t x : List Char} {c : HostClass} (h : read t c = some x) (hc : c ≠ .v6) :
    ':' ∉ t := by
  cases c with
  | v6 => exact absurd rfl hc
  | v4 =>
    obtain ⟨o, ho⟩ := exists_isQuad_of_read h
    exact ho.not_mem (by decide) (by decide)
  | name => exact Hostname.not_mem_of_isValid (read_name_eq_some_iff.1 h).1 (by decide) (by decide)

private theorem read_v6_eq_none {t x : List Char} {c : HostClass} (h : read t c = some x) (hc : c ≠ .v6) :
    read t .v6 = none := by
  rw [read, unbracket_eq_self_of_read h hc, IpAddress.readV6?_eq_none_of_not_mem (colon_not_mem_of_read h hc)]
  rfl

private theorem read_v4_eq_none {t x : List Char} (h : read t .name = some x) : read t .v4 = none := by
  rw [read, Hostname.readV4?_eq_none (read_name_eq_some_iff.1 h).1]
  rfl

/-- What is read as one class is read as no other one. -/
private theorem eq_of_read {t x y : List Char} {c d : HostClass} (hx : read t c = some x) (hy : read t d = some y) :
    c = d := by
  -- A text of two classes would be one of the later class, and that leaves nothing to read as the earlier one.
  cases c with
  | v6 =>
    by_contra hd
    rw [read_v6_eq_none hy (Ne.symm hd)] at hx
    cases hx
  | v4 =>
    cases d with
    | v6 => simp [read_v6_eq_none hx] at hy
    | v4 => rfl
    | name => simp [read_v4_eq_none hy] at hx
  | name =>
    cases d with
    | v6 => simp [read_v6_eq_none hx] at hy
    | v4 => simp [read_v4_eq_none hx] at hy
    | name => rfl

/-- In every order that has all classes, the first success is the only one. -/
private theorem findSome?_read_eq_some_iff {order : List HostClass} (h : ∀ c, c ∈ order) {t x : List Char} :
    order.findSome? (read t) = some x ↔ ∃ c, read t c = some x := by
  constructor
  · intro hx
    obtain ⟨c, -, hc⟩ := List.exists_of_findSome?_eq_some hx
    exact ⟨c, hc⟩
  · rintro ⟨c, hc⟩
    have hsome : (order.findSome? (read t)).isSome := by
      rw [List.findSome?_isSome_iff]
      exact ⟨c, h c, by rw [hc]; rfl⟩
    obtain ⟨y, hy⟩ := Option.isSome_iff_exists.1 hsome
    obtain ⟨d, -, hd⟩ := List.exists_of_findSome?_eq_some hy
    obtain rfl := eq_of_read hc hd
    rw [hy, ← hd, hc]

private theorem findSome?_read_congr {order order' : List HostClass} (h : ∀ c, c ∈ order) (h' : ∀ c, c ∈ order')
    (t : List Char) : order.findSome? (read t) = order'.findSome? (read t) := by
  apply Option.ext
  intro x
  rw [findSome?_read_eq_some_iff h, findSome?_read_eq_some_iff h']

end HostClass

/-- The normal form of a host that is tried for its class in some order. -/
def normalHostIn (order : List HostClass) (s : String) : Except AddressError String :=
  let t := strip s.toList
  if t = [] then .error .hostEmpty
  else match order.findSome? (HostClass.read t) with
    | some x => .ok (String.ofList x)
    | none => .error (if unbracket t = t then .hostname s else .brackets s)

/-- The classes are tried in this order, and a text in brackets is refused before the last two. -/
private theorem normalHost_eq_normalHostIn (s : String) : normalHost s = normalHostIn [.v6, .v4, .name] s := by
  rw [normalHost, normalHostIn]
  generalize strip s.toList = t
  dsimp only
  split
  · rfl
  cases h6 : IpAddress.readV6? (unbracket t) with
  | some a => simp [HostClass.read, h6]
  | none =>
    have hv6 : HostClass.read t .v6 = none := by rw [HostClass.read, h6, Option.map_none]
    simp only [List.findSome?_cons, List.findSome?_nil, hv6]
    by_cases hu : unbracket t = t
    · simp only [HostClass.read, hu, ne_eq, not_true_eq_false, if_false, if_true]
      cases IpAddress.readV4? t with
      | some a => rfl
      | none => cases Hostname.isValid t <;> rfl
    · have hnone : ∀ c, c ≠ .v6 → HostClass.read t c = none := by
        intro c hc
        rw [Option.eq_none_iff_forall_ne_some]
        exact fun x hx => hu (HostClass.unbracket_eq_self_of_read hx hc)
      simp only [hnone .v4 (by decide), hnone .name (by decide), ne_eq, hu, not_false_eq_true, if_true, if_false]

private theorem normalHostIn_congr {order order' : List HostClass} (h : ∀ c, c ∈ order) (h' : ∀ c, c ∈ order')
    (s : String) :
    normalHostIn order s = normalHostIn order' s := by
  rw [normalHostIn, normalHostIn, HostClass.findSome?_read_congr h h']

/-- No text is a host of two classes: a literal is no hostname and not the lower case of one, and where the last label is a
number the literals are all that is normalized. So the three classes can be tried in any order. -/
theorem normalHost_tells_classes_apart (s : String) :
    (∀ a, IpAddress.ofText s = .ok a → Hostname.isValid (strip s.toList) = false) ∧
    (∀ c d x y, HostClass.read (strip s.toList) c = some x → HostClass.read (strip s.toList) d = some y → c = d) ∧
    (endsInDigits s.toList = true ∨ endsInDigits (strip s.toList) = true → ∀ t,
      (normalHost s = .ok t ↔ ∃ a, IpAddress.ofText s = .ok a ∧ t = String.ofList a.url)) ∧
    (Hostname.isValid s.toList = true → Hostname.isValid (Hostname.lower s.toList) = true ∧
      ∀ a, IpAddress.ofText (String.ofList (Hostname.lower s.toList)) ≠ .ok a) ∧
    ∀ order : List HostClass, (∀ c, c ∈ order) → normalHostIn order s = normalHost s := by
  refine ⟨?_, fun _ _ _ _ => HostClass.eq_of_read, ?_, ?_, ?_⟩
  · intro a ha
    rw [← Bool.not_eq_true]
    exact fun hvalid => ofText_ne_ok_of_isValid hvalid a ha
  · intro hdigits t
    have hlast : endsInDigits (strip s.toList) = true := hdigits.elim endsInDigits_strip id
    constructor
    · intro ht
      rcases normalHost_cases ht with ⟨a, -, ha, rfl⟩ | ⟨hvalid, -⟩
      · exact ⟨a, ha, rfl⟩
      · rw [endsInDigits_of_isValid hvalid] at hlast
        cases hlast
    · rintro ⟨a, ha, rfl⟩
      exact normalHost_of_ofText ha
  · intro hvalid
    have hlower : Hostname.isValid (Hostname.lower s.toList) = true := by rw [Hostname.isValid_lower, hvalid]
    refine ⟨hlower, ofText_ne_ok_of_isValid ?_⟩
    rw [String.toList_ofList, Hostname.strip_eq_self_of_isValid hlower, hlower]
  · intro order horder
    rw [normalHost_eq_normalHostIn]
    exact normalHostIn_congr horder (by intro c; cases c <;> simp) s

/-- A dotted quad is no hostname, one with a number that is too high is refused in every order, and a name with a capital is
no literal in lower case either. -/
theorem normalHost_tells_classes_apart_numbered :
    endsInDigits (strip " 10.0.0.1 ".toList) = true ∧ normalHost " 10.0.0.1 " = .ok "10.0.0.1" ∧
      (∃ a, IpAddress.ofText " 10.0.0.1 " = .ok a ∧ "10.0.0.1" = String.ofList a.url) ∧
      (∀ a, IpAddress.ofText " 10.0.0.1 " = .ok a → Hostname.isValid (strip " 10.0.0.1 ".toList) = false) ∧
      normalHostIn [.name, .v4, .v6] "1.2.3.999" = .error (.hostname "1.2.3.999") ∧
      Hostname.isValid "0x7F.Local".toList = true ∧
      ∀ a, IpAddress.ofText (String.ofList (Hostname.lower "0x7F.Local".toList)) ≠ .ok a := by
  have hdigits : endsInDigits (strip " 10.0.0.1 ".toList) = true := rfl
  have hquad : normalHost " 10.0.0.1 " = .ok "10.0.0.1" := rfl
  have hhigh : normalHost "1.2.3.999" = .error (.hostname "1.2.3.999") := rfl
  have hname : Hostname.isValid "0x7F.Local".toList = true := by decide
  obtain ⟨hapart, -, hnumber, -, -⟩ := normalHost_tells_classes_apart " 10.0.0.1 "
  obtain ⟨-, -, -, -, horder⟩ := normalHost_tells_classes_apart "1.2.3.999"
  obtain ⟨-, -, -, hlower, -⟩ := normalHost_tells_classes_apart "0x7F.Local"
  refine ⟨hdigits, hquad, (hnumber (Or.inr hdigits) _).1 hquad, hapart, ?_, hname, (hlower hname).2⟩
  rw [horder _ (by intro c; cases c <;> simp), hhigh]

end Endpoint
