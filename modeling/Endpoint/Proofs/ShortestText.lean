import Endpoint.Proofs.CanonicalNumeral
import Endpoint.Proofs.UrlText

/-!
# The shortest text of an address

How an address of version 6 without scope is written in a URL, told without the functions that write it.

* (runs) The run of zeros that is left out is one of the longest, and the leftmost of these: `isLongestRun_longestRun`. A
  run begins at the first group or it is one of the groups after it, so the claim follows by induction on the groups.
* (groups) Each group that is written is its numeral in lower case without leading zeros, and a run is left out if and
  only if there are two zeros in a row: `ColonGroups.isShortest_iff`.
* (mapped) Just the addresses of the block `::ffff:0:0/96` end in a dotted quad: `IpAddress.mapped?_eq_some_iff`.

Together these tell the text of an address from its groups: `urlText_writes_shortest`.
-/

namespace Endpoint

open Text

namespace ColonGroups

/-! ### Runs of zeros -/

/-- Whether there are `n` zeros in a row from place `i` on. -/
def IsZeroRun (gs : List Nat) (i n : Nat) : Prop :=
  ∃ l r, gs = l ++ List.replicate n 0 ++ r ∧ l.length = i

/-- Whether the `n` zeros from place `i` on are the leftmost of the longest runs of zeros. -/
structure IsLongestRun (gs : List Nat) (i n : Nat) : Prop where
  run : IsZeroRun gs i n
  longest : ∀ j m, IsZeroRun gs j m → m ≤ n
  leftmost : ∀ j, IsZeroRun gs j n → i ≤ j

private theorem le_zeroRun (n : Nat) (r : List Nat) : n ≤ zeroRun (List.replicate n 0 ++ r) := by
  induction n with
  | zero => omega
  | succ n ih =>
    rw [List.replicate_succ, List.cons_append, zeroRun]
    omega

private theorem isZeroRun_zero_iff {gs : List Nat} {n : Nat} : IsZeroRun gs 0 n ↔ n ≤ zeroRun gs := by
  constructor
  · rintro ⟨l, r, rfl, hl⟩
    obtain rfl := List.length_eq_zero_iff.1 hl
    exact le_zeroRun n r
  · intro h
    refine ⟨[], List.replicate (zeroRun gs - n) 0 ++ gs.drop (zeroRun gs), ?_, rfl⟩
    have hsplit : n + (zeroRun gs - n) = zeroRun gs := by omega
    rw [List.nil_append, ← List.append_assoc, List.replicate_append_replicate, hsplit]
    exact zeroRun_spec gs

private theorem isZeroRun_succ_iff {g : Nat} {gs : List Nat} {i n : Nat} :
    IsZeroRun (g :: gs) (i + 1) n ↔ IsZeroRun gs i n := by
  constructor
  · rintro ⟨l, r, hgs, hl⟩
    cases l with
    | nil => cases hl
    | cons x l =>
      obtain ⟨-, rfl⟩ := List.cons.inj hgs
      exact ⟨l, r, rfl, Nat.succ.inj hl⟩
  · rintro ⟨l, r, rfl, rfl⟩
    exact ⟨g :: l, r, rfl, rfl⟩

private theorem isLongestRun_longestRun (gs : List Nat) : IsLongestRun gs (longestRun gs).1 (longestRun gs).2 := by
  induction gs with
  | nil =>
    refine ⟨⟨[], [], rfl, rfl⟩, ?_, fun j _ => Nat.zero_le j⟩
    rintro j m ⟨l, r, h, -⟩
    have hlen := congrArg List.length h
    simp only [List.length_nil, List.length_append, List.length_replicate] at hlen
    omega
  | cons g gs ih =>
    obtain ⟨hrun, hlongest, hleftmost⟩ := ih
    simp only [longestRun]
    split
    · next hle =>
      -- The run at the first group is not shorter than any later one.
      refine ⟨isZeroRun_zero_iff.2 (Nat.le_refl _), ?_, fun j _ => Nat.zero_le j⟩
      intro j m hm
      cases j with
      | zero => exact isZeroRun_zero_iff.1 hm
      | succ j => exact Nat.le_trans (hlongest j m (isZeroRun_succ_iff.1 hm)) hle
    · next hlt =>
      refine ⟨isZeroRun_succ_iff.2 hrun, ?_, ?_⟩
      · intro j m hm
        cases j with
        | zero =>
          have := isZeroRun_zero_iff.1 hm
          omega
        | succ j => exact hlongest j m (isZeroRun_succ_iff.1 hm)
      · intro j hj
        cases j with
        | zero => exact absurd (isZeroRun_zero_iff.1 hj) hlt
        | succ j => exact Nat.succ_le_succ (hleftmost j (isZeroRun_succ_iff.1 hj))

theorem IsLongestRun.unique {gs : List Nat} {i j n m : Nat} (h : IsLongestRun gs i n) (h' : IsLongestRun gs j m) :
    i = j ∧ n = m := by
  obtain rfl : n = m := Nat.le_antisymm (h'.longest i n h.run) (h.longest j m h'.run)
  exact ⟨Nat.le_antisymm (h.leftmost j h'.run) (h'.leftmost i h.run), rfl⟩

/-! ### The shortest text -/

/-- Whether a text is the shortest one of some groups: numerals in lower case without leading zeros, between colons. Where
there are two zeros in a row, a double colon stands for the leftmost of the longest runs of zeros. -/
inductive IsShortest (gs : List Nat) : List Char → Prop
  | full {ps : List (List Char)} (hps : List.Forall₂ IsShortHex ps gs) (hrun : ∀ i n, IsZeroRun gs i n → n < 2) :
    IsShortest gs (joinWith ':' ps)
  | gap {ps qs : List (List Char)} {i n : Nat} (hrun : IsLongestRun gs i n) (hn : 2 ≤ n)
    (hps : List.Forall₂ IsShortHex ps (gs.take i)) (hqs : List.Forall₂ IsShortHex qs (gs.drop (i + n))) :
    IsShortest gs (joinWith ':' ps ++ ':' :: ':' :: joinWith ':' qs)

private theorem forall₂_isShortHex_iff {ps : List (List Char)} {gs : List Nat} :
    List.Forall₂ IsShortHex ps gs ↔ ps = gs.map hex := by
  rw [← forall₂_eq_map_iff]
  exact ⟨fun h => h.imp fun _ _ => isShortHex_iff.1, fun h => h.imp fun _ _ => isShortHex_iff.2⟩

private theorem isShortest_iff {g : Groups} {t : List Char} : IsShortest g.vals t ↔ t = write g := by
  have hlongest := isLongestRun_longestRun g.vals
  constructor
  · intro h
    cases h with
    | full hps hrun =>
      have hshort : ¬2 ≤ (longestRun g.vals).2 := by
        have := hrun _ _ hlongest.run
        omega
      simp only [write, if_neg hshort]
      rw [writeAll, forall₂_isShortHex_iff.1 hps]
    | gap hrun hn hps hqs =>
      obtain ⟨rfl, rfl⟩ := hrun.unique hlongest
      simp only [write, if_pos hn]
      rw [writeAll, writeAll, forall₂_isShortHex_iff.1 hps, forall₂_isShortHex_iff.1 hqs]
      simp
  · rintro rfl
    by_cases hn : 2 ≤ (longestRun g.vals).2
    · simp only [write, if_pos hn]
      have := IsShortest.gap hlongest hn (forall₂_isShortHex_iff.2 rfl) (forall₂_isShortHex_iff.2 rfl)
      simpa [writeAll] using this
    · simp only [write, if_neg hn]
      refine .full (forall₂_isShortHex_iff.2 rfl) fun i n h => ?_
      have := hlongest.longest i n h
      omega

end ColonGroups

/-! ### Mapped addresses -/

namespace IpAddress

private theorem exists_drop_eq (g : Groups) : ∃ a b, g.vals.drop 6 = [a, b] := by
  have hlen : (g.vals.drop 6).length = 2 := by rw [List.length_drop, g.length_eq]
  match g.vals.drop 6, hlen with
  | [a, b], _ => exact ⟨a, b, rfl⟩

private theorem mapped?_eq_some_iff {g : Groups} {o : Octets} :
    mapped? g = some o ↔ g.vals.take 6 = [0, 0, 0, 0, 0, 0xFFFF] ∧ o.vals = octetsOfGroups (g.vals.drop 6) := by
  constructor
  · intro h
    unfold mapped? at h
    split at h
    · next a b hvals =>
      rw [hvals, Words.vals_of_ofList? h]
      exact ⟨rfl, rfl⟩
    · cases h
  · rintro ⟨hblock, hlow⟩
    obtain ⟨a, b, hab⟩ := exists_drop_eq g
    have hvals : g.vals = [0, 0, 0, 0, 0, 0xFFFF, a, b] := by
      rw [← List.take_append_drop 6 g.vals, hblock, hab]
      rfl
    rw [hab] at hlow
    simp only [mapped?, hvals]
    exact Words.ofList?_eq_some_iff.2 hlow

/-- Every address of the block is mapped: the octets of two groups make an address of version 4. -/
private theorem mapped?_eq_none_iff {g : Groups} : mapped? g = none ↔ g.vals.take 6 ≠ [0, 0, 0, 0, 0, 0xFFFF] := by
  have hblock : (∃ o, mapped? g = some o) ↔ g.vals.take 6 = [0, 0, 0, 0, 0, 0xFFFF] := by
    constructor
    · rintro ⟨o, ho⟩
      exact (mapped?_eq_some_iff.1 ho).1
    · intro h
      obtain ⟨a, b, hab⟩ := exists_drop_eq g
      have hlt : ∀ x ∈ [a, b], x < 65536 := by
        rw [← hab]
        exact fun x hx => g.lt_bound x (List.mem_of_mem_drop hx)
      have hoctets : ∀ w ∈ octetsOfGroups (g.vals.drop 6), w < 256 := by
        intro w hw
        rw [hab] at hw
        obtain ⟨x, hx, hw⟩ := List.mem_flatMap.1 hw
        have := hlt x hx
        simp only [List.mem_cons, List.not_mem_nil, or_false] at hw
        omega
      exact ⟨⟨_, by rw [hab]; rfl, hoctets⟩, mapped?_eq_some_iff.2 ⟨h, rfl⟩⟩
  rw [ne_eq, ← hblock, ← Option.ne_none_iff_exists', ne_eq, not_not]

end IpAddress

/-- Whether a text is that of the eight groups of an address without scope: in brackets, and with a dotted quad for the last
32 bits if the first 96 are `0:0:0:0:0:ffff`. -/
inductive IsUrlText (g : Groups) : List Char → Prop
  | mapped {o : Octets} {q : List Char} (hblock : g.vals.take 6 = [0, 0, 0, 0, 0, 0xFFFF])
    (hlow : o.vals = octetsOfGroups (g.vals.drop 6)) (hq : DottedQuad.IsQuad q o) :
    IsUrlText g ('[' :: ("::ffff:".toList ++ q) ++ [']'])
  | groups {t : List Char} (hblock : g.vals.take 6 ≠ [0, 0, 0, 0, 0, 0xFFFF]) (ht : ColonGroups.IsShortest g.vals t) :
    IsUrlText g ('[' :: t ++ [']'])

private theorem isUrlText_iff {g : Groups} {t : List Char} : IsUrlText g t ↔ t = IpAddress.url (.v6 g none) := by
  rw [IpAddress.url, IpAddress.plain]
  constructor
  · intro h
    cases h with
    | mapped hblock hlow hq =>
      rw [IpAddress.mapped?_eq_some_iff.2 ⟨hblock, hlow⟩, DottedQuad.isQuad_iff.1 hq]
    | groups hblock ht =>
      rw [IpAddress.mapped?_eq_none_iff.2 hblock, ColonGroups.isShortest_iff.1 ht]
      simp [IpAddress.compressed, IpAddress.scopeText]
  · rintro rfl
    cases h : IpAddress.mapped? g with
    | some o =>
      obtain ⟨hblock, hlow⟩ := IpAddress.mapped?_eq_some_iff.1 h
      exact .mapped hblock hlow (DottedQuad.isQuad_iff.2 rfl)
    | none =>
      have := IsUrlText.groups (IpAddress.mapped?_eq_none_iff.1 h) (ColonGroups.isShortest_iff.2 rfl)
      simpa [IpAddress.compressed, IpAddress.scopeText] using this

/-- Whatever stands for an address of version 6 without scope is written as the text of its groups, and they have no other
text. -/
theorem urlText_writes_shortest (v : Value) (g : Groups) (h : IpAddress.ofValue v = .ok (.v6 g none)) :
    ∃ s, urlText v = .ok s ∧ ∀ t, IsUrlText g t ↔ t = s.toList := by
  refine ⟨_, urlText_of_ofValue h, ?_⟩
  intro t
  rw [String.toList_ofList]
  exact isUrlText_iff

/-- The address `2001:db8:0:0:1:0:0:1`, which has two runs of two zeros. -/
def twoRuns : Groups :=
  ⟨[0x2001, 0xDB8, 0, 0, 1, 0, 0, 1], rfl, by decide⟩

/-- Of two runs of the same length the left one is left out. -/
theorem urlText_writes_shortest_leftmost :
    IpAddress.ofValue (.text "2001:0DB8::1:0:00000:1") = .ok (.v6 twoRuns none) ∧
      urlText (.text "2001:0DB8::1:0:00000:1") = .ok "[2001:db8::1:0:0:1]" ∧
      IsUrlText twoRuns "[2001:db8::1:0:0:1]".toList ∧ ¬IsUrlText twoRuns "[2001:db8:0:0:1::1]".toList := by
  have hvalue : IpAddress.ofValue (.text "2001:0DB8::1:0:00000:1") = .ok (.v6 twoRuns none) := rfl
  have hurl : urlText (.text "2001:0DB8::1:0:00000:1") = .ok "[2001:db8::1:0:0:1]" := rfl
  obtain ⟨s, hs, htext⟩ := urlText_writes_shortest _ _ hvalue
  obtain rfl := Except.ok.inj (hurl.symm.trans hs)
  exact ⟨hvalue, hurl, (htext _).2 rfl, fun h => absurd ((htext _).1 h) (by decide)⟩

end Endpoint
