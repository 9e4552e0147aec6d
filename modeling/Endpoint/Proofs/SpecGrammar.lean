import Mathlib.Data.List.Forall2
import Mathlib.Data.List.Intervals
import Endpoint.Ports.Candidates
import Endpoint.Proofs.Literals

/-!
# The grammar of port specifications

A token of a specification is a bound, or two bounds with a hyphen between them, where a bound is one to five digits with
blanks around it (`IsToken`). A specification says a list of bounds if its pieces between commas are tokens with these
bounds, none of them descending or above the greatest port (`Says`).

Reading accepts exactly what the grammar allows, piece by piece: `bound?_eq_some_iff`, `bounds?_eq_some_iff`,
`range_eq_ok_iff` and `parse_eq_ok_iff`. So the candidates of a specification and their number can be read off the bounds
it says: `ofSpec_reads_grammar`.
-/

namespace Endpoint.PortSpec

open Text

/-! ### Tokens -/

/-- Whether a text is a number in one to five digits, with blanks allowed on both sides. -/
def IsBound (t : List Char) (n : Nat) : Prop :=
  ∃ a digits b, t = a ++ digits ++ b ∧ (∀ c ∈ a, isBlank c = true) ∧ (∀ c ∈ b, isBlank c = true) ∧
    1 ≤ digits.length ∧ digits.length ≤ 5 ∧ (∀ c ∈ digits, c.isDigit = true) ∧ n = decimalValue digits

/-- Whether a text is a token with these bounds: one bound that is both, or two with a hyphen between them. -/
inductive IsToken : List Char → Nat → Nat → Prop
  | single {t : List Char} {n : Nat} (h : IsBound t n) : IsToken t n n
  | between {s t : List Char} {low high : Nat} (hlow : IsBound s low) (hhigh : IsBound t high) :
    IsToken (s ++ '-' :: t) low high

private theorem bound?_eq_some_iff {t : List Char} {n : Nat} : bound? t = some n ↔ IsBound t n := by
  constructor
  · intro h
    obtain ⟨a, b, ha, hb, ht⟩ := exists_eq_append_strip t
    unfold bound? at h
    dsimp only at h
    split at h
    · next hdecimal =>
      obtain ⟨hdecimal, hlen⟩ := hdecimal
      simp only [isDecimal, Bool.and_eq_true, Bool.not_eq_true', List.isEmpty_eq_false_iff, List.all_eq_true] at hdecimal
      have hpos : 1 ≤ (strip t).length := List.length_pos_iff.2 hdecimal.1
      exact ⟨a, strip t, b, ht, ha, hb, hpos, hlen, hdecimal.2, (Option.some.inj h).symm⟩
    · cases h
  · rintro ⟨a, digits, b, rfl, ha, hb, hpos, hlen, hdigits, rfl⟩
    -- Digits are no blanks, so stripping leaves just them.
    have hblank : ∀ c ∈ digits, isBlank c = false := fun c hc => isBlank_of_isDigit (hdigits c hc)
    have hstrip : strip (a ++ digits ++ b) = digits :=
      strip_append_append ha hb (fun c hc => hblank c (List.mem_of_mem_head? hc))
        fun c hc => hblank c (List.mem_of_mem_getLast? hc)
    have hne : digits ≠ [] := List.length_pos_iff.1 hpos
    have hdecimal : isDecimal digits = true := by
      simp only [isDecimal, Bool.and_eq_true, Bool.not_eq_true', List.isEmpty_eq_false_iff, List.all_eq_true]
      exact ⟨hne, hdigits⟩
    rw [bound?, hstrip, if_pos ⟨hdecimal, hlen⟩]

/-- A hyphen is neither a digit nor a blank. -/
private theorem IsBound.hyphen_not_mem {t : List Char} {n : Nat} (h : IsBound t n) : '-' ∉ t := by
  obtain ⟨a, digits, b, rfl, ha, hb, -, -, hdigits, -⟩ := h
  intro hmem
  rw [List.mem_append, List.mem_append] at hmem
  rcases hmem with (hmem | hmem) | hmem
  · exact absurd (ha _ hmem) (by decide)
  · exact absurd (hdigits _ hmem) (by decide)
  · exact absurd (hb _ hmem) (by decide)

private theorem bounds?_eq_some_iff {t : List Char} {low high : Nat} :
    bounds? t = some (low, high) ↔ IsToken t low high := by
  constructor
  · intro h
    rcases cutFirst_cases '-' t with ⟨-, hcut⟩ | ⟨p, r, -, rfl, hcut⟩
    · simp only [bounds?, hcut, Option.map_eq_some_iff] at h
      obtain ⟨n, hn, heq⟩ := h
      cases heq
      exact .single (bound?_eq_some_iff.1 hn)
    · simp only [bounds?, hcut, Option.bind_eq_some_iff, Option.map_eq_some_iff] at h
      obtain ⟨m, hm, n, hn, heq⟩ := h
      cases heq
      exact .between (bound?_eq_some_iff.1 hm) (bound?_eq_some_iff.1 hn)
  · intro h
    cases h with
    | single h =>
      rw [bounds?, cutFirst_of_not_mem h.hyphen_not_mem]
      simp only [bound?_eq_some_iff.2 h, Option.map_some]
    | between hlow hhigh =>
      rw [bounds?, cutFirst_append_cons hlow.hyphen_not_mem]
      simp only [bound?_eq_some_iff.2 hlow, bound?_eq_some_iff.2 hhigh, Option.bind_some, Option.map_some]

/-! ### Specifications -/

/-- Whether a text is a token whose bounds make a range of ports. -/
def IsRange (t : List Char) (b : Nat × Nat) : Prop :=
  IsToken t b.1 b.2 ∧ b.1 ≤ b.2 ∧ b.2 ≤ 65535

/-- Whether a specification says some bounds: they are those of its pieces, in the order of the pieces. -/
def Says (spec : String) (bounds : List (Nat × Nat)) : Prop :=
  List.Forall₂ IsRange (splitOn ',' spec.toList) bounds

private theorem range_eq_ok_iff {spec : String} {t : List Char} {r : PortRange} :
    range spec t = .ok r ↔ IsToken t r.low r.high := by
  rw [← bounds?_eq_some_iff]
  unfold range
  cases hb : bounds? t with
  | none => simp
  | some b =>
    obtain ⟨low, high⟩ := b
    obtain ⟨l, h, hle, hmax⟩ := r
    simp only [Option.some.injEq, Prod.mk.injEq]
    split
    · split
      · simp
      · next hhigh =>
        constructor
        · intro hr
          cases hr
        · rintro ⟨rfl, rfl⟩
          exact absurd hmax hhigh
    · next hlow =>
      constructor
      · intro hr
        cases hr
      · rintro ⟨rfl, rfl⟩
        exact absurd hle hlow

private theorem ranges_eq_ok_iff {spec : String} {ts : List (List Char)} {rs : List PortRange} :
    ranges spec ts = .ok rs ↔ List.Forall₂ (fun t r => IsToken t r.low r.high) ts rs := by
  induction ts generalizing rs with
  | nil =>
    rw [List.forall₂_nil_left_iff, ranges]
    constructor
    · intro h
      cases h
      rfl
    · rintro rfl
      rfl
  | cons t ts ih =>
    rw [List.forall₂_cons_left_iff, ranges]
    constructor
    · intro h
      split at h
      · cases h
      · next r hr =>
        cases hrs : ranges spec ts with
        | error e =>
          rw [hrs] at h
          cases h
        | ok rs' =>
          rw [hrs] at h
          cases h
          exact ⟨r, rs', range_eq_ok_iff.1 hr, ih.1 hrs, rfl⟩
    · rintro ⟨r, rs', hr, hrs, rfl⟩
      rw [range_eq_ok_iff.2 hr, ih.2 hrs]
      rfl

private theorem parse_eq_ok_iff {spec : String} {rs : List PortRange} :
    parse spec = .ok rs ↔ List.Forall₂ (fun t r => IsToken t r.low r.high) (splitOn ',' spec.toList) rs :=
  ranges_eq_ok_iff

private theorem says_of_parse {spec : String} {rs : List PortRange} (h : parse spec = .ok rs) :
    Says spec (rs.map fun r => (r.low, r.high)) := by
  rw [Says, List.forall₂_map_right_iff]
  apply (parse_eq_ok_iff.1 h).imp
  intro t r ht
  exact ⟨ht, r.low_le_high, r.high_le_max⟩

private theorem Says.exists_parse {spec : String} {bounds : List (Nat × Nat)} (h : Says spec bounds) :
    ∃ rs, parse spec = .ok rs ∧ bounds = rs.map fun r => (r.low, r.high) := by
  unfold Says at h
  simp only [parse_eq_ok_iff]
  generalize splitOn ',' spec.toList = ts at h
  -- Bounds that make a range carry what the range has to prove of them.
  induction h with
  | nil => exact ⟨[], .nil, rfl⟩
  | cons hb _ ih =>
    obtain ⟨ht, hle, hmax⟩ := hb
    obtain ⟨rs, hrs, rfl⟩ := ih
    exact ⟨⟨_, _, hle, hmax⟩ :: rs, .cons ht hrs, rfl⟩

theorem Says.unique {spec : String} {bounds other : List (Nat × Nat)} (h : Says spec bounds) (h' : Says spec other) :
    other = bounds := by
  obtain ⟨rs, hrs, rfl⟩ := h.exists_parse
  obtain ⟨rs', hrs', rfl⟩ := h'.exists_parse
  rw [hrs] at hrs'
  cases hrs'
  rfl

private theorem exists_says_iff {spec : String} :
    (∃ bounds, Says spec bounds) ↔ ∀ t ∈ splitOn ',' spec.toList, ∃ b, IsRange t b := by
  unfold Says
  induction splitOn ',' spec.toList with
  | nil => simp
  | cons t ts ih =>
    simp only [List.forall₂_cons_left_iff, List.forall_mem_cons, ← ih]
    constructor
    · rintro ⟨_, b, bounds, hb, hbounds, rfl⟩
      exact ⟨⟨b, hb⟩, bounds, hbounds⟩
    · rintro ⟨⟨b, hb⟩, bounds, hbounds⟩
      exact ⟨b :: bounds, b, bounds, hb, hbounds, rfl⟩

/-! ### What a specification stands for -/

private theorem ports_eq_Ico (r : PortRange) : r.ports = List.Ico r.low (r.high + 1) := by
  have hsize : r.size = r.high + 1 - r.low := by
    have := r.low_le_high
    rw [PortRange.size]
    omega
  rw [PortRange.ports, hsize, List.Ico]

private theorem expand_eq_flatMap_Ico (rs : List PortRange) :
    expand rs = (rs.map fun r => (r.low, r.high)).flatMap fun b => List.Ico b.1 (b.2 + 1) := by
  rw [expand, List.flatMap_map]
  apply List.flatMap_congr
  intro r _
  exact ports_eq_Ico r

private theorem le_of_mem_expand {rs : List PortRange} {p : Nat} (h : p ∈ expand rs) : p ≤ 65535 := by
  obtain ⟨r, -, hp⟩ := List.mem_flatMap.1 h
  rw [ports_eq_Ico, List.Ico.mem] at hp
  have hmax : r.high ≤ 65535 := r.high_le_max
  omega

/-- A specification has candidates just if all its pieces are ranges of ports. They are then the ports of these ranges,
in the order of the pieces, ascending in each and with repetitions, and they are counted rightly. Otherwise there are
no candidates to draw from, and counting them fails for the same reason. -/
theorem ofSpec_reads_grammar (spec : String) :
    ((∃ c, Candidates.ofSpec (some spec) = .ok c) ↔ ∀ t ∈ splitOn ',' spec.toList, ∃ b, IsRange t b) ∧
      match Candidates.ofSpec (some spec), count (some spec) with
      | .ok c, .ok n =>
        (∃ bounds, Says spec bounds ∧ (∀ other, Says spec other → other = bounds) ∧
          c.toList = (bounds.flatMap fun b => List.Ico b.1 (b.2 + 1)).map fun (p : Nat) => (p : Int)) ∧
        (∀ p ∈ c.toList, 0 ≤ p ∧ p ≤ 65535) ∧ n = c.toList.length
      | .error e, .error e' => e = e'
      | _, _ => False := by
  have hcandidates : Candidates.ofSpec (some spec) = (parse spec).map .ofRanges := rfl
  have hcount : count (some spec) = (parse spec).map size := rfl
  rw [← exists_says_iff, hcandidates, hcount]
  cases hparse : parse spec with
  | error e =>
    refine ⟨⟨?_, ?_⟩, rfl⟩
    · rintro ⟨c, hc⟩
      cases hc
    · rintro ⟨bounds, hsays⟩
      obtain ⟨rs, hrs, -⟩ := hsays.exists_parse
      rw [hparse] at hrs
      cases hrs
  | ok rs =>
    have hsays : Says spec (rs.map fun r => (r.low, r.high)) := says_of_parse hparse
    refine ⟨⟨fun _ => ⟨_, hsays⟩, fun _ => ⟨_, rfl⟩⟩, ?_⟩
    simp only [Except.map, Candidates.toList_ofRanges]
    refine ⟨⟨_, hsays, fun other h => hsays.unique h, ?_⟩, ?_, ?_⟩
    · rw [expand_eq_flatMap_Ico]
    · intro p hp
      obtain ⟨n, hn, rfl⟩ := List.mem_map.1 hp
      have := le_of_mem_expand hn
      omega
    · rw [List.length_map, length_expand]

example : (Candidates.ofSpec (some " 10 - 12 ,3,011")).map Candidates.toList = .ok [10, 11, 12, 3, 11] := by
  rfl

end Endpoint.PortSpec
