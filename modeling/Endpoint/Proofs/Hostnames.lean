import Endpoint.Proofs.HostnameGrammar
import Endpoint.Proofs.Literals

/-!
# Hostnames and letter case

A hostname in lower case is a hostname (`isValid_lower`), since lower case changes neither the places of dots and
hyphens nor what is a digit. No hostname is an address: it has no colon (`readV6?_eq_none`), and its last label is no
number, while all fields of a dotted quad are (`readV4?_eq_none`).
-/

namespace Endpoint.Hostname

open Text

/-! ### Characters -/

theorem toNat_toLower (c : Char) :
    c.toLower.toNat = if 65 ≤ c.toNat ∧ c.toNat ≤ 90 then c.toNat + 32 else c.toNat := by
  have hcase : c.val ≥ 'A'.val ∧ c.val ≤ 'Z'.val ↔ 65 ≤ c.toNat ∧ c.toNat ≤ 90 := by
    simp [UInt32.le_iff_toNat_le]
  unfold Char.toLower
  split
  · next h =>
    rw [if_pos (hcase.1 h)]
    have := hcase.1 h
    simp only [Char.toNat_mk, UInt32.toNat_add, Char.toNat_val]
    rw [show ('a'.val - 'A'.val).toNat = 32 from rfl]
    omega
  · next h => rw [if_neg (fun h' => h (hcase.2 h'))]

private theorem isLabelChar_toLower (c : Char) : isLabelChar c.toLower = isLabelChar c := by
  rw [Bool.eq_iff_iff, isLabelChar_iff, isLabelChar_iff, toNat_toLower]
  split <;> omega

private theorem isDigit_toLower (c : Char) : c.toLower.isDigit = c.isDigit := by
  rw [Bool.eq_iff_iff, isDigit_iff, isDigit_iff, toNat_toLower]
  split <;> omega

/-- Dot and hyphen are no letters, so lower case neither makes nor removes one. -/
private theorem toLower_eq_iff {c d : Char} (hd : d.toNat < 65) : c.toLower = d ↔ c = d := by
  rw [← Char.toNat_inj, ← Char.toNat_inj, toNat_toLower]
  split <;> omega

/-! ### Lower case -/

private theorem length_lower (s : List Char) : (lower s).length = s.length := List.length_map ..

theorem lower_lower (s : List Char) : lower (lower s) = lower s := by
  have htwice : ∀ c : Char, c.toLower.toLower = c.toLower := by
    intro c
    have h := toNat_toLower c
    rw [← Char.toNat_inj, toNat_toLower c.toLower]
    split at h <;> split <;> omega
  simp only [lower, List.map_map, Function.comp_def, htwice]

private theorem splitOn_lower (s : List Char) : splitOn '.' (lower s) = (splitOn '.' s).map lower := by
  induction s with
  | nil => rfl
  | cons c s ih =>
    have hdot : c.toLower = '.' ↔ c = '.' := toLower_eq_iff (by decide)
    rw [lower] at ih ⊢
    rw [List.map_cons, splitOn, splitOn]
    by_cases hc : c = '.'
    · rw [if_pos (hdot.2 hc), if_pos hc, ih]
      rfl
    · rw [if_neg (fun h => hc (hdot.1 h)), if_neg hc, ih]
      cases splitOn '.' s <;> rfl

private theorem isAlphanum_toLower (c : Char) : c.toLower.isAlphanum = c.isAlphanum := by
  rw [Bool.eq_iff_iff, isAlphanum_iff, isAlphanum_iff, toNat_toLower]
  split <;> omega

private theorem closesLabel_lower (room : Nat) (s : List Char) : closesLabel room (lower s) = closesLabel room s := by
  have hempty : ∀ r : List Char, (r.map Char.toLower).isEmpty = r.isEmpty := fun r => by cases r <;> rfl
  induction s generalizing room with
  | nil => cases room <;> rfl
  | cons c s ih =>
    rw [lower] at ih ⊢
    cases room with
    | zero => rw [List.map_cons, closesLabel, closesLabel, isAlphanum_toLower, hempty]
    | succ room => rw [List.map_cons, closesLabel, closesLabel, isLabelChar_toLower, isAlphanum_toLower, ih, hempty]

private theorem isLabel_lower (s : List Char) : isLabel (lower s) = isLabel s := by
  cases s with
  | nil => rfl
  | cons c r =>
    have hrest := closesLabel_lower 61 r
    rw [lower] at hrest ⊢
    rw [List.map_cons, isLabel, isLabel, isAlphanum_toLower, hrest]
    cases r <;> rfl

private theorem isAnyDigit_toLower (c : Char) : isAnyDigit c.toLower = isAnyDigit c := by
  have hcase := toNat_toLower c
  split at hcase
  · rw [isAnyDigit_of_ascii (by omega), isAnyDigit_of_ascii (by omega), isDigit_toLower]
  · rw [Char.toNat_inj.1 hcase]

private theorem isDigits_lower (s : List Char) : isDigits (lower s) = isDigits s := by
  have hdigit : isAnyDigit ∘ Char.toLower = isAnyDigit := funext isAnyDigit_toLower
  rw [isDigits, isDigits, lower, List.all_map, hdigit]
  cases s <;> rfl

theorem isValid_lower (s : List Char) : isValid (lower s) = isValid s := by
  have hlabel : isLabel ∘ lower = isLabel := funext isLabel_lower
  have hempty : (lower s).isEmpty = s.isEmpty := by cases s <;> rfl
  have hdot : ((lower s).getLast? != some '.') = (s.getLast? != some '.') := by
    rw [lower, List.getLast?_map]
    cases s.getLast? with
    | none => rfl
    | some c =>
      have := toLower_eq_iff (c := c) (show '.'.toNat < 65 by decide)
      rw [Bool.eq_iff_iff]
      simp [this]
  simp only [isValid, splitOn_lower, List.all_map, hlabel, List.getLast?_map, Option.any_map, isDigits_lower,
    length_lower, hempty, hdot]

/-! ### Hostnames are no addresses -/

theorem strip_eq_self_of_isValid {s : List Char} (h : isValid s = true) : strip s = s :=
  strip_eq_self_of_not_blank fun _ hc => not_blank_of_mem h hc

theorem unbracket_eq_self_of_isValid {s : List Char} (h : isValid s = true) : unbracket s = s :=
  unbracket_eq_self fun hc => not_mem_of_isValid h (by decide) (by decide) (List.mem_of_mem_head? hc)

theorem readV6?_eq_none {s : List Char} (h : isValid s = true) : IpAddress.readV6? s = none :=
  IpAddress.readV6?_eq_none_of_not_mem (not_mem_of_isValid h (by decide) (by decide))

/-- The last field of a dotted quad would be a number, which the last label of a hostname is not. -/
theorem readV4?_eq_none {s : List Char} (h : isValid s = true) : IpAddress.readV4? s = none := by
  rw [IpAddress.readV4?, Option.map_eq_none_iff, Option.eq_none_iff_forall_not_mem]
  intro o ho
  obtain ⟨ns, hns, -⟩ := Option.bind_eq_some_iff.1 ho
  obtain ⟨l, hl⟩ : ∃ l, (splitOn '.' s).getLast? = some l :=
    ⟨_, List.getLast?_eq_some_getLast (splitOn_ne_nil '.' s)⟩
  obtain ⟨c, hc, hnumber⟩ := (isValid_eq_true_iff.1 h).last_no_number l hl
  have hfield : (DottedQuad.field? l).isSome := isSome_of_mapM hns (List.mem_of_mem_getLast? hl)
  unfold DottedQuad.field? at hfield
  split at hfield
  · next hdecimal =>
    simp only [isDecimal, Bool.and_eq_true, List.all_eq_true] at hdecimal
    rw [hdecimal.1.2 c hc] at hnumber
    cases hnumber
  · cases hfield

end Endpoint.Hostname
