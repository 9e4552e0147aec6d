import Endpoint.Text.Blank
import Endpoint.Text.Integer

/-!
# Digits of any script

The digits that numbers are written with in some script, and those that are raised, lowered, circled or set apart in
another way. Among the ASCII characters these are the usual ten (`isAnyDigit_of_ascii`), and none of them is a blank
(`isBlank_of_isAnyDigit`).
-/

namespace Endpoint.Text

/-- The ranges of code points, both ends included, whose characters are digits of Unicode 14 but no decimal ones. -/
def otherDigits : List (Nat × Nat) :=
  [
    (0xB2, 0xB3), (0xB9, 0xB9), (0x1369, 0x1371), (0x19DA, 0x19DA), (0x2070, 0x2070), (0x2074, 0x2079),
    (0x2080, 0x2089), (0x2460, 0x2468), (0x2474, 0x247C), (0x2488, 0x2490), (0x24EA, 0x24EA),
    (0x24F5, 0x24FD), (0x24FF, 0x24FF), (0x2776, 0x277E), (0x2780, 0x2788), (0x278A, 0x2792),
    (0x10A40, 0x10A43), (0x10E60, 0x10E68), (0x11052, 0x1105A), (0x1F100, 0x1F10A)]

/-- Whether a character is a digit of any script. -/
def isAnyDigit (c : Char) : Bool :=
  (digitValue? c).isSome || otherDigits.any fun r => r.1 ≤ c.toNat && c.toNat ≤ r.2

/-- A text of one or more digits of any script. -/
def isDigits (s : List Char) : Bool :=
  !s.isEmpty && s.all isAnyDigit

private theorem isSome_digitValue?_iff {c : Char} :
    (digitValue? c).isSome = true ↔ ∃ z ∈ decimalZeros, z ≤ c.toNat ∧ c.toNat ≤ z + 9 := by
  simp [digitValue?, List.find?_isSome]

private theorem isAnyDigit_iff {c : Char} :
    isAnyDigit c = true ↔
      (∃ z ∈ decimalZeros, z ≤ c.toNat ∧ c.toNat ≤ z + 9) ∨ ∃ r ∈ otherDigits, r.1 ≤ c.toNat ∧ c.toNat ≤ r.2 := by
  simp only [isAnyDigit, Bool.or_eq_true, isSome_digitValue?_iff, List.any_eq_true, Bool.and_eq_true,
    decide_eq_true_eq]

/-- All other digits are beyond ASCII. -/
theorem isAnyDigit_of_ascii {c : Char} (h : c.toNat < 0x80) : isAnyDigit c = c.isDigit := by
  have hzeros : ∀ z ∈ decimalZeros, z = 0x30 ∨ 0x80 ≤ z := by decide
  have hothers : ∀ r ∈ otherDigits, 0x80 ≤ r.1 := by decide
  rw [Bool.eq_iff_iff, isAnyDigit_iff, Char.isDigit_iff_toNat]
  constructor
  · rintro (⟨z, hz, hl, hr⟩ | ⟨r, hr, hl, -⟩)
    · rcases hzeros z hz with rfl | hz
      · exact ⟨hl, hr⟩
      · omega
    · have := hothers r hr
      omega
  · rintro ⟨hl, hr⟩
    exact Or.inl ⟨0x30, by decide, hl, hr⟩

/-- The ranges of code points, both ends included, whose characters are blanks. -/
def blankRanges : List (Nat × Nat) :=
  [
    (0x09, 0x0D), (0x1C, 0x20), (0x85, 0x85), (0xA0, 0xA0), (0x1680, 0x1680), (0x2000, 0x200A), (0x2028, 0x2029),
    (0x202F, 0x202F), (0x205F, 0x205F), (0x3000, 0x3000)]

private theorem exists_blankRange {c : Char} (h : isBlank c = true) :
    ∃ b ∈ blankRanges, b.1 ≤ c.toNat ∧ c.toNat ≤ b.2 := by
  simp only [blankRanges, List.mem_cons, List.not_mem_nil, or_false, exists_eq_or_imp, exists_eq_left]
  simp only [isBlank, Bool.or_eq_true, Bool.and_eq_true, decide_eq_true_eq, beq_iff_eq] at h
  omega

theorem isBlank_of_isAnyDigit {c : Char} (h : isAnyDigit c = true) : isBlank c = false := by
  have hapart : ∀ b ∈ blankRanges,
      (∀ z ∈ decimalZeros, z + 9 < b.1 ∨ b.2 < z) ∧ ∀ r ∈ otherDigits, r.2 < b.1 ∨ b.2 < r.1 := by decide
  rw [← Bool.not_eq_true]
  intro hblank
  obtain ⟨b, hb, hbl, hbr⟩ := exists_blankRange hblank
  rcases isAnyDigit_iff.1 h with ⟨z, hz, hl, hr⟩ | ⟨r, hr, hl, hu⟩
  · have := (hapart b hb).1 z hz
    omega
  · have := (hapart b hb).2 r hr
    omega

end Endpoint.Text
