import Endpoint.Host.Hostname
import Endpoint.Text.Alphanumeric
import Endpoint.Text.Blank

/-!
# The grammar of hostnames

What a hostname is, told without reading it from left to right: `IsHostname` bounds its length, and asks of each piece
between dots how long it is, which characters it holds and what stands at its two ends (`IsLabel`).

* (labels) A text that is closed by a letter or a digit is closed at its last character, since nothing may follow
  (`closesLabel_concat`). So the characters in between are all the others, and reading accepts just the labels
  (`isLabel_iff`).
* (numbers) A label holds ASCII characters only, so a digit of another script is none of its characters, and the last
  label is a number if and only if it is one in ASCII digits (`IsLabel.isDigits_eq`).
* (hostnames) A dot at the end makes an empty label. Together, reading accepts just the hostnames:
  `isValid_reads_grammar`.
-/

namespace Endpoint.Hostname

open Text

/-! ### Characters -/

private theorem eq_hyphen_iff {c : Char} : c = '-' ↔ c.toNat = 45 := by
  rw [← Char.toNat_inj]
  rfl

theorem isLabelChar_iff {c : Char} :
    isLabelChar c = true ↔
      (65 ≤ c.toNat ∧ c.toNat ≤ 90) ∨ (97 ≤ c.toNat ∧ c.toNat ≤ 122) ∨ (48 ≤ c.toNat ∧ c.toNat ≤ 57) ∨
        c.toNat = 45 := by
  simp only [isLabelChar, Bool.or_eq_true, isAlphanum_iff, beq_iff_eq, eq_hyphen_iff, or_assoc]

/-- The hyphen is the one character of a label that may not stand at its ends. -/
private theorem isAlphanum_iff_isLabelChar {c : Char} : c.isAlphanum = true ↔ isLabelChar c = true ∧ c ≠ '-' := by
  rw [ne_eq, isAlphanum_iff, isLabelChar_iff, eq_hyphen_iff]
  omega

/-! ### Labels -/

/-- A label has one to 63 characters. They are letters, digits and hyphens of ASCII, with a hyphen at neither end. -/
structure IsLabel (l : List Char) : Prop where
  length_pos : 1 ≤ l.length
  length_le : l.length ≤ 63
  chars : ∀ c ∈ l, ('a' ≤ c ∧ c ≤ 'z') ∨ ('A' ≤ c ∧ c ≤ 'Z') ∨ ('0' ≤ c ∧ c ≤ '9') ∨ c = '-'
  first_ne : l.head? ≠ some '-'
  last_ne : l.getLast? ≠ some '-'

private theorem isLabelChar_iff_range {c : Char} :
    isLabelChar c = true ↔ ('a' ≤ c ∧ c ≤ 'z') ∨ ('A' ≤ c ∧ c ≤ 'Z') ∨ ('0' ≤ c ∧ c ≤ '9') ∨ c = '-' := by
  have hle : ∀ a b : Char, a ≤ b ↔ a.toNat ≤ b.toNat := fun a b => UInt32.le_iff_toNat_le
  have hbounds : 'a'.toNat = 97 ∧ 'z'.toNat = 122 ∧ 'A'.toNat = 65 ∧ 'Z'.toNat = 90 ∧ '0'.toNat = 48 ∧ '9'.toNat = 57 := by
    decide
  obtain ⟨ha, hz, hA, hZ, h0, h9⟩ := hbounds
  simp only [isLabelChar_iff, hle, eq_hyphen_iff, ha, hz, hA, hZ, h0, h9]
  omega

private theorem closesLabel_concat {room : Nat} {m : List Char} {c : Char} :
    closesLabel room (m ++ [c]) = true ↔
      m.length ≤ room ∧ (∀ d ∈ m, isLabelChar d = true) ∧ c.isAlphanum = true := by
  induction m generalizing room with
  | nil => cases room <;> simp [closesLabel]
  | cons d m ih => cases room <;> simp [closesLabel, ih, and_assoc, and_left_comm]

private theorem isLabel_iff {l : List Char} : isLabel l = true ↔ IsLabel l := by
  rcases l with _ | ⟨c, r⟩
  · exact iff_of_false (by simp [isLabel]) fun h => absurd h.length_pos (by simp)
  rcases List.eq_nil_or_concat r with rfl | ⟨m, d, rfl⟩
  · have hsingle : isLabel [c] = c.isAlphanum := by simp [isLabel]
    rw [hsingle, isAlphanum_iff_isLabelChar, isLabelChar_iff_range]
    constructor
    · rintro ⟨hchar, hne⟩
      exact ⟨by simp, by simp, by simpa using hchar, by simpa using hne, by simpa using hne⟩
    · intro h
      exact ⟨h.chars c (by simp), by simpa using h.first_ne⟩
  · have hread : isLabel (c :: (m ++ [d])) = true ↔
        c.isAlphanum = true ∧ m.length ≤ 61 ∧ (∀ x ∈ m, isLabelChar x = true) ∧ d.isAlphanum = true := by
      simp [isLabel, closesLabel_concat]
    have hlast : (c :: (m ++ [d])).getLast? = some d := by rw [← List.cons_append, List.getLast?_concat]
    rw [List.concat_eq_append, hread, isAlphanum_iff_isLabelChar, isAlphanum_iff_isLabelChar]
    constructor
    · rintro ⟨⟨hc, hcne⟩, hlen, hm, hd, hdne⟩
      refine ⟨by simp, by simp; omega, ?_, by simpa using hcne, by simpa [hlast] using hdne⟩
      intro x hx
      rw [← isLabelChar_iff_range]
      simp only [List.mem_cons, List.mem_append, List.not_mem_nil, or_false] at hx
      rcases hx with rfl | hx | rfl
      · exact hc
      · exact hm x hx
      · exact hd
    · intro h
      have hchars : ∀ x ∈ c :: (m ++ [d]), isLabelChar x = true := fun x hx => isLabelChar_iff_range.2 (h.chars x hx)
      have hlen := h.length_le
      have hfirst := h.first_ne
      have hne := h.last_ne
      rw [hlast] at hne
      simp only [List.length_cons, List.length_append, List.length_nil] at hlen
      exact ⟨⟨hchars c (by simp), by simpa using hfirst⟩, by omega, fun x hx => hchars x (by simp [hx]),
        hchars d (by simp), by simpa using hne⟩

theorem IsLabel.isLabelChar {l : List Char} (h : IsLabel l) {c : Char} (hc : c ∈ l) : isLabelChar c = true :=
  isLabelChar_iff_range.2 (h.chars c hc)

private theorem IsLabel.isDigits_eq {l : List Char} (h : IsLabel l) : isDigits l = l.all Char.isDigit := by
  have hne : l.isEmpty = false := by
    have := h.length_pos
    rw [List.isEmpty_eq_false_iff]
    rintro rfl
    simp at this
  have hdigit : ∀ c ∈ l, isAnyDigit c = c.isDigit := by
    intro c hc
    have := isLabelChar_iff.1 (h.isLabelChar hc)
    exact isAnyDigit_of_ascii (by omega)
  rw [isDigits, hne, Bool.not_false, Bool.true_and, Bool.eq_iff_iff, List.all_eq_true, List.all_eq_true]
  constructor
  · intro hall c hc
    rw [← hdigit c hc, hall c hc]
  · intro hall c hc
    rw [hdigit c hc, hall c hc]

/-! ### Hostnames -/

/-- A hostname has at most 253 characters. Its pieces between dots are labels, and the last one is no number. -/
structure IsHostname (s : List Char) : Prop where
  length_pos : 1 ≤ s.length
  length_le : s.length ≤ 253
  labels : ∀ l ∈ splitOn '.' s, IsLabel l
  last_no_number : ∀ l ∈ (splitOn '.' s).getLast?, ∃ c ∈ l, c.isDigit = false

private theorem nil_mem_splitOn {s : List Char} (h : s.getLast? = some '.') : [] ∈ splitOn '.' s := by
  obtain ⟨p, rfl⟩ := List.getLast?_eq_some_iff.1 h
  rw [splitOn_append_sep]
  simp [splitOn]

private theorem not_isLabel_nil : ¬IsLabel [] := fun h => absurd h.length_pos (by simp)

theorem isValid_eq_true_iff {s : List Char} : isValid s = true ↔ IsHostname s := by
  have hlength : s.isEmpty = false ↔ 1 ≤ s.length := by
    rw [List.isEmpty_eq_false_iff, Nat.succ_le_iff, List.length_pos_iff]
  have hnumber : ∀ l, IsLabel l → (isDigits l = false ↔ ∃ c ∈ l, c.isDigit = false) := by
    intro l hl
    rw [hl.isDigits_eq, List.all_eq_false]
    simp only [Bool.not_eq_true]
  simp only [isValid, Bool.and_eq_true, Bool.not_eq_true', decide_eq_true_eq, bne_iff_ne, List.all_eq_true,
    Option.any_eq_false, hlength, isLabel_iff]
  constructor
  · rintro ⟨⟨⟨⟨hpos, hle⟩, -⟩, hlabels⟩, hlast⟩
    refine ⟨hpos, hle, hlabels, ?_⟩
    intro l hl
    exact (hnumber l (hlabels l (List.mem_of_mem_getLast? hl))).1 (by simpa using hlast l hl)
  · intro h
    refine ⟨⟨⟨⟨h.length_pos, h.length_le⟩, ?_⟩, h.labels⟩, ?_⟩
    · intro hdot
      exact not_isLabel_nil (h.labels [] (nil_mem_splitOn hdot))
    · intro l hl
      simpa using (hnumber l (h.labels l (List.mem_of_mem_getLast? hl))).2 (h.last_no_number l hl)

/-- A hostname holds dots and the characters of labels only. -/
theorem eq_or_isLabelChar_of_mem {s : List Char} (h : isValid s = true) {c : Char} (hc : c ∈ s) :
    c = '.' ∨ isLabelChar c = true := by
  rw [← joinWith_splitOn '.' s] at hc
  rcases mem_joinWith hc with hc | ⟨l, hl, hc⟩
  · exact Or.inl hc
  · exact Or.inr (((isValid_eq_true_iff.1 h).labels l hl).isLabelChar hc)

theorem ne_nil_of_isValid {s : List Char} (h : isValid s = true) : s ≠ [] := by
  rintro rfl
  cases h

/-- A character that is neither a dot nor part of a label does not occur in a hostname. -/
theorem not_mem_of_isValid {s : List Char} (h : isValid s = true) {c : Char} (hdot : c ≠ '.')
    (hc : isLabelChar c = false) : c ∉ s := by
  intro hmem
  rcases eq_or_isLabelChar_of_mem h hmem with h | h
  · exact hdot h
  · simp [hc] at h

private theorem toNat_of_mem {s : List Char} (h : isValid s = true) {c : Char} (hc : c ∈ s) :
    45 ≤ c.toNat ∧ c.toNat ≤ 122 := by
  rcases eq_or_isLabelChar_of_mem h hc with rfl | hc
  · decide
  · rw [isLabelChar_iff] at hc
    omega

theorem not_blank_of_mem {s : List Char} (h : isValid s = true) {c : Char} (hc : c ∈ s) : isBlank c = false := by
  have := toNat_of_mem h hc
  exact isBlank_of_visible (by omega) (by omega)

/-- Reading accepts the hostnames. So it refuses a text with an empty label, with a dot at its end, with a character beyond
ASCII or with a blank. -/
theorem isValid_reads_grammar (s : List Char) :
    (isValid s = true ↔ IsHostname s) ∧ ([] ∈ splitOn '.' s → isValid s = false) ∧
      (s.getLast? = some '.' → isValid s = false) ∧
      ∀ c ∈ s, 0x80 ≤ c.toNat ∨ isBlank c = true → isValid s = false := by
  have hempty : [] ∈ splitOn '.' s → isValid s = false := by
    intro hmem
    rw [← Bool.not_eq_true, isValid_eq_true_iff]
    intro h
    exact not_isLabel_nil (h.labels [] hmem)
  refine ⟨isValid_eq_true_iff, hempty, fun hdot => hempty (nil_mem_splitOn hdot), ?_⟩
  intro c hc hchar
  rw [← Bool.not_eq_true]
  intro h
  rcases hchar with hascii | hblank
  · have := toNat_of_mem h hc
    omega
  · rw [not_blank_of_mem h hc] at hblank
    cases hblank

/-- An empty label, a dot at the end, a letter and a digit beyond ASCII, and a blank. -/
theorem isValid_reads_grammar_refused :
    IsHostname "7.xn--a-b".toList ∧ [] ∈ splitOn '.' "a..b".toList ∧ isValid "a..b".toList = false ∧
      isValid "a.b.".toList = false ∧ isValid "é.a".toList = false ∧ isValid "a.٣".toList = false ∧
      isValid "a b".toList = false := by
  have hempty : [] ∈ splitOn '.' "a..b".toList := by decide
  refine ⟨(isValid_reads_grammar _).1.1 (by decide), hempty, (isValid_reads_grammar _).2.1 hempty,
    (isValid_reads_grammar _).2.2.1 rfl, ?_, ?_, ?_⟩
  · exact (isValid_reads_grammar _).2.2.2 'é' (by decide) (Or.inl (by decide))
  · exact (isValid_reads_grammar _).2.2.2 '٣' (by decide) (Or.inl (by decide))
  · exact (isValid_reads_grammar _).2.2.2 ' ' (by decide) (Or.inr (by decide))

example : (isValid ("a.".toList ++ List.replicate 63 'b'), isValid ("a.".toList ++ List.replicate 64 'b'),
    isValid "7".toList, isValid "a.7-".toList, isValid "7.a".toList) = (true, false, false, false, true) := by
  decide

end Endpoint.Hostname
