/-!
# Blanks

The Unicode white space characters, and texts stripped of them at both ends.

* `strip_eq_self`: a text that neither begins nor ends with a blank is left alone.
* `exists_eq_append_strip`, `strip_append_append`: what is stripped off is blanks, and all of those around the text.
-/

namespace Endpoint.Text

/-- White space: the characters with the Unicode property, and the four separators `U+001C` to `U+001F`. -/
def isBlank (c : Char) : Bool :=
  let n := c.toNat
  (0x09 ≤ n && n ≤ 0x0D) || (0x1C ≤ n && n ≤ 0x20) || n == 0x85 || n == 0xA0 || n == 0x1680 ||
    (0x2000 ≤ n && n ≤ 0x200A) || n == 0x2028 || n == 0x2029 || n == 0x202F || n == 0x205F || n == 0x3000

/-- The text without the blanks it begins with. -/
def stripLeft (s : List Char) : List Char :=
  s.dropWhile isBlank

/-- The text without the blanks it ends with. -/
def stripRight (s : List Char) : List Char :=
  (s.reverse.dropWhile isBlank).reverse

/-- The text without the blanks at its two ends. -/
def strip (s : List Char) : List Char :=
  stripRight (stripLeft s)

/-- The text without the blanks at its two ends. -/
def stripped (s : String) : String :=
  String.ofList (strip s.toList)

/-- The visible characters of ASCII are no blanks. -/
theorem isBlank_of_visible {c : Char} (hl : 0x20 < c.toNat) (hr : c.toNat < 0x7F) : isBlank c = false := by
  simp only [isBlank, Bool.or_eq_false_iff, Bool.and_eq_false_iff, decide_eq_false_iff_not, beq_eq_false_iff_ne]
  omega

theorem stripLeft_eq_self {s : List Char} (h : ∀ c ∈ s.head?, isBlank c = false) : stripLeft s = s := by
  cases s with
  | nil => rfl
  | cons c r => simp [stripLeft, h c (by simp)]

theorem stripRight_eq_self {s : List Char} (h : ∀ c ∈ s.getLast?, isBlank c = false) : stripRight s = s := by
  have hr : stripLeft s.reverse = s.reverse := by
    apply stripLeft_eq_self
    simpa using h
  rw [stripRight]
  rw [stripLeft] at hr
  rw [hr, List.reverse_reverse]

theorem strip_eq_self {s : List Char} (hl : ∀ c ∈ s.head?, isBlank c = false)
    (hr : ∀ c ∈ s.getLast?, isBlank c = false) : strip s = s := by
  rw [strip, stripLeft_eq_self hl, stripRight_eq_self hr]

/-- What is left after stripping on the left does not begin with a blank. -/
private theorem head?_stripLeft {s : List Char} {c : Char} (h : c ∈ (stripLeft s).head?) : isBlank c = false := by
  induction s with
  | nil => simp [stripLeft] at h
  | cons d r ih =>
    cases hd : isBlank d with
    | true => exact ih (by simpa [stripLeft, List.dropWhile_cons, hd] using h)
    | false =>
      simp only [stripLeft, List.dropWhile_cons, hd, Bool.false_eq_true, ite_false, List.head?_cons,
        Option.mem_def, Option.some.injEq] at h
      exact h ▸ hd

/-- What is left after stripping on the right does not end with a blank. -/
private theorem getLast?_stripRight {s : List Char} {c : Char} (h : c ∈ (stripRight s).getLast?) :
    isBlank c = false := by
  have h' : c ∈ (stripLeft s.reverse).head? := by simpa [stripRight, stripLeft] using h
  exact head?_stripLeft h'

private theorem stripLeft_append_of_blank {b : List Char} (h : ∀ c ∈ b, isBlank c = true) (s : List Char) :
    stripLeft (b ++ s) = stripLeft s :=
  List.dropWhile_append_of_pos h

private theorem stripRight_append_of_blank {b : List Char} (h : ∀ c ∈ b, isBlank c = true) (s : List Char) :
    stripRight (s ++ b) = stripRight s := by
  have hb : ∀ c ∈ b.reverse, isBlank c = true := fun c hc => h c (List.mem_reverse.1 hc)
  rw [stripRight, stripRight, List.reverse_append, List.dropWhile_append_of_pos hb]

theorem exists_eq_stripRight_append (s : List Char) : ∃ b, (∀ c ∈ b, isBlank c = true) ∧ s = stripRight s ++ b := by
  refine ⟨(s.reverse.takeWhile isBlank).reverse, ?_, ?_⟩
  · intro c hc
    exact List.all_eq_true.1 List.all_takeWhile c (List.mem_reverse.1 hc)
  · rw [stripRight, ← List.reverse_append, List.takeWhile_append_dropWhile, List.reverse_reverse]

theorem stripRight_eq_nil_iff {s : List Char} : stripRight s = [] ↔ ∀ c ∈ s, isBlank c = true := by
  constructor
  · intro h
    obtain ⟨b, hb, hs⟩ := exists_eq_stripRight_append s
    rw [h, List.nil_append] at hs
    rwa [hs]
  · intro h
    exact stripRight_append_of_blank h []

theorem dropWhile_append_cons {c : Char} (hc : isBlank c = false) (s r : List Char) :
    (s ++ c :: r).dropWhile isBlank = s.dropWhile isBlank ++ c :: r := by
  induction s with
  | nil => simp [hc]
  | cons d s ih =>
    rw [List.cons_append, List.dropWhile_cons, List.dropWhile_cons]
    split
    · exact ih
    · rfl

theorem stripRight_append_cons {c : Char} (hc : isBlank c = false) (s r : List Char) :
    stripRight (s ++ c :: r) = s ++ c :: stripRight r := by
  have hreverse : (s ++ c :: r).reverse = r.reverse ++ c :: s.reverse := by simp
  rw [stripRight, stripRight, hreverse, dropWhile_append_cons hc, List.reverse_append, List.reverse_cons,
    List.reverse_reverse, List.append_assoc]
  rfl

/-- What is left after stripping does not begin with a blank. -/
theorem head?_strip {s : List Char} {c : Char} (h : c ∈ (strip s).head?) : isBlank c = false := by
  obtain ⟨b, -, hb⟩ := exists_eq_stripRight_append (stripLeft s)
  apply head?_stripLeft (s := s)
  rw [strip] at h
  rw [hb, List.head?_append]
  simp [Option.mem_def.1 h]

theorem strip_strip (s : List Char) : strip (strip s) = strip s :=
  strip_eq_self (fun _ h => head?_strip h) fun _ h => getLast?_stripRight h

/-- Blanks around a text that neither begins nor ends with one are stripped off. -/
theorem strip_append_append {a t b : List Char} (ha : ∀ c ∈ a, isBlank c = true) (hb : ∀ c ∈ b, isBlank c = true)
    (hl : ∀ c ∈ t.head?, isBlank c = false) (hr : ∀ c ∈ t.getLast?, isBlank c = false) : strip (a ++ t ++ b) = t := by
  rw [strip, List.append_assoc, stripLeft_append_of_blank ha]
  cases t with
  | nil =>
    have hnil : stripLeft b = [] := by
      rw [← List.append_nil b, stripLeft_append_of_blank hb]
      rfl
    rw [List.nil_append, hnil]
    rfl
  | cons c t =>
    rw [stripLeft_eq_self (by simpa using hl), stripRight_append_of_blank hb, stripRight_eq_self hr]

/-- A text is what stripping leaves of it between blanks. -/
theorem exists_eq_append_strip (s : List Char) :
    ∃ a b, (∀ c ∈ a, isBlank c = true) ∧ (∀ c ∈ b, isBlank c = true) ∧ s = a ++ strip s ++ b := by
  obtain ⟨b, hb, hright⟩ := exists_eq_stripRight_append (stripLeft s)
  refine ⟨s.takeWhile isBlank, b, List.all_eq_true.1 List.all_takeWhile, hb, ?_⟩
  rw [List.append_assoc, strip, ← hright, stripLeft, List.takeWhile_append_dropWhile]

end Endpoint.Text
