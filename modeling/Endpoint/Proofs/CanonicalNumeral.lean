import Mathlib.Data.Nat.Digits.Lemmas
import Endpoint.Proofs.LiteralGrammar

/-!
# Numerals that are written in one way only

A numeral without leading zeros is determined by its number, in every base (`map_digitChar_eq_toDigits`): its first digit
makes a positive number, and each digit that follows is the last one of the number that it makes.

* (hexadecimal) The numerals in lower case without leading zeros are those that are written for groups: `isShortHex_iff`.
* (dotted quads) No field has a leading zero, so a dotted quad is the one that is written for its octets:
  `DottedQuad.IsQuad.eq_write`.
-/

namespace Endpoint

open Text

theorem forall₂_eq_map_iff {α β : Type} {f : β → α} {l : List α} {r : List β} :
    List.Forall₂ (fun x y => x = f y) l r ↔ l = r.map f := by
  rw [← List.forall₂_eq_eq_eq, List.forall₂_map_right_iff]

namespace Text

/-! ### Digits and numbers -/

/-- The numeral of a positive number, with more digits after it, is the numeral of the number that all of them make. -/
private theorem toDigits_append_map {b n : Nat} (hb : 1 < b) (hn : 0 < n) {ds : List Nat} (hds : ∀ d ∈ ds, d < b) :
    Nat.toDigits b n ++ ds.map Nat.digitChar = Nat.toDigits b (Nat.ofDigits b (ds.reverse ++ [n])) := by
  induction ds generalizing n with
  | nil => simp
  | cons d ds ih =>
    have hd : d < b := hds d (by simp)
    have hstep : Nat.toDigits b n ++ [d.digitChar] = Nat.toDigits b (b * n + d) := by
      rw [← Nat.toDigits_of_lt_base hd, Nat.toDigits_append_toDigits hb hn hd]
    have hpos : 0 < b * n + d := Nat.add_pos_left (Nat.mul_pos (by omega) hn) d
    have hrest := ih hpos fun x hx => hds x (List.mem_cons_of_mem d hx)
    rw [List.map_cons, List.append_cons, hstep, hrest, ofDigits_reverse_append_cons]

private theorem map_digitChar_eq_toDigits {b : Nat} (hb : 1 < b) {ds : List Nat} (hne : ds ≠ []) (hds : ∀ d ∈ ds, d < b)
    (hlead : ds.head? = some 0 → ds = [0]) : ds.map Nat.digitChar = Nat.toDigits b (Nat.ofDigits b ds.reverse) := by
  cases ds with
  | nil => exact absurd rfl hne
  | cons d ds =>
    have hd : d < b := hds d (by simp)
    rcases Nat.eq_zero_or_pos d with rfl | hpos
    · obtain rfl : ds = [] := by simpa using hlead rfl
      have h0 : (0 : Nat) < b := by omega
      simp [Nat.toDigits_of_lt_base h0]
    · have hrest := toDigits_append_map hb hpos fun x hx => hds x (List.mem_cons_of_mem d hx)
      rw [Nat.toDigits_of_lt_base hd] at hrest
      rw [List.map_cons, List.reverse_cons, ← hrest]
      rfl

/-- Every number is made by digits without a leading zero. -/
private theorem exists_digits {b : Nat} (hb : 1 < b) (n : Nat) :
    ∃ ds, ds ≠ [] ∧ (∀ d ∈ ds, d < b) ∧ (ds.head? = some 0 → ds = [0]) ∧ Nat.ofDigits b ds.reverse = n := by
  rcases Nat.eq_zero_or_pos n with rfl | hn
  · exact ⟨[0], by simp, by simp; omega, fun _ => rfl, by simp⟩
  · have hne : Nat.digits b n ≠ [] := Nat.digits_ne_nil_iff_ne_zero.2 (by omega)
    refine ⟨(Nat.digits b n).reverse, by simpa using hne, ?_, ?_, ?_⟩
    · intro d hd
      exact Nat.digits_lt_base hb (List.mem_reverse.1 hd)
    · intro hlead
      rw [List.head?_reverse, List.getLast?_eq_some_getLast hne] at hlead
      exact absurd (Option.some.inj hlead) (Nat.getLast_digit_ne_zero b (by omega))
    · rw [List.reverse_reverse, Nat.ofDigits_digits]

/-! ### Hexadecimal numerals -/

/-- A hexadecimal numeral of a number, in lower case and without leading zeros unless zero is all of it. -/
structure IsShortHex (p : List Char) (n : Nat) : Prop where
  isHex : IsHex p n
  lower : ∀ c ∈ p, ('0' ≤ c ∧ c ≤ '9') ∨ ('a' ≤ c ∧ c ≤ 'f')
  no_leading : p.head? = some '0' → p = ['0']

private theorem hexDigit?_eq_some_iff_lower {c : Char} {d : Nat} :
    (hexDigit? c = some d ∧ (('0' ≤ c ∧ c ≤ '9') ∨ ('a' ≤ c ∧ c ≤ 'f'))) ↔ d < 16 ∧ c = d.digitChar := by
  constructor
  · rintro ⟨hd, hlower⟩
    have hle : ∀ a b : Char, a ≤ b ↔ a.toNat ≤ b.toNat := fun a b => UInt32.le_iff_toNat_le
    simp only [hexDigit?, hle] at hd hlower
    have hzero : '0'.toNat = 48 ∧ '9'.toNat = 57 ∧ 'a'.toNat = 97 ∧ 'f'.toNat = 102 := by decide
    obtain ⟨h0, h9, ha, hf⟩ := hzero
    rw [h0, h9, ha, hf] at hd hlower
    have hvalue : ∀ d < 16, (Nat.digitChar d).toNat = if d < 10 then 48 + d else 87 + d := by decide
    rcases hlower with hc | hc
    · rw [if_pos hc] at hd
      obtain rfl := Option.some.inj hd
      refine ⟨by omega, ?_⟩
      rw [← Char.toNat_inj, hvalue _ (by omega), if_pos (by omega)]
      omega
    · rw [if_neg (by omega), if_pos hc] at hd
      obtain rfl := Option.some.inj hd
      refine ⟨by omega, ?_⟩
      rw [← Char.toNat_inj, hvalue _ (by omega), if_neg (by omega)]
      omega
  · rintro ⟨hd, rfl⟩
    refine ⟨hexDigit?_digitChar hd, ?_⟩
    have hlower : ∀ d < 16, ('0' ≤ Nat.digitChar d ∧ Nat.digitChar d ≤ '9') ∨
        ('a' ≤ Nat.digitChar d ∧ Nat.digitChar d ≤ 'f') := by decide
    exact hlower d hd

private theorem forall₂_digitChar_iff {p : List Char} {ds : List Nat} :
    (List.Forall₂ (fun c d => hexDigit? c = some d) p ds ∧ ∀ c ∈ p, ('0' ≤ c ∧ c ≤ '9') ∨ ('a' ≤ c ∧ c ≤ 'f')) ↔
      p = ds.map Nat.digitChar ∧ ∀ d ∈ ds, d < 16 := by
  induction ds generalizing p with
  | nil => cases p <;> simp
  | cons d ds ih =>
    cases p with
    | nil => simp
    | cons c p =>
      rw [List.forall₂_cons, List.forall_mem_cons, List.forall_mem_cons, and_and_and_comm,
        hexDigit?_eq_some_iff_lower, ih, List.map_cons, List.cons.injEq, and_comm (a := d < 16), and_and_and_comm]

private theorem leading_zero_iff {ds : List Nat} (hds : ∀ d ∈ ds, d < 16) :
    ((ds.map Nat.digitChar).head? = some '0' → ds.map Nat.digitChar = ['0']) ↔ (ds.head? = some 0 → ds = [0]) := by
  have hzero : ∀ d < 16, Nat.digitChar d = '0' ↔ d = 0 := by decide
  rcases ds with _ | ⟨d, _ | ⟨e, ds⟩⟩
  · simp
  · simp [hzero d (hds d (by simp))]
  · simp [hzero d (hds d (by simp))]

private theorem isShortHex_iff_digits {p : List Char} {n : Nat} :
    IsShortHex p n ↔ ∃ ds, p = ds.map Nat.digitChar ∧ ds ≠ [] ∧ (∀ d ∈ ds, d < 16) ∧
      (ds.head? = some 0 → ds = [0]) ∧ Nat.ofDigits 16 ds.reverse = n := by
  constructor
  · rintro ⟨⟨hne, ds, hds, rfl⟩, hlower, hno⟩
    obtain ⟨rfl, hlt⟩ := forall₂_digitChar_iff.1 ⟨hds, hlower⟩
    exact ⟨ds, rfl, by simpa using hne, hlt, (leading_zero_iff hlt).1 hno, rfl⟩
  · rintro ⟨ds, rfl, hne, hlt, hno, rfl⟩
    obtain ⟨hds, hlower⟩ := forall₂_digitChar_iff.2 ⟨rfl, hlt⟩
    exact ⟨⟨by simpa using hne, ds, hds, rfl⟩, hlower, (leading_zero_iff hlt).2 hno⟩

/-- The numerals in lower case without leading zeros are those that are written. -/
theorem isShortHex_iff {p : List Char} {n : Nat} : IsShortHex p n ↔ p = hex n := by
  rw [isShortHex_iff_digits]
  constructor
  · rintro ⟨ds, rfl, hne, hlt, hlead, rfl⟩
    exact map_digitChar_eq_toDigits (by decide) hne hlt hlead
  · rintro rfl
    obtain ⟨ds, hne, hlt, hlead, rfl⟩ := exists_digits (b := 16) (by decide) n
    exact ⟨ds, (map_digitChar_eq_toDigits (by decide) hne hlt hlead).symm, hne, hlt, hlead, rfl⟩

/-! ### Decimal numerals -/

private theorem ofDigitChars_eq_ofDigits (p : List Char) (acc : Nat) :
    Nat.ofDigitChars 10 p acc = Nat.ofDigits 10 ((p.map fun c => c.toNat - 48).reverse ++ [acc]) := by
  induction p generalizing acc with
  | nil => simp
  | cons c p ih =>
    rw [Nat.ofDigitChars_cons, ih, List.map_cons, ← ofDigits_reverse_append_cons]
    rfl

/-- A decimal numeral without leading zeros is the one that is written for its number. -/
private theorem eq_decimal {p : List Char} (hne : p ≠ []) (hdigits : ∀ c ∈ p, c.isDigit = true)
    (hlead : p.head? = some '0' → p = ['0']) : p = decimal (decimalValue p) := by
  have hdigit : ∀ c ∈ p, Nat.digitChar (c.toNat - 48) = c ∧ c.toNat - 48 < 10 := by
    intro c hc
    obtain ⟨hl, hr⟩ := Char.isDigit_iff_toNat.1 (hdigits c hc)
    have hbounds : '0'.toNat = 48 ∧ '9'.toNat = 57 := by decide
    refine ⟨?_, by omega⟩
    rw [← Char.toNat_inj, Nat.toNat_digitChar_of_lt_ten (by omega)]
    omega
  have hp : (p.map fun c => c.toNat - 48).map Nat.digitChar = p := by
    rw [List.map_map]
    exact (List.map_congr_left fun c hc => (hdigit c hc).1).trans (List.map_id p)
  have hlt : ∀ d ∈ p.map fun c => c.toNat - 48, d < 10 := by
    intro d hd
    obtain ⟨c, hc, rfl⟩ := List.mem_map.1 hd
    exact (hdigit c hc).2
  have hzero : (p.map fun c => c.toNat - 48).head? = some 0 → (p.map fun c => c.toNat - 48) = [0] := by
    rw [← leading_zero_iff fun d hd => Nat.lt_trans (hlt d hd) (by decide), hp]
    exact hlead
  rw [decimalValue, ofDigitChars_eq_ofDigits, Nat.ofDigits_append_zero, decimal,
    ← map_digitChar_eq_toDigits (by decide) (by simpa using hne) hlt hzero, hp]

end Text

/-! ### Dotted quads -/

namespace DottedQuad

private theorem IsField.eq_decimal {p : List Char} {n : Nat} (h : IsField p n) : p = decimal n := by
  obtain ⟨hpos, -, hdigits, hlead, rfl, -⟩ := h
  exact Text.eq_decimal (List.length_pos_iff.1 hpos) hdigits hlead

/-- A text is a dotted quad of some octets only if it is the one that is written for them. -/
private theorem IsQuad.eq_write {t : List Char} {o : Octets} (h : IsQuad t o) : t = write o := by
  obtain ⟨ps, rfl, hps⟩ := h
  have hwritten : ps = o.vals.map decimal := forall₂_eq_map_iff.1 (hps.imp fun _ _ hfield => hfield.eq_decimal)
  rw [write, hwritten]

theorem isQuad_iff {t : List Char} {o : Octets} : IsQuad t o ↔ t = write o := by
  constructor
  · exact IsQuad.eq_write
  · rintro rfl
    exact read?_eq_some_iff.1 (read?_write o)

theorem IsQuad.unbracket_eq_self {t : List Char} {o : Octets} (h : IsQuad t o) : unbracket t = t := by
  rw [h.eq_write]
  exact IpAddress.unbracket_quad o

theorem IsQuad.url_eq {t : List Char} {o : Octets} (h : IsQuad t o) : IpAddress.url (.v4 o) = t :=
  h.eq_write.symm

end DottedQuad

end Endpoint
