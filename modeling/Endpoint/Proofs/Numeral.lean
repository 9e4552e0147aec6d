import Endpoint.Text.Numeral

/-!
# Numerals that are written and read

Hexadecimal and decimal numerals read back as the number they were written for (`hexValue?_hex`,
`decimalValue_decimal`), and hold digits only. A decimal numeral has no leading zero unless it is the numeral of zero
(`decimal_eq_zero_of_head?`).
-/

namespace Endpoint.Text

/-! ### Hexadecimal numerals -/

theorem hexDigit?_digitChar {d : Nat} (h : d < 16) : hexDigit? d.digitChar = some d := by
  have : ∀ d < 16, hexDigit? (Nat.digitChar d) = some d := by decide
  exact this d h

private theorem hexFrom_append (acc : Nat) (s t : List Char) :
    hexFrom acc (s ++ t) = (hexFrom acc s).bind fun n => hexFrom n t := by
  induction s generalizing acc with
  | nil => rfl
  | cons c s ih =>
    rw [List.cons_append, hexFrom, hexFrom, Option.bind_assoc]
    congr 1
    funext d
    exact ih _

/-- Only hexadecimal digits are read as such. -/
theorem isSome_hexDigit?_of_hexFrom {acc n : Nat} {s : List Char} (h : hexFrom acc s = some n) {c : Char}
    (hc : c ∈ s) : (hexDigit? c).isSome := by
  induction s generalizing acc with
  | nil => simp at hc
  | cons d s ih =>
    rw [hexFrom, Option.bind_eq_some_iff] at h
    obtain ⟨v, hd, hs⟩ := h
    rcases List.mem_cons.1 hc with rfl | hc
    · simp [hd]
    · exact ih hs hc

private theorem hexFrom_hex (n : Nat) : hexFrom 0 (hex n) = some n := by
  induction n using Nat.strongRecOn with
  | ind n ih =>
    rw [hex, Nat.toDigits_eq_if (by omega)]
    split
    · next h => simp [hexFrom, hexDigit?_digitChar h]
    · have hd : n % 16 < 16 := Nat.mod_lt n (by omega)
      have hq := ih (n / 16) (by omega)
      rw [hex] at hq
      rw [hexFrom_append, hq]
      simp only [Option.bind_some, hexFrom, hexDigit?_digitChar hd]
      congr 1
      omega

theorem hex_ne_nil (n : Nat) : hex n ≠ [] := Nat.toDigits_ne_nil

theorem hexValue?_hex (n : Nat) : hexValue? (hex n) = some n := by
  cases h : hex n with
  | nil => exact absurd h (hex_ne_nil n)
  | cons c s =>
    rw [hexValue?, ← h]
    · exact hexFrom_hex n
    · simp

/-- A hexadecimal numeral holds digits only. -/
theorem isSome_hexDigit?_of_mem_hex {n : Nat} {c : Char} (h : c ∈ hex n) : (hexDigit? c).isSome :=
  isSome_hexDigit?_of_hexFrom (hexFrom_hex n) h

/-- What is no hexadecimal digit does not occur in a numeral. -/
theorem not_mem_hex {c : Char} (h : hexDigit? c = none) (n : Nat) : c ∉ hex n := fun hc => by
  have := isSome_hexDigit?_of_mem_hex hc
  simp [h] at this

/-! ### Decimal numerals -/

theorem decimal_ne_nil (n : Nat) : decimal n ≠ [] := Nat.toDigits_ne_nil

theorem isDigit_of_mem_decimal {n : Nat} {c : Char} (h : c ∈ decimal n) : c.isDigit :=
  Nat.isDigit_of_mem_toDigits (by omega) (by omega) h

/-- What is no decimal digit does not occur in a numeral. -/
theorem not_mem_decimal {c : Char} (h : c.isDigit = false) (n : Nat) : c ∉ decimal n := fun hc => by
  have := isDigit_of_mem_decimal hc
  simp [h] at this

theorem decimalValue_decimal (n : Nat) : decimalValue (decimal n) = n := Nat.ofDigitChars_ten_toDigits

theorem isDecimal_decimal (n : Nat) : isDecimal (decimal n) = true := by
  have hall : (decimal n).all Char.isDigit = true := List.all_eq_true.2 fun c hc => isDigit_of_mem_decimal hc
  simp [isDecimal, decimal_ne_nil, hall]

/-- Only the numeral of zero begins with a zero. -/
theorem decimal_eq_zero_of_head? {n : Nat} (h : (decimal n).head? = some '0') : n = 0 := by
  induction n using Nat.strongRecOn with
  | ind n ih =>
    rw [decimal, Nat.toDigits_eq_if (by omega)] at h
    split at h
    · next hn =>
      have : ∀ d < 10, Nat.digitChar d = '0' → d = 0 := by decide
      exact this n hn (by simpa using h)
    · next hn =>
      -- The first digit is the one of `n / 10`, which is not zero.
      have hq : (decimal (n / 10)).head? = some '0' := by
        rw [List.head?_append, List.head?_eq_some_head Nat.toDigits_ne_nil, Option.some_or] at h
        rwa [decimal, List.head?_eq_some_head Nat.toDigits_ne_nil]
      have := ih (n / 10) (by omega) hq
      omega

end Endpoint.Text
