import Endpoint.Text.Utf8

/-!
# Octets that are text

Reading octets as UTF-8 undoes writing (`decodeFrom_charOctets_append`), and it accepts nothing that is not written in
this way (`eq_flatMap_of_decodeFrom`). So octets are accepted just if they are those of a text: `decode_eq_ok_iff`.
-/

namespace Endpoint.Text

/-! ### Octets of characters -/

private theorem loop_eq (bytes : ByteArray) (i : Nat) (r : List UInt8) :
    ByteArray.toList.loop bytes i r = r.reverse ++ bytes.data.toList.drop i := by
  fun_induction ByteArray.toList.loop bytes i r with
  | case1 i r h ih =>
    have hi : i < bytes.data.toList.length := by simpa using h
    rw [ih, List.drop_eq_getElem_cons (l := bytes.data.toList) hi]
    simp [ByteArray.get!, h]
  | case2 i r h =>
    rw [List.drop_eq_nil_of_le (by simpa using Nat.le_of_not_lt h), List.append_nil]

/-- The octets of a character. -/
def charOctets (c : Char) : List Nat :=
  (String.utf8EncodeChar c).map UInt8.toNat

private theorem encode_ofList (s : List Char) : encode (String.ofList s) = s.flatMap charOctets := by
  have hlist : (String.ofList s).toUTF8.toList = s.flatMap String.utf8EncodeChar := by
    rw [ByteArray.toList, loop_eq]
    simp [String.toUTF8, List.utf8Encode]
  rw [encode, hlist, List.map_flatMap]
  rfl

/-- A character is written in one to four octets, by its number. -/
private theorem charOctets_eq (c : Char) : charOctets c =
    if c.toNat < 0x80 then [c.toNat]
    else if c.toNat < 0x800 then [0xC0 + c.toNat / 0x40, 0x80 + c.toNat % 0x40]
    else if c.toNat < 0x10000 then
      [0xE0 + c.toNat / 0x1000, 0x80 + c.toNat / 0x40 % 0x40, 0x80 + c.toNat % 0x40]
    else
      [0xF0 + c.toNat / 0x40000, 0x80 + c.toNat / 0x1000 % 0x40, 0x80 + c.toNat / 0x40 % 0x40,
        0x80 + c.toNat % 0x40] := by
  have hmax : c.toNat < 0x110000 := by
    rcases c.valid with h | h
    · exact Nat.lt_trans h (by decide)
    · exact h.2
  have hval : c.val.toNat = c.toNat := rfl
  unfold charOctets String.utf8EncodeChar
  simp only [hval, apply_ite (List.map UInt8.toNat), List.map_cons, List.map_nil, UInt8.toNat_ofNat']
  by_cases h1 : c.toNat < 0x80
  · rw [if_pos (by omega), if_pos h1, Nat.mod_eq_of_lt (by omega)]
  · rw [if_neg (by omega), if_neg h1]
    by_cases h2 : c.toNat < 0x800
    · rw [if_pos (by omega), if_pos h2]
      simp only [List.cons.injEq, and_true]
      omega
    · rw [if_neg (by omega), if_neg h2]
      by_cases h3 : c.toNat < 0x10000
      · rw [if_pos (by omega), if_pos h3]
        simp only [List.cons.injEq, and_true]
        omega
      · rw [if_neg (by omega), if_neg h3]
        simp only [List.cons.injEq, and_true]
        omega

/-! ### Reading characters -/

private theorem isTail_iff {b : Nat} : isTail b = true ↔ 0x80 ≤ b ∧ b ≤ 0xBF := by
  simp [isTail]

private theorem isSecondOfThree_iff {a b : Nat} :
    isSecondOfThree a b = true ↔ (0x80 ≤ b ∧ b ≤ 0xBF) ∧ (a = 0xE0 → 0xA0 ≤ b) ∧ (a = 0xED → b < 0xA0) := by
  simp [isSecondOfThree, isTail]
  omega

private theorem isSecondOfFour_iff {a b : Nat} :
    isSecondOfFour a b = true ↔ (0x80 ≤ b ∧ b ≤ 0xBF) ∧ (a = 0xF0 → 0x90 ≤ b) ∧ (a = 0xF4 → b < 0x90) := by
  simp [isSecondOfFour, isTail]
  omega

section

variable (pos : Nat) {a b c d : Nat} (r : List Nat)

private theorem decodeFrom_one (ha : a < 0x80) :
    decodeFrom pos (a :: r) = (decodeFrom (pos + 1) r).map (Char.ofNat a :: ·) := by
  rw [decodeFrom.eq_def]
  dsimp only
  rw [if_pos ha]

private theorem decodeFrom_two (ha : 0xC2 ≤ a ∧ a ≤ 0xDF) (hb : isTail b = true) : decodeFrom pos (a :: b :: r) =
    (decodeFrom (pos + 2) r).map (Char.ofNat ((a - 0xC0) * 0x40 + (b - 0x80)) :: ·) := by
  rw [decodeFrom.eq_def]
  dsimp only
  rw [if_neg (by omega), if_pos ha, if_pos hb]

private theorem decodeFrom_three (ha : 0xE0 ≤ a ∧ a ≤ 0xEF) (hb : isSecondOfThree a b = true) (hc : isTail c = true) :
    decodeFrom pos (a :: b :: c :: r) =
      (decodeFrom (pos + 3) r).map (Char.ofNat ((a - 0xE0) * 0x1000 + (b - 0x80) * 0x40 + (c - 0x80)) :: ·) := by
  rw [decodeFrom.eq_def]
  dsimp only
  rw [if_neg (by omega), if_neg (by omega), if_pos ha, if_pos hb, if_pos hc]

private theorem decodeFrom_four (ha : 0xF0 ≤ a ∧ a ≤ 0xF4) (hb : isSecondOfFour a b = true) (hc : isTail c = true)
    (hd : isTail d = true) : decodeFrom pos (a :: b :: c :: d :: r) = (decodeFrom (pos + 4) r).map
      (Char.ofNat ((a - 0xF0) * 0x40000 + (b - 0x80) * 0x1000 + (c - 0x80) * 0x40 + (d - 0x80)) :: ·) := by
  rw [decodeFrom.eq_def]
  dsimp only
  rw [if_neg (by omega), if_neg (by omega), if_neg (by omega), if_pos ha, if_pos hb, if_pos hc, if_pos hd]

end

/-- The octets of a character are read as this character. -/
private theorem decodeFrom_charOctets_append (pos : Nat) (c : Char) (r : List Nat) :
    decodeFrom pos (charOctets c ++ r) = (decodeFrom (pos + (charOctets c).length) r).map (c :: ·) := by
  have hvalid : c.toNat < 0xD800 ∨ 0xDFFF < c.toNat ∧ c.toNat < 0x110000 := c.valid
  have hchar : ∀ n, n = c.toNat → Char.ofNat n = c := by
    rintro n rfl
    exact Char.ofNat_toNat c
  rw [charOctets_eq]
  by_cases h1 : c.toNat < 0x80
  · rw [if_pos h1]
    simp only [List.cons_append, List.nil_append, List.length_cons, List.length_nil]
    rw [decodeFrom_one pos r h1, hchar _ rfl]
  · rw [if_neg h1]
    by_cases h2 : c.toNat < 0x800
    · rw [if_pos h2]
      simp only [List.cons_append, List.nil_append, List.length_cons, List.length_nil]
      rw [decodeFrom_two pos r (by omega) (isTail_iff.2 (by omega)), hchar _ (by omega)]
    · rw [if_neg h2]
      by_cases h3 : c.toNat < 0x10000
      · rw [if_pos h3]
        simp only [List.cons_append, List.nil_append, List.length_cons, List.length_nil]
        rw [decodeFrom_three pos r (by omega) (isSecondOfThree_iff.2 (by omega)) (isTail_iff.2 (by omega)),
          hchar _ (by omega)]
      · rw [if_neg h3]
        simp only [List.cons_append, List.nil_append, List.length_cons, List.length_nil]
        rw [decodeFrom_four pos r (by omega) (isSecondOfFour_iff.2 (by omega)) (isTail_iff.2 (by omega))
          (isTail_iff.2 (by omega)), hchar _ (by omega)]

private theorem decodeFrom_flatMap (pos : Nat) (s : List Char) : decodeFrom pos (s.flatMap charOctets) = .ok s := by
  induction s generalizing pos with
  | nil => rw [List.flatMap_nil, decodeFrom]
  | cons c s ih =>
    rw [List.flatMap_cons, decodeFrom_charOctets_append, ih]
    rfl

/-! ### Writing what is read -/

private theorem toNat_ofNat {n : Nat} (h : n < 0xD800 ∨ 0xDFFF < n ∧ n < 0x110000) : (Char.ofNat n).toNat = n := by
  rw [Char.ofNat, dif_pos h]
  rfl

private theorem exists_of_map_eq_ok {ε α β : Type} {f : α → β} {x : Except ε α} {b : β} (h : x.map f = .ok b) :
    ∃ a, x = .ok a ∧ f a = b := by
  cases x with
  | error e => cases h
  | ok a => exact ⟨a, rfl, Except.ok.inj h⟩

/-- Octets that are read are those of the characters that come out. -/
private theorem eq_flatMap_of_decodeFrom {pos : Nat} {bytes : List Nat} {s : List Char}
    (h : decodeFrom pos bytes = .ok s) :
    bytes = s.flatMap charOctets := by
  fun_induction decodeFrom pos bytes generalizing s with
  | case1 =>
    obtain rfl : [] = s := Except.ok.inj h
    rfl
  | case2 pos a r ha ih =>
    obtain ⟨s', hs', rfl⟩ := exists_of_map_eq_ok h
    rw [List.flatMap_cons, ← ih hs', charOctets_eq, toNat_ofNat (by omega), if_pos ha]
    rfl
  | case4 pos a hone ha b r hb ih =>
    obtain ⟨s', hs', rfl⟩ := exists_of_map_eq_ok h
    rw [isTail_iff] at hb
    rw [List.flatMap_cons, ← ih hs', charOctets_eq, toNat_ofNat (by omega), if_neg (by omega), if_pos (by omega)]
    simp only [List.cons_append, List.nil_append, List.cons.injEq, and_true]
    omega
  | case8 pos a hone htwo ha b hb c r hc ih =>
    obtain ⟨s', hs', rfl⟩ := exists_of_map_eq_ok h
    rw [isSecondOfThree_iff] at hb
    rw [isTail_iff] at hc
    rw [List.flatMap_cons, ← ih hs', charOctets_eq, toNat_ofNat (by omega), if_neg (by omega), if_neg (by omega),
      if_pos (by omega)]
    simp only [List.cons_append, List.nil_append, List.cons.injEq, and_true]
    omega
  | case14 pos a hone htwo hthree ha b hb c hc d r hd ih =>
    obtain ⟨s', hs', rfl⟩ := exists_of_map_eq_ok h
    rw [isSecondOfFour_iff] at hb
    rw [isTail_iff] at hc hd
    rw [List.flatMap_cons, ← ih hs', charOctets_eq, toNat_ofNat (by omega), if_neg (by omega), if_neg (by omega),
      if_neg (by omega)]
    simp only [List.cons_append, List.nil_append, List.cons.injEq, and_true]
    omega
  | _ => cases h

/-- Octets are accepted just if they are those of a text, and this text is what they are read as. -/
theorem decode_eq_ok_iff {bytes : List Nat} {s : List Char} :
    decode bytes = .ok s ↔ bytes = encode (String.ofList s) := by
  rw [encode_ofList, decode]
  constructor
  · exact eq_flatMap_of_decodeFrom
  · rintro rfl
    exact decodeFrom_flatMap 0 s

end Endpoint.Text
