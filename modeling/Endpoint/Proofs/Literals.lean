import Endpoint.Address.Reading
import Endpoint.Proofs.Groups

/-!
# Literals of addresses

The text of an address in a URL is a literal, and it denotes the address again (`IpAddress.ofText_url`), but for the
scope of a mapped address, which is not written (`IpAddress.shown`). This holds of all scopes that can be read
(`IsScope`), since no other character of a literal is a percent sign or a slash, and a scope ends where the brackets
end.
-/

namespace Endpoint

open Text

/-! ### Brackets and blanks -/

theorem unbracket_bracketed (s : List Char) : unbracket ('[' :: s ++ [']']) = s := by
  simp [unbracket]

theorem unbracket_eq_self {s : List Char} (h : '[' ∉ s.head?) : unbracket s = s := by
  cases s with
  | nil => rfl
  | cons c s =>
    unfold unbracket
    split
    · next r hr => exact absurd (by simp [(List.cons.inj hr).1]) h
    · rfl

theorem strip_bracketed (s : List Char) : strip ('[' :: s ++ [']']) = '[' :: s ++ [']'] := by
  apply strip_eq_self
  · intro c hc
    obtain rfl : '[' = c := by simpa using hc
    decide
  · intro c hc
    rw [List.getLast?_append] at hc
    obtain rfl : ']' = c := by simpa using hc
    decide

theorem isBlank_of_isDigit {c : Char} (h : c.isDigit = true) : isBlank c = false := by
  obtain ⟨h0, h9⟩ := Char.isDigit_iff_toNat.1 h
  exact isBlank_of_visible (Nat.lt_of_lt_of_le (by decide) h0) (Nat.lt_of_le_of_lt h9 (by decide))

theorem strip_eq_self_of_not_blank {s : List Char} (h : ∀ c ∈ s, isBlank c = false) : strip s = s :=
  strip_eq_self (fun c hc => h c (List.mem_of_mem_head? hc)) fun c hc => h c (List.mem_of_mem_getLast? hc)

/-! ### Scopes -/

/-- Whether a text can be a scope: it is not empty and holds neither a percent sign nor a slash. -/
def IsScope (z : String) : Prop :=
  z.toList ≠ [] ∧ '%' ∉ z.toList ∧ '/' ∉ z.toList

instance (z : String) : Decidable (IsScope z) :=
  inferInstanceAs (Decidable (_ ∧ _ ∧ _))

namespace IpAddress

/-- Whether the scope of an address, if it has one, is one that can be read. -/
def WellScoped (a : IpAddress) : Prop :=
  ∀ z ∈ a.scope?, IsScope z

/-- The address that the text of an address denotes: a mapped address has lost its scope. -/
def shown : IpAddress → IpAddress
  | .v4 o => .v4 o
  | .v6 g z => .v6 g (if (mapped? g).isSome then none else z)

theorem version_shown (a : IpAddress) : a.shown.version = a.version := by
  cases a <;> rfl

theorem packed_shown (a : IpAddress) : a.shown.packed = a.packed := by
  cases a <;> rfl

/-- Nothing more is lost when the text is written again. -/
theorem url_shown (a : IpAddress) : a.shown.url = a.url := by
  cases a with
  | v4 o => rfl
  | v6 g z => cases h : mapped? g <;> simp [shown, url, plain, h]

/-! ### Reading what is written -/

/-- A character that is neither a hexadecimal digit nor a colon does not occur in groups. -/
private theorem not_mem_write {c : Char} (hc : c ≠ ':') (hd : hexDigit? c = none) (g : Groups) :
    c ∉ ColonGroups.write g := by
  intro h
  rcases ColonGroups.eq_or_isSome_of_mem_write h with h | h
  · exact hc h
  · simp [hd] at h

/-- A character that is neither a digit nor a dot does not occur in a dotted quad. -/
theorem not_mem_quad {c : Char} (hc : c ≠ '.') (hd : c.isDigit = false) (o : Octets) :
    c ∉ DottedQuad.write o := by
  intro h
  rcases DottedQuad.eq_or_isDigit_of_mem_write h with h | h
  · exact hc h
  · simp [hd] at h

private theorem readV6?_compressed (g : Groups) {z : Option String} (hz : WellScoped (.v6 g z)) :
    readV6? (compressed (.v6 g z)) = some (.v6 g z) := by
  have hslash := not_mem_write (show '/' ≠ ':' by decide) (by decide) g
  have hpercent := not_mem_write (show '%' ≠ ':' by decide) (by decide) g
  cases z with
  | none =>
    simp [readV6?, compressed, scopeText, hslash, cutFirst_of_not_mem hpercent, ColonGroups.read?_write]
  | some z =>
    obtain ⟨hne, hp, hs⟩ := hz z rfl
    simp [readV6?, compressed, scopeText, hslash, hs, cutFirst_append_cons hpercent, hne, hp, ColonGroups.read?_write]

private theorem readV6?_mapped {g : Groups} {o : Octets} (h : mapped? g = some o) :
    readV6? ("::ffff:".toList ++ DottedQuad.write o) = some (.v6 g none) := by
  have hslash : '/' ∉ "::ffff:".toList ++ DottedQuad.write o := by
    have := not_mem_quad (show '/' ≠ '.' by decide) (by decide) o
    simpa using this
  have hpercent : '%' ∉ "::ffff:".toList ++ DottedQuad.write o := by
    have := not_mem_quad (show '%' ≠ '.' by decide) (by decide) o
    simpa using this
  rw [readV6?, if_neg hslash, cutFirst_of_not_mem hpercent]
  simp only [ColonGroups.read?_mapped h, Option.map_some]

theorem readV6?_plain (g : Groups) {z : Option String} (hz : WellScoped (.v6 g z)) :
    readV6? (plain (.v6 g z)) = some (shown (.v6 g z)) := by
  cases h : mapped? g with
  | none => simpa [plain, shown, h] using readV6?_compressed g hz
  | some o => simpa [plain, shown, h] using readV6?_mapped h

/-- A text without a colon is no address of version 6. -/
theorem readV6?_eq_none_of_not_mem {s : List Char} (h : ':' ∉ s) : readV6? s = none := by
  unfold readV6?
  rcases cutFirst_cases '%' s with ⟨-, hcut⟩ | ⟨p, r, -, rfl, hcut⟩
  · rw [hcut]
    simp [ColonGroups.read?_eq_none_of_not_mem h]
  · have hp : ':' ∉ p := fun hc => h (by simp [hc])
    rw [hcut]
    simp [ColonGroups.read?_eq_none_of_not_mem hp]

private theorem readV4?_write (o : Octets) : readV4? (DottedQuad.write o) = some (.v4 o) := by
  rw [readV4?, DottedQuad.read?_write]
  rfl

theorem not_blank_of_mem_quad {o : Octets} {c : Char} (h : c ∈ DottedQuad.write o) : isBlank c = false := by
  rcases DottedQuad.eq_or_isDigit_of_mem_write h with rfl | hd
  · decide
  · exact isBlank_of_isDigit hd

theorem strip_quad (o : Octets) : strip (DottedQuad.write o) = DottedQuad.write o :=
  strip_eq_self_of_not_blank fun _ hc => not_blank_of_mem_quad hc

theorem unbracket_quad (o : Octets) : unbracket (DottedQuad.write o) = DottedQuad.write o :=
  unbracket_eq_self fun h => not_mem_quad (by decide) (by decide) o (List.mem_of_mem_head? h)

private theorem readV6?_quad (o : Octets) : readV6? (DottedQuad.write o) = none :=
  readV6?_eq_none_of_not_mem (not_mem_quad (by decide) (by decide) o)

/-- A text denotes an address if it is a literal of version 6, perhaps in brackets, or else one of version 4 without
brackets. -/
theorem ofText_eq_ok_iff {s : String} {a : IpAddress} :
    ofText s = .ok a ↔ readV6? (unbracket (strip s.toList)) = some a ∨
      (readV6? (unbracket (strip s.toList)) = none ∧ unbracket (strip s.toList) = strip s.toList ∧
        readV4? (strip s.toList) = some a) := by
  unfold ofText
  dsimp only
  cases h6 : readV6? (unbracket (strip s.toList)) with
  | some b => simp
  | none =>
    by_cases hu : unbracket (strip s.toList) = strip s.toList
    · cases h4 : readV4? (strip s.toList) <;> simp [hu, h4]
    · simp [hu]

/-- The text of an address in a URL denotes the address as it is shown. -/
theorem ofText_url {a : IpAddress} (h : a.WellScoped) : ofText (String.ofList a.url) = .ok a.shown := by
  cases a with
  | v4 o =>
    simp only [ofText, url, plain, shown, String.toList_ofList, strip_quad, unbracket_quad, readV6?_quad,
      readV4?_write, ne_eq, not_true_eq_false, ite_false]
  | v6 g z =>
    simp only [ofText, url, String.toList_ofList, strip_bracketed, unbracket_bracketed, readV6?_plain g h]

/-! ### Well-scoped addresses -/

/-- A scope that is read can be read. -/
private theorem wellScoped_of_readV6? {s : List Char} {a : IpAddress} (h : readV6? s = some a) : a.WellScoped := by
  unfold readV6? at h
  rcases cutFirst_cases '%' s with ⟨-, hcut⟩ | ⟨p, r, -, rfl, hcut⟩
  · rw [hcut] at h
    split at h
    · cases h
    · obtain ⟨g, -, rfl⟩ := Option.map_eq_some_iff.1 h
      intro z hz
      cases hz
  · rw [hcut] at h
    split at h
    · cases h
    · next hslash =>
      dsimp only at h
      split at h
      · cases h
      · next hr =>
        rw [not_or] at hr
        obtain ⟨g, -, rfl⟩ := Option.map_eq_some_iff.1 h
        intro z hz
        obtain rfl : String.ofList r = z := Option.some.inj hz
        have hs : '/' ∉ r := fun hc => hslash (by simp [hc])
        simpa [IsScope] using ⟨hr.1, hr.2, hs⟩

private theorem wellScoped_of_readV4? {s : List Char} {a : IpAddress} (h : readV4? s = some a) : a.WellScoped := by
  obtain ⟨o, -, rfl⟩ := Option.map_eq_some_iff.1 h
  intro z hz
  cases hz

theorem wellScoped_of_ofText {s : String} {a : IpAddress} (h : ofText s = .ok a) : a.WellScoped := by
  rcases ofText_eq_ok_iff.1 h with h6 | ⟨-, -, h4⟩
  · exact wellScoped_of_readV6? h6
  · exact wellScoped_of_readV4? h4

private theorem scope?_of_ofPacked? {bytes : List Nat} {a : IpAddress} (h : ofPacked? bytes = some a) :
    a.scope? = none := by
  unfold ofPacked? at h
  split at h
  · obtain ⟨o, -, rfl⟩ := Option.map_eq_some_iff.1 h
    rfl
  · split at h
    · obtain ⟨g, -, rfl⟩ := Option.map_eq_some_iff.1 h
      rfl
    · cases h

/-- An address that a value stands for is well scoped, unless the value is an address that is not. -/
theorem wellScoped_of_ofValue {v : Value} {a : IpAddress} (h : ofValue v = .ok a)
    (hv : ∀ b, v = .address b → b.WellScoped) : a.WellScoped := by
  unfold ofValue at h
  split at h
  · next b =>
    obtain rfl : b = a := Except.ok.inj h
    exact hv b rfl
  · next bytes =>
    unfold ofOctets at h
    split at h
    · next b hb =>
      obtain rfl : b = a := Except.ok.inj h
      intro z hz
      rw [scope?_of_ofPacked? hb] at hz
      cases hz
    · cases h
  · exact wellScoped_of_ofText h
  · cases h

end IpAddress

end Endpoint
