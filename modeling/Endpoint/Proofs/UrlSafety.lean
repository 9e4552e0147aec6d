import Endpoint.Proofs.HostPort

/-!
# Hosts that are safe in a URL

A host is safe in a URL if nothing in it can end it early: it is made of lower-case letters, digits, hyphens and dots,
or it is in brackets and holds neither a bracket nor a blank nor a mark that separates the parts of a URL there.

All that is written of a host is safe, but for the scope that is shown (`IpAddress.plain_eq_front_append_scope`,
`isUrlSafe_lower`). So a host that is formatted or normalized is safe if and only if that scope is
(`urlText_safe_iff_scope_safe`). A scope may hold any character but a percent sign and a slash, so there are hosts that
are not safe (`urlText_unsafe_scope`).
-/

namespace Endpoint

open Text

/-- The characters of a host that is not in brackets: lower-case letters, digits, the hyphen and the dot. -/
def isBareChar (c : Char) : Bool :=
  c.isLower || c.isDigit || c == '-' || c == '.'

/-- The characters that may stand in the brackets of a host: no brackets, no blanks, and no marks that end a host or
begin one. -/
def isInnerChar (c : Char) : Bool :=
  !isBlank c && !(['[', ']', '/', '?', '#', '@'].contains c)

/-- Whether a text stands for a host in a URL from its first character to its last one. -/
def IsUrlSafe (t : List Char) : Prop :=
  (t ≠ [] ∧ ∀ c ∈ t, isBareChar c = true) ∨ ∃ inner, t = '[' :: inner ++ [']'] ∧ ∀ c ∈ inner, isInnerChar c = true

/-- Whether the scope that is shown of an address, if there is one, may stand in brackets. -/
def IpAddress.ScopeSafe (a : IpAddress) : Prop :=
  ∀ z ∈ a.shown.scope?, ∀ c ∈ z.toList, isInnerChar c = true

/-! ### Characters -/

private theorem isInnerChar_of_toNat {c : Char} (hl : 0x20 < c.toNat) (hr : c.toNat < 0x7F)
    (h : c.toNat ∉ [0x23, 0x2F, 0x3F, 0x40, 0x5B, 0x5D]) : isInnerChar c = true := by
  have hblank : isBlank c = false := isBlank_of_visible hl hr
  have hmark : c ∉ ['[', ']', '/', '?', '#', '@'] := by
    intro hc
    apply h
    simp only [List.mem_cons, List.not_mem_nil, or_false] at hc
    rcases hc with rfl | rfl | rfl | rfl | rfl | rfl <;> decide
  simp [isInnerChar, hblank, hmark]

theorem isInnerChar_of_hexDigit? {c : Char} (h : (hexDigit? c).isSome) : isInnerChar c = true := by
  have hle : ∀ a b : Char, a ≤ b ↔ a.toNat ≤ b.toNat := fun a b => UInt32.le_iff_toNat_le
  have hrange : (48 ≤ c.toNat ∧ c.toNat ≤ 57) ∨ (97 ≤ c.toNat ∧ c.toNat ≤ 102) ∨ (65 ≤ c.toNat ∧ c.toNat ≤ 70) := by
    unfold hexDigit? at h
    simp only [hle] at h
    split at h
    · next h0 => exact Or.inl h0
    · split at h
      · next ha => exact Or.inr (Or.inl ha)
      · split at h
        · next hA => exact Or.inr (Or.inr hA)
        · cases h
  apply isInnerChar_of_toNat
  · omega
  · omega
  · simp only [List.mem_cons, List.not_mem_nil, or_false]
    omega

private theorem isInnerChar_of_isDigit {c : Char} (h : c.isDigit = true) : isInnerChar c = true := by
  obtain ⟨h0, h9⟩ := isDigit_iff.1 h
  apply isInnerChar_of_toNat
  · omega
  · omega
  · simp only [List.mem_cons, List.not_mem_nil, or_false]
    omega

/-- A letter in lower case is one that may stand bare, and so is all else in a hostname. -/
private theorem isBareChar_toLower {c : Char} (h : c = '.' ∨ Hostname.isLabelChar c = true) :
    isBareChar c.toLower = true := by
  have hchar : ∀ d : Char, isBareChar d = true ↔
      (97 ≤ d.toNat ∧ d.toNat ≤ 122) ∨ (48 ≤ d.toNat ∧ d.toNat ≤ 57) ∨ d.toNat = 45 ∨ d.toNat = 46 := by
    intro d
    have hhyphen : d = '-' ↔ d.toNat = 45 := by rw [← Char.toNat_inj]; rfl
    have hdot : d = '.' ↔ d.toNat = 46 := by rw [← Char.toNat_inj]; rfl
    simp only [isBareChar, Bool.or_eq_true, isLower_iff, isDigit_iff, beq_iff_eq, hhyphen, hdot,
      or_assoc]
  rw [hchar, Hostname.toNat_toLower]
  rcases h with rfl | h
  · decide
  · rw [Hostname.isLabelChar_iff] at h
    split <;> omega

/-! ### Safe texts -/

/-- In a safe text the only closing bracket is the last character. -/
private theorem IsUrlSafe.eq_nil_of_bracket {t p r : List Char} (h : IsUrlSafe t)
    (ht : t = p ++ ']' :: r) : r = [] := by
  rcases h with ⟨-, hbare⟩ | ⟨inner, hinner, hchars⟩
  · have hb := hbare ']' (by simp [ht])
    exact absurd hb (by decide)
  · rcases List.eq_nil_or_concat r with hr | ⟨r, x, rfl⟩
    · exact hr
    · -- If something came after the bracket, the bracket would be an inner character.
      have hlast : p ++ ']' :: r ++ [x] = '[' :: inner ++ [']'] := by
        rw [← hinner, ht]
        simp
      have hinit : p ++ ']' :: r = '[' :: inner := List.append_inj_left' hlast rfl
      have hmem : ']' ∈ '[' :: inner := by
        rw [← hinit]
        simp
      rcases List.mem_cons.1 hmem with hb | hb
      · exact absurd hb (by decide)
      · exact absurd (hchars ']' hb) (by decide)

/-- No character of a safe text separates the parts of a URL. -/
theorem IsUrlSafe.not_mem {t : List Char} (h : IsUrlSafe t) {c : Char} (hc : c ∈ ['/', '?', '#', '@']) : c ∉ t := by
  intro hmem
  have hsides : isBareChar c = false ∧ isInnerChar c = false ∧ c ≠ '[' ∧ c ≠ ']' := by
    simp only [List.mem_cons, List.not_mem_nil, or_false] at hc
    rcases hc with rfl | rfl | rfl | rfl <;> decide
  obtain ⟨hbare, hinner, hopen, hclose⟩ := hsides
  rcases h with ⟨-, h⟩ | ⟨inner, rfl, h⟩
  · simp [h c hmem] at hbare
  · simp only [List.cons_append, List.mem_cons, List.mem_append, List.not_mem_nil, or_false] at hmem
    rcases hmem with hc | hc | hc
    · exact hopen hc
    · simp [h c hc] at hinner
    · exact hclose hc

private theorem isUrlSafe_bracketed_iff {inner : List Char} :
    IsUrlSafe ('[' :: inner ++ [']']) ↔ ∀ c ∈ inner, isInnerChar c = true := by
  constructor
  · rintro (⟨-, hbare⟩ | ⟨inner', heq, h⟩)
    · exact absurd (hbare '[' (by simp)) (by decide)
    · rwa [List.append_cancel_right (List.cons.inj heq).2]
  · intro h
    exact Or.inr ⟨inner, rfl, h⟩

/-- A hostname in lower case is safe. -/
private theorem isUrlSafe_lower {n : List Char} (h : Hostname.isValid n = true) : IsUrlSafe (Hostname.lower n) := by
  have hne : Hostname.lower n ≠ [] := by
    apply Hostname.ne_nil_of_isValid
    rw [Hostname.isValid_lower, h]
  refine Or.inl ⟨hne, ?_⟩
  intro c hc
  obtain ⟨d, hd, rfl⟩ := List.mem_map.1 hc
  exact isBareChar_toLower (Hostname.eq_or_isLabelChar_of_mem h hd)

namespace IpAddress

private theorem isUrlSafe_quad (o : Octets) : IsUrlSafe (DottedQuad.write o) := by
  refine Or.inl ⟨List.ne_nil_of_mem (DottedQuad.dot_mem_write o), ?_⟩
  intro c hc
  rcases DottedQuad.eq_or_isDigit_of_mem_write hc with rfl | hd
  · decide
  · simp [isBareChar, hd]

/-- All that is written of an address of version 6 may stand in brackets, but for the scope that is shown. -/
private theorem plain_eq_front_append_scope (g : Groups) (z : Option String) :
    ∃ front, plain (.v6 g z) = front ++ scopeText (shown (.v6 g z)).scope? ∧ ∀ c ∈ front, isInnerChar c = true := by
  cases h : mapped? g with
  | none =>
    refine ⟨ColonGroups.write g, by simp [plain, compressed, shown, scope?, h], ?_⟩
    intro c hc
    rcases ColonGroups.eq_or_isSome_of_mem_write hc with rfl | hd
    · decide
    · exact isInnerChar_of_hexDigit? hd
  | some o =>
    refine ⟨"::ffff:".toList ++ DottedQuad.write o, by simp [plain, shown, scope?, scopeText, h], ?_⟩
    intro c hc
    rcases List.mem_append.1 hc with hc | hc
    · have hfront : "::ffff:".toList.all isInnerChar = true := rfl
      exact List.all_eq_true.1 hfront c hc
    · rcases DottedQuad.eq_or_isDigit_of_mem_write hc with rfl | hd
      · decide
      · exact isInnerChar_of_isDigit hd

private theorem scopeText_inner_iff (z : Option String) :
    (∀ c ∈ scopeText z, isInnerChar c = true) ↔ ∀ y ∈ z, ∀ c ∈ y.toList, isInnerChar c = true := by
  have hpercent : isInnerChar '%' = true := by decide
  cases z with
  | none => simp [scopeText]
  | some z => simp [scopeText, hpercent]

/-- The text of an address is safe if and only if the scope that is shown is. -/
private theorem isUrlSafe_url_iff (a : IpAddress) : IsUrlSafe a.url ↔ a.ScopeSafe := by
  cases a with
  | v4 o => exact iff_of_true (isUrlSafe_quad o) (by simp [ScopeSafe, shown, scope?])
  | v6 g z =>
    obtain ⟨front, hplain, hfront⟩ := plain_eq_front_append_scope g z
    rw [url, isUrlSafe_bracketed_iff, hplain, ScopeSafe, ← scopeText_inner_iff]
    constructor
    · intro h c hc
      exact h c (List.mem_append_right front hc)
    · intro h c hc
      rcases List.mem_append.1 hc with hc | hc
      · exact hfront c hc
      · exact h c hc

end IpAddress

/-! ### Hosts that are written -/

/-- No hostname denotes an address. -/
theorem ofText_ne_ok_of_isValid {s : String} (h : Hostname.isValid (strip s.toList) = true) (a : IpAddress) :
    IpAddress.ofText s ≠ .ok a := by
  intro ha
  rw [IpAddress.ofText_eq_ok_iff, Hostname.unbracket_eq_self_of_isValid h, Hostname.readV6?_eq_none h,
    Hostname.readV4?_eq_none h] at ha
  simp at ha

/-- A host that denotes an address is written as the text of that address, formatted or normalized. All other hosts
that are written are hostnames in lower case. -/
private theorem written_cases {s t : String} (h : urlText (.text s) = .ok t ∨ normalHost s = .ok t) :
    (∃ a, IpAddress.ofText s = .ok a ∧ t = String.ofList a.url) ∨
      ((∀ a, IpAddress.ofText s ≠ .ok a) ∧ ∃ n, Hostname.isValid n = true ∧ t = String.ofList (Hostname.lower n)) := by
  rcases h with h | h
  · cases ha : IpAddress.ofText s with
    | error e =>
      rw [urlText, IpAddress.ofValue, ha] at h
      cases h
    | ok a =>
      rw [urlText_of_ofValue (v := .text s) ha] at h
      exact Or.inl ⟨a, rfl, (Except.ok.inj h).symm⟩
  · rcases normalHost_cases h with ⟨a, -, ha, rfl⟩ | ⟨hvalid, rfl⟩
    · exact Or.inl ⟨a, ha, rfl⟩
    · exact Or.inr ⟨ofText_ne_ok_of_isValid hvalid, _, hvalid, rfl⟩

/-- A host that is formatted or normalized is safe in a URL if and only if the scope that is shown of it is. In every
case what is not safe is in the scope. Where the host is safe, no bracket closes it before its end, and nothing in it
begins another part of the URL. -/
theorem urlText_safe_iff_scope_safe (s t : String) (h : urlText (.text s) = .ok t ∨ normalHost s = .ok t) :
    (IsUrlSafe t.toList ↔ ∀ a, IpAddress.ofText s = .ok a → a.ScopeSafe) ∧
    (IsUrlSafe t.toList ∨ ∃ a z front, IpAddress.ofText s = .ok a ∧ a.shown.scope? = some z ∧
      t.toList = '[' :: front ++ '%' :: z.toList ++ [']'] ∧ ∀ c ∈ front, isInnerChar c = true) ∧
    (IsUrlSafe t.toList → (∀ p r, t.toList = p ++ ']' :: r → r = []) ∧ ∀ c ∈ ['/', '?', '#', '@'], c ∉ t.toList) := by
  have hsafe : IsUrlSafe t.toList →
      (∀ p r, t.toList = p ++ ']' :: r → r = []) ∧ ∀ c ∈ ['/', '?', '#', '@'], c ∉ t.toList :=
    fun hs => ⟨fun _ _ => hs.eq_nil_of_bracket, fun _ => hs.not_mem⟩
  rcases written_cases h with ⟨a, ha, rfl⟩ | ⟨hnone, n, hvalid, rfl⟩
  · have hiff : IsUrlSafe (String.ofList a.url).toList ↔ ∀ b, IpAddress.ofText s = .ok b → b.ScopeSafe := by
      rw [String.toList_ofList, IpAddress.isUrlSafe_url_iff, ha]
      simp
    refine ⟨hiff, ?_, hsafe⟩
    cases a with
    | v4 o =>
      rw [String.toList_ofList]
      exact Or.inl (IpAddress.isUrlSafe_quad o)
    | v6 g z =>
      obtain ⟨front, hplain, hfront⟩ := IpAddress.plain_eq_front_append_scope g z
      cases hz : (IpAddress.shown (.v6 g z)).scope? with
      | none =>
        -- Nothing stands in the brackets but what may stand there.
        left
        rw [String.toList_ofList, IpAddress.isUrlSafe_url_iff, IpAddress.ScopeSafe, hz]
        simp
      | some y =>
        right
        refine ⟨_, y, front, ha, hz, ?_, hfront⟩
        rw [String.toList_ofList, IpAddress.url, hplain, hz, IpAddress.scopeText]
        simp
  · have ht : IsUrlSafe (String.ofList (Hostname.lower n)).toList := by
      rw [String.toList_ofList]
      exact isUrlSafe_lower hvalid
    exact ⟨iff_of_true ht fun a ha => absurd ha (hnone a), Or.inl ht, hsafe⟩

/-- A scope of letters and digits is safe. -/
theorem urlText_safe_linkLocal :
    urlText (.text " [FE80:0::01%eth0] ") = .ok "[fe80::1%eth0]" ∧ IsUrlSafe "[fe80::1%eth0]".toList := by
  have hurl : urlText (.text " [FE80:0::01%eth0] ") = .ok "[fe80::1%eth0]" := rfl
  have haddress : IpAddress.ofText " [FE80:0::01%eth0] " = .ok (.v6 linkLocal (some "eth0")) := rfl
  refine ⟨hurl, (urlText_safe_iff_scope_safe " [FE80:0::01%eth0] " _ (Or.inl hurl)).1.2 ?_⟩
  intro a ha
  rw [haddress] at ha
  obtain rfl := Except.ok.inj ha
  intro z hz
  obtain rfl : "eth0" = z := Option.some.inj hz
  have hinner : "eth0".toList.all isInnerChar = true := rfl
  exact List.all_eq_true.1 hinner

/-- A closing bracket in a scope ends the host, and what follows is read as another host. -/
theorem urlText_unsafe_scope :
    urlText (.text "fe80::1%a]@example.com") = .ok "[fe80::1%a]@example.com]" ∧
      normalHost "fe80::1%a]@example.com" = .ok "[fe80::1%a]@example.com]" ∧
      ¬IsUrlSafe "[fe80::1%a]@example.com]".toList := by
  refine ⟨rfl, rfl, ?_⟩
  intro h
  have hrest : "@example.com]".toList = [] := h.eq_nil_of_bracket (p := "[fe80::1%a".toList) (by decide)
  exact absurd hrest (by decide)

end Endpoint
