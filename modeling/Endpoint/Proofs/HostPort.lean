import Endpoint.Proofs.Hostnames
import Endpoint.Proofs.UrlText

/-!
# Hosts and ports, put together and taken apart

Taking apart undoes putting together (`parseHostPort_inverts`). The text is cut at its last colon, which is the one
before the port, since a port has no colon; the host before it is in normal form (`IsNormalHost`), so it has no colon
outside brackets and normalizing changes it no more. Both ways of writing a host give a normal form: normalizing
(`isNormalHost_of_normalHost`) and formatting an address (`isNormalHost_url`).
-/

namespace Endpoint

open Text

/-! ### Normal forms -/

/-- A host in normal form: there is something of it, it does not begin with a blank, colons occur in brackets only, and
it is its own normal form. -/
structure IsNormalHost (t : String) : Prop where
  ne_nil : t.toList ≠ []
  head_not_blank : ∀ c ∈ t.toList.head?, isBlank c = false
  bracketed : ':' ∈ t.toList → isBracketed t.toList = true
  normalHost_eq : normalHost t = .ok t

private theorem isNormalHost_url {a : IpAddress} (ha : a.WellScoped) : IsNormalHost (String.ofList a.url) := by
  have hnormal : normalHost (String.ofList a.url) = .ok (String.ofList a.url) := by
    rw [normalHost_of_ofText (IpAddress.ofText_url ha), IpAddress.url_shown]
  cases a with
  | v4 o =>
    refine ⟨?_, ?_, ?_, hnormal⟩
    · rw [String.toList_ofList]
      exact List.ne_nil_of_mem (DottedQuad.dot_mem_write o)
    · intro c hc
      rw [String.toList_ofList] at hc
      exact IpAddress.not_blank_of_mem_quad (List.mem_of_mem_head? hc)
    · intro hc
      rw [String.toList_ofList] at hc
      exact absurd hc (IpAddress.not_mem_quad (by decide) (by decide) o)
  | v6 g z =>
    refine ⟨?_, ?_, ?_, hnormal⟩
    · simp [IpAddress.url]
    · intro c hc
      obtain rfl : '[' = c := by simpa [IpAddress.url] using hc
      decide
    · simp [IpAddress.url, isBracketed, List.getLast?_cons]

/-- A hostname in lower case is its own normal form. -/
private theorem normalHost_of_isValid {n : List Char} (h : Hostname.isValid n = true) :
    normalHost (String.ofList n) = .ok (String.ofList (Hostname.lower n)) := by
  simp only [normalHost, String.toList_ofList, Hostname.strip_eq_self_of_isValid h, Hostname.ne_nil_of_isValid h,
    Hostname.unbracket_eq_self_of_isValid h, Hostname.readV6?_eq_none h, Hostname.readV4?_eq_none h, h, if_true,
    ite_false, ne_eq, not_true_eq_false]

private theorem isNormalHost_lower {n : List Char} (h : Hostname.isValid n = true) :
    IsNormalHost (String.ofList (Hostname.lower n)) := by
  have hl : Hostname.isValid (Hostname.lower n) = true := by rw [Hostname.isValid_lower, h]
  refine ⟨?_, ?_, ?_, ?_⟩
  · rw [String.toList_ofList]
    exact Hostname.ne_nil_of_isValid hl
  · intro c hc
    rw [String.toList_ofList] at hc
    exact Hostname.not_blank_of_mem hl (List.mem_of_mem_head? hc)
  · intro hc
    rw [String.toList_ofList] at hc
    exact absurd hc (Hostname.not_mem_of_isValid hl (by decide) (by decide))
  · rw [normalHost_of_isValid hl, Hostname.lower_lower]

/-- What a host is normalized to: the text of an address, or a hostname in lower case. -/
theorem normalHost_cases {s t : String} (h : normalHost s = .ok t) :
    (∃ a, a.WellScoped ∧ IpAddress.ofText s = .ok a ∧ t = String.ofList a.url) ∨
      (Hostname.isValid (strip s.toList) = true ∧ t = String.ofList (Hostname.lower (strip s.toList))) := by
  -- Where the text is a literal, of either version, the case is settled by its address.
  have ofLiteral : ∀ a, IpAddress.ofText s = .ok a →
      ∃ a, a.WellScoped ∧ IpAddress.ofText s = .ok a ∧ t = String.ofList a.url := by
    intro a ha
    rw [normalHost_of_ofText ha] at h
    exact ⟨a, IpAddress.wellScoped_of_ofText ha, ha, (Except.ok.inj h).symm⟩
  cases h6 : IpAddress.readV6? (unbracket (strip s.toList)) with
  | some a => exact Or.inl (ofLiteral a (IpAddress.ofText_eq_ok_iff.2 (Or.inl h6)))
  | none =>
    simp only [normalHost, h6] at h
    split at h
    · cases h
    split at h
    · cases h
    next hu =>
    have hu := Decidable.not_not.1 hu
    cases h4 : IpAddress.readV4? (strip s.toList) with
    | some a => exact Or.inl (ofLiteral a (IpAddress.ofText_eq_ok_iff.2 (Or.inr ⟨h6, hu, h4⟩)))
    | none =>
      simp only [h4] at h
      split at h
      · next hvalid => exact Or.inr ⟨hvalid, (Except.ok.inj h).symm⟩
      · cases h

theorem isNormalHost_of_normalHost {s t : String} (h : normalHost s = .ok t) : IsNormalHost t := by
  rcases normalHost_cases h with ⟨a, ha, -, rfl⟩ | ⟨hvalid, rfl⟩
  · exact isNormalHost_url ha
  · exact isNormalHost_lower hvalid

/-! ### Ports -/

private theorem isPortText_decimal {p : Nat} (h : p ≤ 65535) : isPortText (decimal p) = true := by
  have hlen : (decimal p).length ≤ 5 := (Nat.length_toDigits_le_iff (by omega) (by omega)).2 (by omega)
  simp [isPortText, isDecimal_decimal, hlen]

/-- A host in normal form and a port are taken apart again. -/
theorem parseHostPort_of_isNormalHost {t : String} (h : IsNormalHost t) {p : Nat} (hp : p ≤ 65535) :
    parseHostPort (t ++ ":" ++ String.ofList (decimal p)) = .ok (String.ofList (unbracket t.toList), p) := by
  have htext : (t ++ ":" ++ String.ofList (decimal p)).toList = t.toList ++ ':' :: decimal p := by simp
  have hstrip : strip (t.toList ++ ':' :: decimal p) = t.toList ++ ':' :: decimal p := by
    apply strip_eq_self
    · intro c hc
      rw [List.head?_append, List.head?_eq_some_head h.ne_nil, Option.some_or] at hc
      exact h.head_not_blank c (by rwa [List.head?_eq_some_head h.ne_nil])
    · intro c hc
      rw [List.append_cons, List.getLast?_append, List.getLast?_eq_some_getLast (decimal_ne_nil p),
        Option.some_or] at hc
      obtain rfl := Option.some.inj hc
      exact isBlank_of_isDigit (isDigit_of_mem_decimal (List.getLast_mem (decimal_ne_nil p)))
  -- The last colon is the one before the port, whatever colons are in the host.
  have hcut : cutLast ':' (t.toList ++ ':' :: decimal p) = some (t.toList, decimal p) :=
    cutLast_append_cons (not_mem_decimal (by decide) p) t.toList
  have hbracketed : ¬(':' ∈ t.toList ∧ isBracketed t.toList = false) := by
    rintro ⟨hc, hb⟩
    simp [h.bracketed hc] at hb
  have hport : ¬isPortText (decimal p) = false := by simp [isPortText_decimal hp]
  have hmax : ¬Port.max < decimalValue (decimal p) := by
    rw [decimalValue_decimal, Port.max]
    omega
  unfold parseHostPort
  rw [htext, hstrip, hcut]
  dsimp only
  rw [if_neg h.ne_nil, if_neg hbracketed, if_neg hport, if_neg hmax, String.ofList_toList, h.normalHost_eq,
    decimalValue_decimal]
  rfl

/-- A port is written in decimal digits. -/
theorem withPort_int (s : String) {p : Int} (h : 0 ≤ p) :
    withPort s (.int p) = .ok (s ++ ":" ++ String.ofList (decimal p.toNat)) := by
  obtain ⟨n, rfl⟩ := Int.eq_ofNat_of_zero_le h
  rw [Int.toNat_natCast, decimal, ← Nat.toString_eq_ofList_toDigits]
  rfl

/-- Taking apart undoes putting together, for every host that has a normal form, for everything that stands for an
address, and for every port. What is given back is the host in normal form, but without brackets, and the port. -/
theorem parseHostPort_inverts (p : Int) (hmin : 0 ≤ p) (hmax : p ≤ 65535) :
    (∀ h t, normalHost h = .ok t → ∃ s, normalHostPort (some h) (.int p) = .ok s ∧
      parseHostPort s = .ok (String.ofList (unbracket t.toList), p.toNat)) ∧
    (∀ v t, (∀ a, v = .address a → a.WellScoped) → urlText v = .ok t → ∃ s, urlWithPort v (.int p) = .ok s ∧
      parseHostPort s = .ok (String.ofList (unbracket t.toList), p.toNat)) := by
  have hp : p.toNat ≤ 65535 := by omega
  constructor
  · intro h t ht
    refine ⟨_, ?_, parseHostPort_of_isNormalHost (isNormalHost_of_normalHost ht) hp⟩
    have hport : Port.isHostValue (.int p) = true := by simp [Port.isHostValue, Port.isHostPort, Port.max, hmin, hmax]
    rw [normalHostPort, if_pos hport, normalHost?, ht]
    exact withPort_int t hmin
  · intro v t hv ht
    cases ha : IpAddress.ofValue v with
    | error e =>
      rw [urlText, ha] at ht
      cases ht
    | ok a =>
      have hscoped := IpAddress.wellScoped_of_ofValue ha hv
      rw [urlText_of_ofValue ha] at ht
      obtain rfl := Except.ok.inj ht
      refine ⟨_, ?_, parseHostPort_of_isNormalHost (isNormalHost_url hscoped) hp⟩
      rw [urlWithPort, urlText_of_ofValue ha]
      exact withPort_int _ hmin

/-- Spaces and colons in a scope do no harm, nor do the ones around the host. -/
theorem parseHostPort_inverts_linkLocal :
    (0 : Int) ≤ 8080 ∧ (8080 : Int) ≤ 65535 ∧
      (normalHost " [FE80:0::01%a:b ] " = .ok "[fe80::1%a:b ]" ∧
        ∃ s, normalHostPort (some " [FE80:0::01%a:b ] ") (.int 8080) = .ok s ∧
          parseHostPort s = .ok ("fe80::1%a:b ", 8080)) ∧
      IpAddress.WellScoped (.v6 linkLocal (some "eth0")) ∧
        urlText (.address (.v6 linkLocal (some "eth0"))) = .ok "[fe80::1%eth0]" ∧
        ∃ s, urlWithPort (.address (.v6 linkLocal (some "eth0"))) (.int 8080) = .ok s ∧
          parseHostPort s = .ok ("fe80::1%eth0", 8080) := by
  have hmin : (0 : Int) ≤ 8080 := by decide
  have hmax : (8080 : Int) ≤ 65535 := by decide
  have hscoped : IpAddress.WellScoped (.v6 linkLocal (some "eth0")) := by
    intro z hz
    obtain rfl : "eth0" = z := Option.some.inj hz
    decide
  have hvalue : ∀ a, Value.address (.v6 linkLocal (some "eth0")) = .address a → a.WellScoped := by
    intro a ha
    obtain rfl := Value.address.inj ha
    exact hscoped
  obtain ⟨hhost, haddress⟩ := parseHostPort_inverts 8080 hmin hmax
  exact ⟨hmin, hmax, ⟨rfl, hhost " [FE80:0::01%a:b ] " "[fe80::1%a:b ]" rfl⟩, hscoped, rfl,
    haddress (.address (.v6 linkLocal (some "eth0"))) "[fe80::1%eth0]" hvalue rfl⟩

end Endpoint
