import Endpoint.Host.Normal
import Endpoint.Proofs.Literals

/-!
# Addresses in URLs

What of an address survives in its text for a URL.

* (number) The version and the octets are kept, for every address: `urlText_keeps_number`.
* (scope) The scope is kept if and only if the address is not mapped, whether the address is given or read, and whether
  its text is formatted or normalized: `urlText_keeps_scope_iff`.

Both follow from `ofText_of_urlText`: the text of an address denotes the address as it is shown.
-/

namespace Endpoint

open Text

theorem urlText_of_ofValue {v : Value} {a : IpAddress} (h : IpAddress.ofValue v = .ok a) :
    urlText v = .ok (String.ofList a.url) := by
  rw [urlText, h]
  rfl

theorem urlWithPort_of_ofText {s : String} {a : IpAddress} (h : IpAddress.ofText s = .ok a) (port : Int) :
    urlWithPort (.text s) (.int port) = .ok (String.ofList a.url ++ ":" ++ toString port) := by
  rw [urlWithPort, urlText_of_ofValue (v := .text s) h]
  rfl

/-- The text of what a value stands for denotes that address as it is shown. -/
private theorem ofText_of_urlText {v : Value} {a : IpAddress} (h : IpAddress.ofValue v = .ok a) (ha : a.WellScoped) :
    ∃ s, urlText v = .ok s ∧ IpAddress.ofValue (.text s) = .ok a.shown :=
  ⟨_, urlText_of_ofValue h, IpAddress.ofText_url ha⟩

/-- Normalizing the text of an address gives its text for a URL. -/
theorem normalHost_of_ofText {s : String} {a : IpAddress} (h : IpAddress.ofText s = .ok a) :
    normalHost s = .ok (String.ofList a.url) := by
  have hne : strip s.toList ≠ [] := by
    intro hnil
    simp only [IpAddress.ofText, hnil] at h
    cases h
  rcases IpAddress.ofText_eq_ok_iff.1 h with h6 | ⟨h6, hu, h4⟩
  · simp only [normalHost, hne, h6, ite_false]
  · rw [hu] at h6
    simp only [normalHost, hne, hu, h6, h4, ne_eq, not_true_eq_false, ite_false]

/-! ### The number of an address -/

/-- The text of an address for a URL denotes an address with the same version and the same octets, whether the address
is given as such or, without scope, as its octets. -/
theorem urlText_keeps_number (a : IpAddress) (ha : a.WellScoped) :
    (∃ s b, urlText (.address a) = .ok s ∧ IpAddress.ofValue (.text s) = .ok b ∧
      b.version = a.version ∧ b.packed = a.packed) ∧
    (a.scope? = none → ∀ isMutable, ∃ s b, urlText (.octets isMutable a.packed) = .ok s ∧
      IpAddress.ofValue (.text s) = .ok b ∧ b.version = a.version ∧ b.packed = a.packed) := by
  constructor
  · obtain ⟨s, hs, hb⟩ := ofText_of_urlText (v := .address a) rfl ha
    exact ⟨s, a.shown, hs, hb, a.version_shown, a.packed_shown⟩
  · intro hz isMutable
    have hoctets : IpAddress.ofValue (.octets isMutable a.packed) = .ok a := by
      simp only [IpAddress.ofValue, IpAddress.ofOctets, IpAddress.ofPacked?_packed a hz]
    obtain ⟨s, hs, hb⟩ := ofText_of_urlText hoctets ha
    exact ⟨s, a.shown, hs, hb, a.version_shown, a.packed_shown⟩

/-- The address `fe80::1`. -/
def linkLocal : Groups :=
  ⟨[0xFE80, 0, 0, 0, 0, 0, 0, 1], rfl, by decide⟩

/-- The number of `fe80::1` is kept next to a scope. -/
theorem urlText_keeps_number_linkLocal :
    IpAddress.WellScoped (.v6 linkLocal (some "eth 0]:")) ∧
      ∃ s b, urlText (.address (.v6 linkLocal (some "eth 0]:"))) = .ok s ∧ IpAddress.ofValue (.text s) = .ok b ∧
        b.version = 6 ∧ b.packed = [0xFE, 0x80, 0, 0, 0, 0, 0, 0, 0, 0, 0, 0, 0, 0, 0, 1] := by
  have hz : IpAddress.WellScoped (.v6 linkLocal (some "eth 0]:")) := by
    intro z hz
    obtain rfl : "eth 0]:" = z := Option.some.inj hz
    decide
  exact ⟨hz, (urlText_keeps_number _ hz).1⟩

/-! ### The scope of an address -/

namespace IpAddress

private theorem scope?_shown_iff {g : Groups} {z : String} :
    (shown (.v6 g (some z))).scope? = some z ↔ mapped? g = none := by
  cases h : mapped? g <;> simp [shown, scope?, h]

/-- Two addresses with the same groups have the same text if and only if nothing of their scopes is shown. -/
private theorem url_eq_url_iff {g : Groups} {z w : Option String} (hz : WellScoped (.v6 g z))
    (hw : WellScoped (.v6 g w))
    (hne : w ≠ z) : url (.v6 g w) = url (.v6 g z) ↔ mapped? g ≠ none := by
  constructor
  · intro h hnone
    -- The text denotes both addresses as they are shown, and both are shown with their scopes.
    have hsame : shown (.v6 g w) = shown (.v6 g z) := by
      have := ofText_url hw
      rw [h, ofText_url hz] at this
      exact (Except.ok.inj this).symm
    simp [shown, hnone, hne] at hsame
  · intro h
    obtain ⟨o, ho⟩ := Option.ne_none_iff_exists'.1 h
    simp [url, plain, ho]

end IpAddress

/-- The scope of an address can be read from its text if and only if the address is not mapped. This holds of an address
that is given, and of a literal, which is normalized to the same text. Two addresses that differ in nothing but the
scope have the same text if and only if they are mapped. -/
theorem urlText_keeps_scope_iff (g : Groups) (z : String) (hz : IsScope z) :
    (∃ t b, urlText (.address (.v6 g (some z))) = .ok t ∧ IpAddress.ofValue (.text t) = .ok b ∧
      (b.scope? = some z ↔ IpAddress.mapped? g = none)) ∧
    (∀ s, IpAddress.ofValue (.text s) = .ok (.v6 g (some z)) →
      ∃ t b, urlText (.text s) = .ok t ∧ normalHost s = .ok t ∧ IpAddress.ofValue (.text t) = .ok b ∧
        (b.scope? = some z ↔ IpAddress.mapped? g = none)) ∧
    (∀ w : Option String, (∀ y ∈ w, IsScope y) → w ≠ some z →
      (urlText (.address (.v6 g w)) = urlText (.address (.v6 g (some z))) ↔ IpAddress.mapped? g ≠ none)) := by
  have hscoped : IpAddress.WellScoped (.v6 g (some z)) := by
    intro y hy
    obtain rfl : z = y := Option.some.inj hy
    exact hz
  refine ⟨?_, ?_, ?_⟩
  · obtain ⟨t, ht, hb⟩ := ofText_of_urlText (v := .address (.v6 g (some z))) rfl hscoped
    exact ⟨t, _, ht, hb, IpAddress.scope?_shown_iff⟩
  · intro s hs
    exact ⟨_, _, urlText_of_ofValue hs, normalHost_of_ofText hs, IpAddress.ofText_url hscoped,
      IpAddress.scope?_shown_iff⟩
  · intro w hw hne
    rw [← IpAddress.url_eq_url_iff hscoped hw hne, urlText_of_ofValue rfl, urlText_of_ofValue rfl, Except.ok.injEq,
      String.ofList_inj]

/-- The scope of `fe80::1` is kept, since the address is not mapped. -/
theorem urlText_keeps_scope_linkLocal :
    IsScope "eth0" ∧ ∃ t b, urlText (.address (.v6 linkLocal (some "eth0"))) = .ok t ∧
      IpAddress.ofValue (.text t) = .ok b ∧ b.scope? = some "eth0" := by
  have hz : IsScope "eth0" := by decide
  obtain ⟨t, b, ht, hb, hscope⟩ := (urlText_keeps_scope_iff linkLocal "eth0" hz).1
  exact ⟨hz, t, b, ht, hb, hscope.2 rfl⟩

/-- The address `::ffff:1.2.3.4`, which is mapped. -/
def mappedAddress : Groups :=
  ⟨[0, 0, 0, 0, 0, 0xFFFF, 0x0102, 0x0304], rfl, by decide⟩

/-- The scope of a mapped address is lost, when its literal is formatted and when it is normalized. -/
theorem urlText_loses_mapped_scope :
    IsScope "eth0" ∧
      IpAddress.ofValue (.text "[::ffff:1.2.3.4%eth0]") = .ok (.v6 mappedAddress (some "eth0")) ∧
      urlText (.text "[::ffff:1.2.3.4%eth0]") = .ok "[::ffff:1.2.3.4]" ∧
      normalHost "[::ffff:1.2.3.4%eth0]" = .ok "[::ffff:1.2.3.4]" ∧
      IpAddress.ofValue (.text "[::ffff:1.2.3.4]") = .ok (.v6 mappedAddress none) :=
  ⟨by decide, rfl, rfl, rfl, rfl⟩

end Endpoint
