import Endpoint.Proofs.LiteralGrammar
import Endpoint.Proofs.UrlSafety

/-!
# Hosts with the same normal form

What the normal form of a host depends on.

* (literals) Normalizing and formatting give the same text for every literal. What is no literal cannot be formatted, and
  it is normalized if and only if it is a hostname: `normalHost_agrees_urlText`.
* (fixed) A normal form is its own normal form, and it is of the same kind as the host it was made from:
  `normalHost_idempotent`.
* (identity) Two hosts without a scope have the same normal form if and only if they are the same host (`SameHost`): the
  same address, or hostnames with the same letters in either case: `normalHost_eq_iff_sameHost`. The text of an address
  tells the address (`IpAddress.url_eq_iff`), the lower case of a hostname tells its letters (`Hostname.lower_eq_lower_iff`),
  and no text is both (`IpAddress.url_ne_lower`).
-/

namespace Endpoint

open Text

/-! ### Literals and hostnames -/

/-- What is no literal is normalized if it is a hostname, and refused otherwise. -/
theorem normalHost_of_ofText_eq_error {s : String} {e : AddressError} (h : IpAddress.ofText s = .error e) :
    (Hostname.isValid (strip s.toList) = true ∧
      normalHost s = .ok (String.ofList (Hostname.lower (strip s.toList)))) ∨
    (Hostname.isValid (strip s.toList) = false ∧
      ∃ e', normalHost s = .error e' ∧ (e' = .hostEmpty ∨ e' = .brackets s ∨ e' = .hostname s)) := by
  have hnone : ∀ a, ¬(IpAddress.readV6? (unbracket (strip s.toList)) = some a ∨
      (IpAddress.readV6? (unbracket (strip s.toList)) = none ∧ unbracket (strip s.toList) = strip s.toList ∧
        IpAddress.readV4? (strip s.toList) = some a)) := by
    intro a ha
    rw [IpAddress.ofText_eq_ok_iff.2 ha] at h
    cases h
  have h6 : IpAddress.readV6? (unbracket (strip s.toList)) = none :=
    Option.eq_none_iff_forall_not_mem.2 fun a ha => hnone a (Or.inl ha)
  simp only [normalHost, h6]
  generalize strip s.toList = t at *
  by_cases ht : t = []
  · right
    subst ht
    exact ⟨rfl, .hostEmpty, rfl, Or.inl rfl⟩
  rw [if_neg ht]
  by_cases hu : unbracket t = t
  · have h4 : IpAddress.readV4? t = none :=
      Option.eq_none_iff_forall_not_mem.2 fun a ha => hnone a (Or.inr ⟨h6, hu, ha⟩)
    rw [if_neg (not_not_intro hu), h4]
    cases hvalid : Hostname.isValid t with
    | true => exact Or.inl ⟨rfl, rfl⟩
    | false => exact Or.inr ⟨rfl, .hostname s, rfl, Or.inr (Or.inr rfl)⟩
  · right
    rw [if_pos hu]
    -- A hostname has no brackets.
    have hvalid : Hostname.isValid t = false :=
      Bool.eq_false_iff.2 fun hvalid => hu (Hostname.unbracket_eq_self_of_isValid hvalid)
    exact ⟨hvalid, .brackets s, rfl, Or.inr (Or.inl rfl)⟩

/-- Whatever can be formatted is normalized to the same text. Whatever cannot is normalized if and only if it is a
hostname without the blanks around it, to this hostname in lower case, and else it is refused as empty, for its brackets
or as no hostname. -/
theorem normalHost_agrees_urlText (s : String) :
    (∀ t, urlText (.text s) = .ok t → normalHost s = .ok t) ∧
    (∀ e, urlText (.text s) = .error e →
      ((∃ t, normalHost s = .ok t) ↔ Hostname.isValid (strip s.toList) = true) ∧
      (∀ t, normalHost s = .ok t → t = String.ofList (Hostname.lower (strip s.toList))) ∧
      (∀ e', normalHost s = .error e' → e' = .hostEmpty ∨ e' = .brackets s ∨ e' = .hostname s)) := by
  cases ha : IpAddress.ofText s with
  | ok a =>
    have hurl : urlText (.text s) = .ok (String.ofList a.url) := urlText_of_ofValue ha
    rw [hurl, normalHost_of_ofText ha]
    refine ⟨fun t ht => ht, ?_⟩
    intro e he
    cases he
  | error e =>
    have hurl : urlText (.text s) = .error e := by
      rw [urlText, IpAddress.ofValue, ha]
      rfl
    rw [hurl]
    constructor
    · intro t ht
      cases ht
    · intro _ _
      rcases normalHost_of_ofText_eq_error ha with ⟨hvalid, hok⟩ | ⟨hvalid, e', hrefused, he'⟩
      · rw [hok, hvalid]
        refine ⟨iff_of_true ⟨_, rfl⟩ rfl, fun t ht => (Except.ok.inj ht).symm, ?_⟩
        intro e' he'
        cases he'
      · rw [hrefused, hvalid]
        refine ⟨iff_of_false (by simp) (by simp), ?_, ?_⟩
        · intro t ht
          cases ht
        · intro e'' he''
          exact Except.error.inj he'' ▸ he'

/-- A literal with a scope is formatted and normalized to one text, and a name that cannot be formatted is normalized. -/
theorem normalHost_agrees_urlText_scoped :
    urlText (.text " [FE80:0::01%eth0] ") = .ok "[fe80::1%eth0]" ∧ normalHost " [FE80:0::01%eth0] " = .ok "[fe80::1%eth0]" ∧
      urlText (.text " Example.COM") = .error (.notLiteral " Example.COM") ∧
      (∃ t, normalHost " Example.COM" = .ok t) ∧ ∀ t, normalHost " Example.COM" = .ok t → t = "example.com" := by
  have hurl : urlText (.text " [FE80:0::01%eth0] ") = .ok "[fe80::1%eth0]" := rfl
  have hname : urlText (.text " Example.COM") = .error (.notLiteral " Example.COM") := rfl
  obtain ⟨hiff, hlower, -⟩ := (normalHost_agrees_urlText " Example.COM").2 _ hname
  exact ⟨hurl, (normalHost_agrees_urlText " [FE80:0::01%eth0] ").1 _ hurl, hname, hiff.2 (by decide), hlower⟩

/-- The normal form of a host is its own normal form. That of a literal denotes the address that is shown for it, and that
of a hostname is a hostname. -/
theorem normalHost_idempotent (s t : String) (h : normalHost s = .ok t) :
    normalHost t = .ok t ∧ (∀ a, IpAddress.ofText s = .ok a → IpAddress.ofText t = .ok a.shown) ∧
      (Hostname.isValid (strip s.toList) = true → Hostname.isValid t.toList = true) := by
  refine ⟨(isNormalHost_of_normalHost h).normalHost_eq, ?_⟩
  rcases normalHost_cases h with ⟨a, hscope, ha, rfl⟩ | ⟨hvalid, rfl⟩
  · constructor
    · intro b hb
      obtain rfl := Except.ok.inj (ha.symm.trans hb)
      exact IpAddress.ofText_url hscope
    · intro hvalid
      exact absurd ha (ofText_ne_ok_of_isValid hvalid a)
  · constructor
    · intro a ha
      exact absurd ha (ofText_ne_ok_of_isValid hvalid a)
    · intro _
      rw [String.toList_ofList, Hostname.isValid_lower, hvalid]

/-- Colons, brackets and blanks in a scope are kept for good, also a blank at its end. -/
theorem normalHost_idempotent_scoped :
    normalHost " [FE80:0::01%a]b: ] " = .ok "[fe80::1%a]b: ]" ∧ normalHost "[fe80::1%a]b: ]" = .ok "[fe80::1%a]b: ]" := by
  have h : normalHost " [FE80:0::01%a]b: ] " = .ok "[fe80::1%a]b: ]" := rfl
  exact ⟨h, (normalHost_idempotent _ _ h).1⟩

/-! ### The same host -/

namespace Hostname

/-- Whether two characters are the same, or one is the other as a capital letter of ASCII. -/
def SameLetter (c d : Char) : Prop :=
  c = d ∨ (c.isUpper = true ∧ d.toNat = c.toNat + 32) ∨ (d.isUpper = true ∧ c.toNat = d.toNat + 32)

private theorem toLower_eq_toLower_iff {c d : Char} : c.toLower = d.toLower ↔ SameLetter c d := by
  rw [SameLetter, isUpper_iff, isUpper_iff, ← Char.toNat_inj, ← Char.toNat_inj, toNat_toLower, toNat_toLower]
  split
  · split <;> omega
  · split <;> omega

private theorem lower_eq_lower_iff {s t : List Char} : lower s = lower t ↔ List.Forall₂ SameLetter s t := by
  rw [lower, lower, ← List.forall₂_eq_eq_eq, List.forall₂_map_left_iff, List.forall₂_map_right_iff]
  simp only [toLower_eq_toLower_iff]

end Hostname

/-- Two texts stand for the same host: for addresses with the same version and the same octets, or for hostnames that
differ in nothing but the case of letters. -/
inductive SameHost (s t : String) : Prop
  | address (a b : IpAddress) (hs : IpAddress.ofText s = .ok a) (ht : IpAddress.ofText t = .ok b)
    (hversion : a.version = b.version) (hpacked : a.packed = b.packed)
  | hostname (hs : Hostname.isValid (strip s.toList) = true) (ht : Hostname.isValid (strip t.toList) = true)
    (hletters : List.Forall₂ Hostname.SameLetter (strip s.toList) (strip t.toList))

namespace IpAddress

private theorem wellScoped_of_scope?_eq_none {a : IpAddress} (h : a.scope? = none) : a.WellScoped := by
  intro z hz
  rw [h] at hz
  cases hz

private theorem scope?_of_ofText {s : String} {a : IpAddress} (hs : '%' ∉ s.toList) (h : ofText s = .ok a) :
    a.scope? = none := by
  have hstrip : '%' ∉ strip s.toList := by
    obtain ⟨l, r, -, -, hsides⟩ := exists_eq_append_strip s.toList
    intro hc
    rw [hsides] at hs
    exact hs (by simp [hc])
  have hinner : '%' ∉ unbracket (strip s.toList) := by
    rcases unbracket_cases (strip s.toList) with hu | hu
    · rwa [hu]
    · intro hc
      rw [hu] at hstrip
      exact hstrip (by simp [hc])
  rcases ofText_eq_ok_iff.1 h with h6 | ⟨-, -, h4⟩
  · unfold readV6? at h6
    rw [cutFirst_of_not_mem hinner] at h6
    split at h6
    · cases h6
    · obtain ⟨g, -, rfl⟩ := Option.map_eq_some_iff.1 h6
      rfl
  · obtain ⟨o, -, rfl⟩ := Option.map_eq_some_iff.1 h4
    rfl

private theorem url_eq_iff {a b : IpAddress} (ha : a.scope? = none) (hb : b.scope? = none) :
    a.url = b.url ↔ a.version = b.version ∧ a.packed = b.packed := by
  constructor
  · intro h
    have hshown : a.shown = b.shown := by
      have hread := ofText_url (wellScoped_of_scope?_eq_none ha)
      rw [h, ofText_url (wellScoped_of_scope?_eq_none hb)] at hread
      exact (Except.ok.inj hread).symm
    rw [← a.version_shown, ← b.version_shown, ← a.packed_shown, ← b.packed_shown, hshown]
    exact ⟨rfl, rfl⟩
  · rintro ⟨-, hpacked⟩
    have hab : some a = some b := by
      rw [← ofPacked?_packed a ha, ← ofPacked?_packed b hb, hpacked]
    rw [Option.some.inj hab]

/-- No address is written like a hostname, since no hostname denotes an address. -/
private theorem url_ne_lower {a : IpAddress} (ha : a.scope? = none) {n : List Char} (hn : Hostname.isValid n = true) :
    a.url ≠ Hostname.lower n := by
  intro h
  have hvalid : Hostname.isValid (Hostname.lower n) = true := by rw [Hostname.isValid_lower, hn]
  have hread := ofText_url (wellScoped_of_scope?_eq_none ha)
  refine ofText_ne_ok_of_isValid ?_ a.shown hread
  rw [h, String.toList_ofList, Hostname.strip_eq_self_of_isValid hvalid, hvalid]

end IpAddress

private theorem sameHost_iff_of_ofText {s t : String} {a : IpAddress} (ha : IpAddress.ofText s = .ok a) :
    SameHost s t ↔ ∃ b, IpAddress.ofText t = .ok b ∧ a.version = b.version ∧ a.packed = b.packed := by
  constructor
  · intro h
    cases h with
    | address a' b ha' hb hversion hpacked =>
      rw [ha] at ha'
      obtain rfl := Except.ok.inj ha'
      exact ⟨b, hb, hversion, hpacked⟩
    | hostname hs => exact absurd ha (ofText_ne_ok_of_isValid hs a)
  · rintro ⟨b, hb, hversion, hpacked⟩
    exact .address a b ha hb hversion hpacked

private theorem sameHost_iff_of_isValid {s t : String} (hs : Hostname.isValid (strip s.toList) = true) :
    SameHost s t ↔ Hostname.isValid (strip t.toList) = true ∧
      List.Forall₂ Hostname.SameLetter (strip s.toList) (strip t.toList) := by
  constructor
  · intro h
    cases h with
    | address a _ ha => exact absurd ha (ofText_ne_ok_of_isValid hs a)
    | hostname _ ht hletters => exact ⟨ht, hletters⟩
  · rintro ⟨ht, hletters⟩
    exact .hostname hs ht hletters

/-- Two hosts without a scope that can be normalized have the same normal form if and only if they are the same host. -/
theorem normalHost_eq_iff_sameHost (s t u v : String) (hs : '%' ∉ s.toList) (ht : '%' ∉ t.toList)
    (hu : normalHost s = .ok u) (hv : normalHost t = .ok v) : u = v ↔ SameHost s t := by
  rcases normalHost_cases hu with ⟨a, -, ha, rfl⟩ | ⟨hsvalid, rfl⟩
  · have haz := IpAddress.scope?_of_ofText hs ha
    rw [sameHost_iff_of_ofText ha]
    rcases normalHost_cases hv with ⟨b, -, hb, rfl⟩ | ⟨htvalid, rfl⟩
    · have hbz := IpAddress.scope?_of_ofText ht hb
      simp only [String.ofList_inj, IpAddress.url_eq_iff haz hbz, hb, Except.ok.injEq, exists_eq_left']
    · rw [String.ofList_inj]
      refine iff_of_false (IpAddress.url_ne_lower haz htvalid) ?_
      rintro ⟨b, hb, -⟩
      exact ofText_ne_ok_of_isValid htvalid b hb
  · rw [sameHost_iff_of_isValid hsvalid]
    rcases normalHost_cases hv with ⟨b, -, hb, rfl⟩ | ⟨htvalid, rfl⟩
    · have hbz := IpAddress.scope?_of_ofText ht hb
      rw [String.ofList_inj]
      refine iff_of_false (IpAddress.url_ne_lower hbz hsvalid).symm ?_
      rintro ⟨htvalid, -⟩
      exact ofText_ne_ok_of_isValid htvalid b hb
    · rw [String.ofList_inj, Hostname.lower_eq_lower_iff, htvalid]
      simp

/-- Blanks, brackets, case, zeros, the place of the double colon and a dotted quad at the end make no other host. -/
theorem normalHost_eq_iff_sameHost_mapped :
    '%' ∉ " [0:0:0::FFFF:1.2.3.4]".toList ∧ '%' ∉ "::ffff:0102:00304".toList ∧
      normalHost " [0:0:0::FFFF:1.2.3.4]" = .ok "[::ffff:1.2.3.4]" ∧
      normalHost "::ffff:0102:00304" = .ok "[::ffff:1.2.3.4]" ∧
      SameHost " [0:0:0::FFFF:1.2.3.4]" "::ffff:0102:00304" := by
  have hs : '%' ∉ " [0:0:0::FFFF:1.2.3.4]".toList := by decide
  have ht : '%' ∉ "::ffff:0102:00304".toList := by decide
  have hu : normalHost " [0:0:0::FFFF:1.2.3.4]" = .ok "[::ffff:1.2.3.4]" := rfl
  have hv : normalHost "::ffff:0102:00304" = .ok "[::ffff:1.2.3.4]" := rfl
  exact ⟨hs, ht, hu, hv, (normalHost_eq_iff_sameHost _ _ _ _ hs ht hu hv).1 rfl⟩

end Endpoint
