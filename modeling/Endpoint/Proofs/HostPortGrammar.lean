import Endpoint.Proofs.CanonicalNumeral
import Endpoint.Proofs.SameHosts

/-!
# The grammar of hosts with ports

What is read as a host and a port (`IsHostPort`): a host (`IsHost`), a colon and a port in digits (`IsPort`). The host is an
address of version 6 in brackets, or a dotted quad or a hostname, and blanks may stand between either of these and the
colon.

* (one reading) A port has no colon, so the host ends at the last colon of the text: `IsPort.colon_not_mem`.
* (hosts) A host with a colon has to be in brackets from its first character to its last one, so no blank follows an address
  of version 6. All other hosts are read without the blanks at their end: `isHost_of_normalHost`, `IsHost.exists_normalHost`.
* (refusals) An address of version 6 without brackets has two colons, so one is left in what comes before the last one:
  `parseHostPort_of_two_colons`.

Together, reading accepts exactly the texts of the grammar: `parseHostPort_reads_grammar`.
-/

namespace Endpoint

open Text

/-- Whether a text is a port with a number: one to five decimal digits of a number up to 65535. -/
structure IsPort (d : List Char) (p : Nat) : Prop where
  length_pos : 1 ≤ d.length
  length_le : d.length ≤ 5
  digits : ∀ c ∈ d, c.isDigit = true
  value : p = decimalValue d
  le_max : p ≤ 65535

/-- Whether a text is a host, and what is given back for it: an address of version 6 as it is written in a URL but without
the brackets, a dotted quad, or a hostname in lower case. -/
inductive IsHost : List Char → List Char → Prop
  | v6 {u : List Char} {a : IpAddress} (h : IpAddress.IsLiteralV6 u a) : IsHost ('[' :: u ++ [']']) a.plain
  | v4 {q b : List Char} {o : Octets} (h : DottedQuad.IsQuad q o) (hb : ∀ c ∈ b, isBlank c = true) : IsHost (q ++ b) q
  | name {n b : List Char} (h : Hostname.IsHostname n) (hb : ∀ c ∈ b, isBlank c = true) :
    IsHost (n ++ b) (Hostname.lower n)

/-- Whether a text is a host and a port with a colon between them. -/
def IsHostPort (t : List Char) (r : String × Nat) : Prop :=
  ∃ host port, t = host ++ ':' :: port ∧ IsHost host r.1.toList ∧ IsPort port r.2

/-- Whether an error is one for a text that is no host and port: for its colons, its port or its host. -/
inductive IsRefusal (v : String) : AddressError → Prop
  | noPort : IsRefusal v (.noPort v)
  | unbracketed : IsRefusal v (.unbracketed v)
  | portDigits : IsRefusal v (.portDigits v)
  | portRange {n : Nat} (h : 65535 < n) : IsRefusal v (.portRange (.int n))
  | brackets (host : String) : IsRefusal v (.brackets host)
  | hostname (host : String) : IsRefusal v (.hostname host)

/-! ### Ports -/

private theorem isPort_iff {d : List Char} {p : Nat} :
    IsPort d p ↔ isPortText d = true ∧ ¬Port.max < decimalValue d ∧ p = decimalValue d := by
  have htext : isPortText d = true ↔ (1 ≤ d.length ∧ ∀ c ∈ d, c.isDigit = true) ∧ d.length ≤ 5 := by
    simp only [isPortText, isDecimal, Bool.and_eq_true, Bool.not_eq_true', List.isEmpty_eq_false_iff,
      List.all_eq_true, decide_eq_true_eq, ← List.length_pos_iff, Nat.succ_le_iff]
  rw [htext, Port.max, Nat.not_lt]
  constructor
  · rintro ⟨hpos, hlen, hdigits, rfl, hmax⟩
    exact ⟨⟨⟨hpos, hdigits⟩, hlen⟩, hmax, rfl⟩
  · rintro ⟨⟨⟨hpos, hdigits⟩, hlen⟩, hmax, rfl⟩
    exact ⟨hpos, hlen, hdigits, rfl, hmax⟩

private theorem IsPort.colon_not_mem {d : List Char} {p : Nat} (h : IsPort d p) : ':' ∉ d := by
  intro hc
  exact absurd (h.digits ':' hc) (by decide)

/-! ### Colons of addresses -/

private theorem Text.length_le_count_joinWith (sep : Char) (ps : List (List Char)) :
    ps.length ≤ (joinWith sep ps).count sep + 1 := by
  induction ps with
  | nil => exact Nat.zero_le _
  | cons p ps ih =>
    cases ps with
    | nil => simp
    | cons q ps =>
      rw [joinWith, List.count_append, List.count_cons_self, List.length_cons]
      omega

theorem ColonGroups.ArePieces.length_le {ps : List (List Char)} {gs : List Nat} (h : ArePieces ps gs) :
    gs.length ≤ ps.length + 1 := by
  induction h with
  | nil => exact Nat.zero_le _
  | quad => exact Nat.le_refl _
  | cons _ _ ih =>
    rw [List.length_cons, List.length_cons]
    omega

/-- Eight groups have colons between them, or there is a double colon. -/
private theorem ColonGroups.IsText.two_le_count {s : List Char} {gs : List Nat} (h : IsText s gs) :
    2 ≤ s.count ':' := by
  cases h with
  | @full ps _ h hlen =>
    have hpieces := h.length_le
    have hcount := length_le_count_joinWith ':' ps
    omega
  | gap =>
    rw [List.count_append, List.count_cons_self, List.count_cons_self]
    omega

private theorem IpAddress.IsLiteralV6.two_le_count {u : List Char} {a : IpAddress} (h : IsLiteralV6 u a) :
    2 ≤ u.count ':' := by
  cases h with
  | withoutScope h => exact h.two_le_count
  | withScope h =>
    have hgroups := h.two_le_count
    rw [List.count_append]
    omega

private theorem IpAddress.IsLiteralV6.colon_mem {u : List Char} {a : IpAddress} (h : IsLiteralV6 u a) : ':' ∈ u := by
  have hcount := h.two_le_count
  exact List.count_pos_iff.1 (by omega)

/-! ### Hosts -/

private theorem DottedQuad.IsQuad.not_blank {q : List Char} {o : Octets} (h : IsQuad q o) {c : Char} (hc : c ∈ q) :
    isBlank c = false := by
  rcases h.eq_or_isDigit_of_mem hc with rfl | hdigit
  · decide
  · exact isBlank_of_isDigit hdigit

private theorem Hostname.IsHostname.not_blank {n : List Char} (h : IsHostname n) {c : Char} (hc : c ∈ n) :
    isBlank c = false :=
  not_blank_of_mem (isValid_eq_true_iff.2 h) hc

private theorem strip_append_blanks {t b : List Char} (ht : ∀ c ∈ t, isBlank c = false)
    (hb : ∀ c ∈ b, isBlank c = true) :
    strip (t ++ b) = t := by
  have := strip_append_append (a := []) (by simp) hb (fun c hc => ht c (List.mem_of_mem_head? hc))
    fun c hc => ht c (List.mem_of_mem_getLast? hc)
  simpa using this

private theorem colon_not_mem_of_blank {b : List Char} (hb : ∀ c ∈ b, isBlank c = true) : ':' ∉ b := by
  intro hc
  exact absurd (hb ':' hc) (by decide)

private theorem IpAddress.IsLiteralV6.unbracket_url {u : List Char} {a : IpAddress} (h : IsLiteralV6 u a) :
    unbracket a.url = a.plain := by
  cases h <;> rw [url, unbracket_bracketed]

private theorem normalHost_of_isValid_strip {s : String} (h : Hostname.isValid (strip s.toList) = true) :
    normalHost s = .ok (String.ofList (Hostname.lower (strip s.toList))) := by
  cases hread : IpAddress.ofText s with
  | ok a => exact absurd hread (ofText_ne_ok_of_isValid h a)
  | error e =>
    rcases normalHost_of_ofText_eq_error hread with ⟨-, hnormal⟩ | ⟨hinvalid, -⟩
    · exact hnormal
    · rw [h] at hinvalid
      cases hinvalid

private theorem IsHost.exists_normalHost {host t : List Char} (h : IsHost host t) :
    host ≠ [] ∧ (':' ∈ host → isBracketed host = true) ∧
      ∃ s, normalHost (String.ofList host) = .ok s ∧ unbracket s.toList = t := by
  cases h with
  | @v6 u a h =>
    have hread : IpAddress.ofText (String.ofList ('[' :: u ++ [']'])) = .ok a := by
      rw [IpAddress.ofText_eq_ok_iff_isLiteral, String.toList_ofList, strip_bracketed]
      exact .bracketed h
    refine ⟨by simp, fun _ => by simp [isBracketed, List.getLast?_cons], _, normalHost_of_ofText hread, ?_⟩
    rw [String.toList_ofList, h.unbracket_url]
  | @v4 q b o hq hb =>
    have hcolon : ':' ∉ t ++ b := by
      rw [List.mem_append, not_or]
      exact ⟨hq.not_mem (by decide) (by decide), colon_not_mem_of_blank hb⟩
    refine ⟨?_, fun hc => absurd hc hcolon, _, normalHost_of_ofText (a := .v4 o) ?_, ?_⟩
    · exact List.append_ne_nil_of_left_ne_nil (List.ne_nil_of_mem hq.dot_mem) b
    · rw [IpAddress.ofText_eq_ok_iff_isLiteral, String.toList_ofList,
        strip_append_blanks (fun _ hc => hq.not_blank hc) hb]
      exact .quad hq
    · rw [String.toList_ofList, hq.url_eq, hq.unbracket_eq_self]
  | @name n b hn hb =>
    have hvalid := Hostname.isValid_eq_true_iff.2 hn
    have hcolon : ':' ∉ n ++ b := by
      rw [List.mem_append, not_or]
      exact ⟨Hostname.not_mem_of_isValid hvalid (by decide) (by decide), colon_not_mem_of_blank hb⟩
    have hstrip : strip (String.ofList (n ++ b)).toList = n := by
      rw [String.toList_ofList, strip_append_blanks (fun _ hc => hn.not_blank hc) hb]
    refine ⟨?_, fun hc => absurd hc hcolon, _, normalHost_of_isValid_strip (by rw [hstrip, hvalid]), ?_⟩
    · exact List.append_ne_nil_of_left_ne_nil (Hostname.ne_nil_of_isValid hvalid) b
    · rw [hstrip, String.toList_ofList]
      exact Hostname.unbracket_eq_self_of_isValid (by rw [Hostname.isValid_lower, hvalid])

/-- A literal with blanks after it is a host, if it is in brackets wherever it has a colon. -/
private theorem isHost_of_isLiteral {t b : List Char} {a : IpAddress} (h : IpAddress.IsLiteral t a)
    (hb : ∀ c ∈ b, isBlank c = true) (hbracketed : ':' ∈ t ++ b → isBracketed (t ++ b) = true) :
    IsHost (t ++ b) (unbracket a.url) := by
  have hends : ':' ∈ t → (t ++ b).head? = some '[' ∧ (t ++ b).getLast? = some ']' := by
    intro hc
    simpa [isBracketed] using hbracketed (List.mem_append_left b hc)
  cases h with
  | @quad _ o hq =>
    rw [hq.url_eq, hq.unbracket_eq_self]
    exact .v4 hq hb
  | bare hu =>
    -- A literal without brackets has a colon, and does not begin with a bracket.
    have hopen := (hends hu.colon_mem).1
    rw [List.head?_append_of_ne_nil _ (List.ne_nil_of_mem hu.colon_mem)] at hopen
    exact absurd hopen hu.not_mem_head?
  | @bracketed u _ hu =>
    -- A blank after the closing bracket would be the last character.
    obtain rfl : b = [] := by
      by_contra hne
      have hclose := (hends (by simp [hu.colon_mem])).2
      rw [List.getLast?_append_of_ne_nil _ hne] at hclose
      exact absurd (hb ']' (List.mem_of_getLast? hclose)) (by decide)
    rw [hu.unbracket_url, List.append_nil]
    exact .v6 hu

/-- A host that does not begin with a blank, and that is in brackets if it has a colon, is one of the grammar if it can be
normalized. -/
private theorem isHost_of_normalHost {host : List Char} {s : String} (hblank : ∀ c ∈ host.head?, isBlank c = false)
    (hbracketed : ':' ∈ host → isBracketed host = true) (h : normalHost (String.ofList host) = .ok s) :
    IsHost host (unbracket s.toList) := by
  obtain ⟨b, hb, hhost⟩ : ∃ b, (∀ c ∈ b, isBlank c = true) ∧ host = strip host ++ b := by
    have := exists_eq_stripRight_append host
    rwa [strip, stripLeft_eq_self hblank]
  rcases normalHost_cases h with ⟨a, -, hread, rfl⟩ | ⟨hvalid, rfl⟩
  · rw [IpAddress.ofText_eq_ok_iff_isLiteral, String.toList_ofList] at hread
    rw [hhost] at hbracketed
    have := isHost_of_isLiteral hread hb hbracketed
    rw [String.toList_ofList]
    rwa [← hhost] at this
  · rw [String.toList_ofList] at hvalid ⊢
    have hlower : Hostname.isValid (Hostname.lower (strip host)) = true := by rw [Hostname.isValid_lower, hvalid]
    rw [String.toList_ofList, Hostname.unbracket_eq_self_of_isValid hlower]
    have := IsHost.name (Hostname.isValid_eq_true_iff.1 hvalid) hb
    rwa [← hhost] at this

private theorem normalHost_bracketed_eq_error {n : List Char} (h : IpAddress.readV6? n = none) :
    normalHost (String.ofList ('[' :: n ++ [']'])) = .error (.brackets (String.ofList ('[' :: n ++ [']']))) := by
  have hne : '[' :: n ++ [']'] ≠ [] := by simp
  have hinner : n ≠ '[' :: n ++ [']'] := by
    intro heq
    have hlen := congrArg List.length heq
    rw [List.length_append, List.length_cons] at hlen
    omega
  simp only [normalHost, String.toList_ofList, strip_bracketed, unbracket_bracketed, h, if_neg hne, if_pos hinner]

private theorem normalHost_error_cases {s : String} {e : AddressError} (h : normalHost s = .error e) :
    strip s.toList = [] ∨ e = .brackets s ∨ e = .hostname s := by
  unfold normalHost at h
  dsimp only at h
  split at h
  · next hnil => exact Or.inl hnil
  split at h
  · cases h
  split at h
  · exact Or.inr (Or.inl (Except.error.inj h).symm)
  split at h
  · cases h
  split at h
  · cases h
  · exact Or.inr (Or.inr (Except.error.inj h).symm)

/-! ### Hosts and ports -/

/-- With a port after it, a host that is in brackets if it has a colon is normalized. -/
private theorem parseHostPort_of_isPort {v : String} {host d : List Char} {p : Nat}
    (ht : strip v.toList = host ++ ':' :: d)
    (hne : host ≠ []) (hbracketed : ':' ∈ host → isBracketed host = true) (hd : IsPort d p) :
    parseHostPort v = (normalHost (String.ofList host)).map fun h => (String.ofList (unbracket h.toList), p) := by
  obtain ⟨htext, hmax, rfl⟩ := isPort_iff.1 hd
  have hcolon : ¬(':' ∈ host ∧ isBracketed host = false) := by
    rintro ⟨hc, hb⟩
    rw [hbracketed hc] at hb
    cases hb
  have hdigits : ¬isPortText d = false := by simp [htext]
  simp only [parseHostPort, ht, cutLast_append_cons hd.colon_not_mem, if_neg hne, if_neg hcolon, if_neg hdigits,
    if_neg hmax]

/-- A text is refused before its host is looked at, or it is such a host, a colon and a port. -/
private theorem parseHostPort_cases (v : String) :
    (∃ e, parseHostPort v = .error e ∧ IsRefusal v e) ∨
    ∃ host d p, strip v.toList = host ++ ':' :: d ∧ host ≠ [] ∧ (':' ∈ host → isBracketed host = true) ∧
      IsPort d p := by
  rcases cutLast_cases ':' (strip v.toList) with ⟨-, hcut⟩ | ⟨host, d, -, ht, hcut⟩
  · left
    exact ⟨_, by rw [parseHostPort, hcut], .noPort⟩
  by_cases hne : host = []
  · left
    exact ⟨_, by simp only [parseHostPort, hcut, if_pos hne], .noPort⟩
  by_cases hcolon : ':' ∈ host ∧ isBracketed host = false
  · left
    exact ⟨_, by simp only [parseHostPort, hcut, if_neg hne, if_pos hcolon], .unbracketed⟩
  by_cases htext : isPortText d = false
  · left
    exact ⟨_, by simp only [parseHostPort, hcut, if_neg hne, if_neg hcolon, if_pos htext], .portDigits⟩
  by_cases hmax : Port.max < decimalValue d
  · left
    exact ⟨_, by simp only [parseHostPort, hcut, if_neg hne, if_neg hcolon, if_neg htext, if_pos hmax],
      .portRange hmax⟩
  · right
    refine ⟨host, d, _, ht, hne, fun hc => ?_, isPort_iff.2 ⟨by simpa using htext, hmax, rfl⟩⟩
    rw [← Bool.not_eq_false]
    exact fun hb => hcolon ⟨hc, hb⟩

private theorem parseHostPort_of_isHostPort {v : String} {r : String × Nat} (h : IsHostPort (strip v.toList) r) :
    parseHostPort v = .ok r := by
  obtain ⟨host, d, ht, hhost, hd⟩ := h
  obtain ⟨hne, hbracketed, s, hs, hbare⟩ := hhost.exists_normalHost
  rw [parseHostPort_of_isPort ht hne hbracketed hd, hs, Except.map, hbare, String.ofList_toList]

/-- What comes before the last colon of a text that is stripped does not begin with a blank. -/
private theorem not_blank_of_mem_head? {s host d : List Char} (ht : strip s = host ++ ':' :: d) (hne : host ≠ []) :
    ∀ c ∈ host.head?, isBlank c = false := by
  intro c hc
  apply head?_strip (s := s)
  rwa [ht, List.head?_append_of_ne_nil _ hne]

private theorem strip_ne_nil {s : List Char} (hne : s ≠ []) (h : ∀ c ∈ s.head?, isBlank c = false) : strip s ≠ [] := by
  rw [strip, stripLeft_eq_self h, ne_eq, stripRight_eq_nil_iff]
  intro hblank
  obtain ⟨c, r, rfl⟩ := List.exists_cons_of_ne_nil hne
  have hc := h c rfl
  rw [hblank c List.mem_cons_self] at hc
  cases hc

/-- Every text is one of a host and a port, which is given back, or it is refused for a reason. -/
private theorem parseHostPort_total (v : String) :
    (∃ r, parseHostPort v = .ok r ∧ IsHostPort (strip v.toList) r) ∨
    ∃ e, parseHostPort v = .error e ∧ IsRefusal v e := by
  rcases parseHostPort_cases v with hrefused | ⟨host, d, p, ht, hne, hbracketed, hd⟩
  · right
    exact hrefused
  have hblank := not_blank_of_mem_head? ht hne
  rw [parseHostPort_of_isPort ht hne hbracketed hd]
  cases hnormal : normalHost (String.ofList host) with
  | ok s =>
    left
    refine ⟨_, rfl, host, d, ht, ?_, hd⟩
    rw [String.toList_ofList]
    exact isHost_of_normalHost hblank hbracketed hnormal
  | error e =>
    right
    refine ⟨e, rfl, ?_⟩
    rcases normalHost_error_cases hnormal with hnil | rfl | rfl
    · rw [String.toList_ofList] at hnil
      exact absurd hnil (strip_ne_nil hne hblank)
    · exact .brackets _
    · exact .hostname _

private theorem parseHostPort_of_two_colons {v : String} (hcolons : 2 ≤ (strip v.toList).count ':')
    (hopen : '[' ∉ (strip v.toList).head?) : parseHostPort v = .error (.unbracketed v) := by
  rcases cutLast_cases ':' (strip v.toList) with ⟨hnone, -⟩ | ⟨host, d, hd, ht, hcut⟩
  · rw [List.count_eq_zero.2 hnone] at hcolons
    omega
  rw [ht, List.count_append, List.count_cons_self, List.count_eq_zero.2 hd] at hcolons
  have hcolon : ':' ∈ host := List.count_pos_iff.1 (by omega)
  have hne := List.ne_nil_of_mem hcolon
  have hbracketed : isBracketed host = false := by
    rw [ht, List.head?_append_of_ne_nil _ hne, Option.mem_def] at hopen
    simp [isBracketed, hopen]
  simp only [parseHostPort, hcut, if_neg hne, if_pos (And.intro hcolon hbracketed)]

/-- Reading a host with a port accepts the texts of the grammar and gives what is told for them. All others are refused.
Among these are the ones that begin with an address of version 6 without brackets, and names and addresses of version 4 in
brackets. -/
theorem parseHostPort_reads_grammar (v : String) :
    (∀ r, parseHostPort v = .ok r ↔ IsHostPort (strip v.toList) r) ∧
    ((∀ r, ¬IsHostPort (strip v.toList) r) → ∃ e, parseHostPort v = .error e ∧ IsRefusal v e) ∧
    (∀ u a rest, IpAddress.IsLiteralV6 u a → strip v.toList = u ++ rest →
      parseHostPort v = .error (.unbracketed v)) ∧
    (∀ n d p, Hostname.IsHostname n ∨ (∃ o, DottedQuad.IsQuad n o) → IsPort d p →
      strip v.toList = '[' :: n ++ [']'] ++ ':' :: d →
      parseHostPort v = .error (.brackets (String.ofList ('[' :: n ++ [']'])))) := by
  refine ⟨?_, ?_, ?_, ?_⟩
  · intro r
    refine ⟨fun h => ?_, parseHostPort_of_isHostPort⟩
    rcases parseHostPort_total v with ⟨r', hr', hgrammar⟩ | ⟨e, he, -⟩
    · obtain rfl := Except.ok.inj (hr'.symm.trans h)
      exact hgrammar
    · rw [he] at h
      cases h
  · intro hnone
    rcases parseHostPort_total v with ⟨r, -, hgrammar⟩ | hrefused
    · exact absurd hgrammar (hnone r)
    · exact hrefused
  · intro u a rest hu ht
    have hcolons := hu.two_le_count
    apply parseHostPort_of_two_colons
    · rw [ht, List.count_append]
      omega
    · rw [ht, List.head?_append_of_ne_nil _ (List.ne_nil_of_mem hu.colon_mem)]
      exact hu.not_mem_head?
  · intro n d p hn hd ht
    have hcolon : ':' ∉ n := by
      rcases hn with hn | ⟨o, hq⟩
      · exact Hostname.not_mem_of_isValid (Hostname.isValid_eq_true_iff.2 hn) (by decide) (by decide)
      · exact hq.not_mem (by decide) (by decide)
    have hread := normalHost_bracketed_eq_error (IpAddress.readV6?_eq_none_of_not_mem hcolon)
    have hbracketed : ':' ∈ '[' :: n ++ [']'] → isBracketed ('[' :: n ++ [']']) = true :=
      fun hc => absurd hc (by simp [hcolon])
    rw [parseHostPort_of_isPort ht (by simp) hbracketed hd, hread]
    rfl

/-- Blanks around the text and before the last colon, colons in brackets and zeros before the port are read. An address of
version 6 without brackets, one of version 4 in brackets and a port that is too high are not. -/
theorem parseHostPort_reads_grammar_refused :
    IsHostPort (strip " Example.COM :00080".toList) ("example.com", 80) ∧
      IsHostPort (strip "[FE80::0:1%a:b]:080 ".toList) ("fe80::1%a:b", 80) ∧
      IpAddress.IsLiteralV6 "::1".toList (.v6 ⟨[0, 0, 0, 0, 0, 0, 0, 1], rfl, by decide⟩ none) ∧
      parseHostPort "::1:80" = .error (.unbracketed "::1:80") ∧
      (∃ o, DottedQuad.IsQuad "10.0.0.1".toList o) ∧
      parseHostPort "[10.0.0.1]:80" = .error (.brackets "[10.0.0.1]") ∧
      (∀ r, ¬IsHostPort (strip "localhost:65536".toList) r) ∧
      ∃ e, parseHostPort "localhost:65536" = .error e := by
  have hliteral := IpAddress.readV6?_eq_some_iff.1
    (rfl : IpAddress.readV6? "::1".toList = some (.v6 ⟨[0, 0, 0, 0, 0, 0, 0, 1], rfl, by decide⟩ none))
  have hquad : ∃ o, DottedQuad.IsQuad "10.0.0.1".toList o :=
    ⟨⟨[10, 0, 0, 1], rfl, by decide⟩, DottedQuad.read?_eq_some_iff.1 rfl⟩
  have hport : IsPort "80".toList 80 := isPort_iff.2 (by decide)
  have hhigh : parseHostPort "localhost:65536" = .error (.portRange (.int 65536)) := rfl
  have hnone : ∀ r, ¬IsHostPort (strip "localhost:65536".toList) r := by
    intro r hr
    rw [← (parseHostPort_reads_grammar "localhost:65536").1, hhigh] at hr
    cases hr
  obtain ⟨e, he, -⟩ := (parseHostPort_reads_grammar "localhost:65536").2.1 hnone
  refine ⟨((parseHostPort_reads_grammar " Example.COM :00080").1 _).1 rfl,
    ((parseHostPort_reads_grammar "[FE80::0:1%a:b]:080 ").1 _).1 rfl, hliteral, ?_, hquad, ?_, hnone, e, he⟩
  · exact (parseHostPort_reads_grammar "::1:80").2.2.1 _ _ ":80".toList hliteral rfl
  · exact (parseHostPort_reads_grammar "[10.0.0.1]:80").2.2.2 _ _ _ (Or.inr hquad) hport rfl

end Endpoint
