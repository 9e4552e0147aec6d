import Endpoint.Proofs.Openings
import Endpoint.Proofs.SameHosts

/-!
# Hosts without their brackets

The brackets around an address keep blanks and brackets in its scope away from the ends of the text. Here they are taken
off, and the host is read again.

* (literals) Neither groups nor the percent sign after them are blanks, so what is stripped from a bare literal is the end
  of its scope (`IpAddress.strip_append_scope`). It stays a literal unless the scope is blank throughout:
  `IpAddress.exists_ofText_bare_iff`.
* (hosts taken apart) A host taken from a text can be put together with its port again, to give the same pair, if and only
  if there is no blank at its end: `parseHostPort_formats_back_iff`, `parseHostPort_loses_blank`.
* (hosts bound) A host is stripped of blanks and brackets twice before the family of its socket is chosen. This is the
  family of its address if and only if it is not `Network.Misread`: `Network.bindPort_family_agrees_iff`,
  `Network.bindPort_misreads_brackets`.
-/

namespace Endpoint

open Text

/-! ### Literals that are stripped -/

private theorem ColonGroups.isText_write (g : Groups) : IsText (write g) g.vals :=
  read?_eq_some_iff.1 (read?_write g)

namespace IpAddress

open ColonGroups (IsText)

private theorem not_blank_of_isText {s : List Char} {gs : List Nat} (h : IsText s gs) {c : Char} (hc : c ∈ s) :
    isBlank c = false := by
  rw [← Bool.not_eq_true]
  intro hblank
  have hhex : hexDigit? c = none := by
    rw [← Option.not_isSome_iff_eq_none]
    intro hsome
    have := isInnerChar_of_hexDigit? hsome
    simp [isInnerChar, hblank] at this
  have hdigit : c.isDigit = false := by
    rw [← Bool.not_eq_true]
    intro hdigit
    rw [isBlank_of_isDigit hdigit] at hblank
    cases hblank
  have hne : ∀ d, isBlank d = false → c ≠ d := by
    rintro d hd rfl
    rw [hd] at hblank
    cases hblank
  exact h.not_mem (hne ':' (by decide)) (hne '.' (by decide)) hdigit hhex hc

private theorem IsLiteralV6.version_eq {u : List Char} {a : IpAddress} (h : IsLiteralV6 u a) : a.version = 6 := by
  cases h <;> rfl

private theorem IsLiteralV6.isText {u : List Char} {g : Groups} (h : IsLiteralV6 u (.v6 g none)) : IsText u g.vals := by
  cases h with
  | withoutScope h => exact h

/-- Groups neither begin nor end with a blank, and the percent sign after them is none, so only the scope is stripped. -/
private theorem strip_of_isText {s : List Char} {gs : List Nat} (h : IsText s gs) : strip s = s :=
  strip_eq_self_of_not_blank fun _ => not_blank_of_isText h

private theorem strip_append_scope {s : List Char} {gs : List Nat} (h : IsText s gs) (z : List Char) :
    strip (s ++ '%' :: z) = s ++ '%' :: stripRight z := by
  have hleft : stripLeft (s ++ '%' :: z) = s ++ '%' :: z := by
    apply stripLeft_eq_self
    intro c hc
    rw [List.head?_append_of_ne_nil _ h.ne_nil] at hc
    exact not_blank_of_isText h (List.mem_of_mem_head? hc)
  rw [strip, hleft, stripRight_append_cons (by decide)]

private theorem unbracket_append_scope {s : List Char} {g : Groups} (h : IsText s g.vals) (z : List Char) :
    unbracket (s ++ z) = s ++ z := by
  apply unbracket_eq_self
  rw [List.head?_append_of_ne_nil _ h.ne_nil]
  exact (IsLiteralV6.withoutScope h).not_mem_head?

private theorem ofText_of_isLiteralV6 {u : List Char} {a : IpAddress} (h : IsLiteralV6 u a) (hstrip : strip u = u) :
    ofText (String.ofList u) = .ok a := by
  rw [ofText_eq_ok_iff_isLiteral, String.toList_ofList, hstrip]
  exact .bare h

/-- The address of a literal that is stripped: its scope has lost the blanks at its end. -/
private theorem ofText_trimmed {s : List Char} {g : Groups} {z : List Char} (h : IsText s g.vals)
    (hz : IsScope (String.ofList z)) (hright : stripRight z ≠ []) :
    ofText (String.ofList (s ++ '%' :: z)) = .ok (.v6 g (some (String.ofList (stripRight z)))) := by
  have hscope : IsScope (String.ofList (stripRight z)) := by
    obtain ⟨b, -, hb⟩ := exists_eq_stripRight_append z
    rw [IsScope, String.toList_ofList] at hz ⊢
    rw [hb] at hz
    simp only [List.mem_append, not_or] at hz
    exact ⟨hright, hz.2.1.1, hz.2.2.1⟩
  rw [ofText_eq_ok_iff_isLiteral, String.toList_ofList, strip_append_scope h]
  have := IsLiteralV6.withScope h hscope
  rw [String.toList_ofList] at this
  exact .bare this

/-- Without its scope, a percent sign is the end of no literal and of no hostname. -/
private theorem not_literal_percent {s : List Char} {g : Groups} (h : IsText s g.vals) :
    readV6? (s ++ ['%']) = none ∧ readV4? (s ++ ['%']) = none ∧ Hostname.isValid (s ++ ['%']) = false := by
  have hpercent : '%' ∈ s ++ ['%'] := by simp
  refine ⟨?_, ?_, ?_⟩
  · have hs := h.not_mem (c := '%') (by decide) (by decide) (by decide) (by decide)
    have hslash := h.not_mem (c := '/') (by decide) (by decide) (by decide) (by decide)
    have hslash' : '/' ∉ s ++ ['%'] := by simp [hslash]
    rw [readV6?, if_neg hslash', cutFirst_append_cons hs]
    simp
  · rw [readV4?, Option.map_eq_none_iff, Option.eq_none_iff_forall_not_mem]
    intro o ho
    exact (DottedQuad.read?_eq_some_iff.1 ho).not_mem (by decide) (by decide) hpercent
  · rw [← Bool.not_eq_true]
    intro hvalid
    exact Hostname.not_mem_of_isValid hvalid (by decide) (by decide) hpercent

/-- A scope that is blank throughout is lost, and the address with it. -/
private theorem ofText_blankScope {s : List Char} {g : Groups} {z : List Char} (h : IsText s g.vals)
    (hz : stripRight z = []) :
    ofText (String.ofList (s ++ '%' :: z)) = .error (.notLiteral (String.ofList (s ++ '%' :: z))) := by
  obtain ⟨h6, h4, -⟩ := not_literal_percent h
  have hstrip := strip_append_scope h z
  rw [hz] at hstrip
  simp only [ofText, String.toList_ofList, hstrip, unbracket_append_scope h, h6, h4, ne_eq, not_true_eq_false, if_false]

private theorem normalHost_blankScope {s : List Char} {g : Groups} {z : List Char} (h : IsText s g.vals)
    (hz : stripRight z = []) :
    normalHost (String.ofList (s ++ '%' :: z)) = .error (.hostname (String.ofList (s ++ '%' :: z))) := by
  obtain ⟨h6, h4, hvalid⟩ := not_literal_percent h
  have hstrip := strip_append_scope h z
  rw [hz] at hstrip
  have hne : s ++ ['%'] ≠ [] := by simp
  simp only [normalHost, String.toList_ofList, hstrip, unbracket_append_scope h, h6, h4, hvalid, hne, ne_eq,
    not_true_eq_false, if_false, Bool.false_eq_true]

end IpAddress

/-! ### Hosts that are taken apart -/

/-- What is left of a host in normal form without its brackets is its own normal form but for them, unless it is an
address with a blank at the end of its scope. -/
private theorem bare_cases {s t : String} (ht : normalHost s = .ok t) :
    (strip (unbracket t.toList) = unbracket t.toList ∧ unbracket (unbracket t.toList) = unbracket t.toList ∧
      normalHost (String.ofList (unbracket t.toList)) = .ok t) ∨
    ∃ g z, IpAddress.mapped? g = none ∧ IsScope z ∧ unbracket t.toList = ColonGroups.write g ++ '%' :: z.toList ∧
      stripRight z.toList ≠ z.toList := by
  -- A host that has no brackets is left as it is.
  have hsame : strip t.toList = t.toList → unbracket t.toList = t.toList →
      strip (unbracket t.toList) = unbracket t.toList ∧ unbracket (unbracket t.toList) = unbracket t.toList ∧
        normalHost (String.ofList (unbracket t.toList)) = .ok t := by
    intro hstrip hbare
    rw [hbare, String.ofList_toList]
    exact ⟨hstrip, hbare, (isNormalHost_of_normalHost ht).normalHost_eq⟩
  rcases normalHost_cases ht with ⟨a, ha, -, rfl⟩ | ⟨hvalid, rfl⟩
  · cases a with
    | v4 o =>
      left
      apply hsame
      · rw [String.toList_ofList]
        exact IpAddress.strip_quad o
      · rw [String.toList_ofList]
        exact IpAddress.unbracket_quad o
    | v6 g z =>
      have hbare : unbracket (String.ofList (IpAddress.url (.v6 g z))).toList = IpAddress.plain (.v6 g z) := by
        rw [String.toList_ofList]
        exact unbracket_bracketed _
      rw [hbare]
      have hliteral := IpAddress.readV6?_eq_some_iff.1 (IpAddress.readV6?_plain g ha)
      by_cases hstrip : strip (IpAddress.plain (.v6 g z)) = IpAddress.plain (.v6 g z)
      · left
        refine ⟨hstrip, unbracket_eq_self hliteral.not_mem_head?, ?_⟩
        rw [normalHost_of_ofText (IpAddress.ofText_of_isLiteralV6 hliteral hstrip), IpAddress.url_shown]
      · right
        cases hz : (IpAddress.shown (.v6 g z)).scope? with
        | none =>
          have hshown : IpAddress.shown (.v6 g z) = .v6 g none := congrArg (IpAddress.v6 g) hz
          rw [hshown] at hliteral
          exact absurd (IpAddress.strip_of_isText hliteral.isText) hstrip
        | some y =>
          obtain ⟨hmapped, rfl⟩ : IpAddress.mapped? g = none ∧ z = some y := by
            simpa [IpAddress.shown, IpAddress.scope?] using hz
          have hplain : IpAddress.plain (.v6 g (some y)) = ColonGroups.write g ++ '%' :: y.toList := by
            simp [IpAddress.plain, IpAddress.compressed, IpAddress.scopeText, hmapped]
          rw [hplain, IpAddress.strip_append_scope (ColonGroups.isText_write g)] at hstrip
          refine ⟨g, y, hmapped, ha y rfl, hplain, ?_⟩
          intro hright
          rw [hright] at hstrip
          exact hstrip rfl
  · left
    have hl : Hostname.isValid (Hostname.lower (strip s.toList)) = true := by rw [Hostname.isValid_lower, hvalid]
    apply hsame
    · rw [String.toList_ofList]
      exact Hostname.strip_eq_self_of_isValid hl
    · rw [String.toList_ofList]
      exact Hostname.unbracket_eq_self_of_isValid hl

private theorem of_parseHostPort {v h : String} {p : Nat} (hv : parseHostPort v = .ok (h, p)) :
    ∃ host port t, cutLast ':' (strip v.toList) = some (host, port) ∧ normalHost (String.ofList host) = .ok t ∧
      h = String.ofList (unbracket t.toList) ∧ p ≤ 65535 := by
  unfold parseHostPort at hv
  split at hv
  · cases hv
  next host port hcut =>
  split at hv
  · cases hv
  split at hv
  · cases hv
  split at hv
  · cases hv
  split at hv
  · cases hv
  next hmax =>
  cases ht : normalHost (String.ofList host) with
  | error e =>
    rw [ht] at hv
    cases hv
  | ok t =>
    rw [ht] at hv
    obtain ⟨rfl, rfl⟩ := Prod.mk.inj (Except.ok.inj hv)
    exact ⟨host, port, t, hcut, ht, rfl, Nat.le_of_not_lt hmax⟩

private theorem isHostValue_natCast {p : Nat} (hp : p ≤ 65535) : Port.isHostValue (.int p) = true := by
  simp [Port.isHostValue, Port.isHostPort, Port.max]
  omega

/-- Whatever is normalized can be put together with a port, and taken apart it is its normal form without brackets. -/
private theorem exists_normalHostPort {h t : String} (ht : normalHost h = .ok t) {p : Nat} (hp : p ≤ 65535) :
    ∃ s, normalHostPort (some h) (.int p) = .ok s ∧ parseHostPort s = .ok (String.ofList (unbracket t.toList), p) := by
  refine ⟨t ++ ":" ++ String.ofList (decimal p), ?_, parseHostPort_of_isNormalHost (isNormalHost_of_normalHost ht) hp⟩
  rw [normalHostPort, if_pos (isHostValue_natCast hp), normalHost?, ht]
  exact withPort_int t (Int.natCast_nonneg p)

/-- An address with a blank scope is refused together with every port. -/
private theorem normalHostPort_blankScope (g : Groups) {z : List Char} (hz : stripRight z = []) {p : Nat}
    (hp : p ≤ 65535) :
    normalHostPort (some (String.ofList (ColonGroups.write g ++ '%' :: z))) (.int p) =
      .error (.hostname (String.ofList (ColonGroups.write g ++ '%' :: z))) := by
  rw [normalHostPort, if_pos (isHostValue_natCast hp), normalHost?,
    IpAddress.normalHost_blankScope (ColonGroups.isText_write g) hz]
  rfl

/-- An address whose scope ends with blanks loses them, as long as something of the scope is left. -/
private theorem exists_normalHostPort_trimmed {g : Groups} {z : String} (hmapped : IpAddress.mapped? g = none)
    (hz : IsScope z)
    (hright : stripRight z.toList ≠ []) {p : Nat} (hp : p ≤ 65535) :
    ∃ s, normalHostPort (some (String.ofList (ColonGroups.write g ++ '%' :: z.toList))) (.int p) = .ok s ∧
      parseHostPort s = .ok (String.ofList (strip (ColonGroups.write g ++ '%' :: z.toList)), p) := by
  have htext := ColonGroups.isText_write g
  have hread := IpAddress.ofText_trimmed htext (by rwa [String.ofList_toList]) hright
  obtain ⟨s, hs, hparse⟩ := exists_normalHostPort (normalHost_of_ofText hread) hp
  refine ⟨s, hs, ?_⟩
  rw [hparse, String.toList_ofList, IpAddress.url, unbracket_bracketed, IpAddress.strip_append_scope htext]
  simp [IpAddress.plain, IpAddress.compressed, IpAddress.scopeText, hmapped]

/-- Putting a host and a port together again that were taken from a text, and taking them apart once more, gives them back
if and only if there is no blank at the end of the host. In this case the host has the normal form of the host in the
text. A host with a blank at its end is an address with such a scope: it is refused if the scope is blank throughout, and
else it loses these blanks. -/
theorem parseHostPort_formats_back_iff (v h : String) (p : Nat) (hv : parseHostPort v = .ok (h, p)) :
    ((∃ s, normalHostPort (some h) (.int p) = .ok s ∧ parseHostPort s = .ok (h, p)) ↔ strip h.toList = h.toList) ∧
    (strip h.toList = h.toList → unbracket h.toList = h.toList ∧ ∃ host port t,
      cutLast ':' (strip v.toList) = some (host, port) ∧ normalHost (String.ofList host) = .ok t ∧ normalHost h = .ok t) ∧
    (strip h.toList ≠ h.toList → ∃ g z, IpAddress.mapped? g = none ∧ IsScope z ∧ h = IpAddress.text (.v6 g (some z)) ∧
      ((∀ c ∈ z.toList, isBlank c = true) → normalHostPort (some h) (.int p) = .error (.hostname h)) ∧
      ((∃ c ∈ z.toList, isBlank c = false) → ∃ s, normalHostPort (some h) (.int p) = .ok s ∧
        parseHostPort s = .ok (stripped h, p))) := by
  obtain ⟨host, port, t, hcut, ht, rfl, hp⟩ := of_parseHostPort hv
  rcases bare_cases ht with ⟨hstrip, hbare, hnormal⟩ | ⟨g, z, hmapped, hz, hu, hright⟩
  · rw [String.toList_ofList]
    exact ⟨iff_of_true (exists_normalHostPort hnormal hp) hstrip, fun _ => ⟨hbare, host, port, t, hcut, ht, hnormal⟩,
      fun hne => absurd hstrip hne⟩
  · have hne : strip (ColonGroups.write g ++ '%' :: z.toList) ≠ ColonGroups.write g ++ '%' :: z.toList := by
      rw [IpAddress.strip_append_scope (ColonGroups.isText_write g)]
      simpa using hright
    rw [hu, String.toList_ofList, stripped, String.toList_ofList]
    refine ⟨iff_of_false ?_ hne, fun h => absurd h hne, fun _ => ⟨g, z, hmapped, hz, rfl, ?_, ?_⟩⟩
    · rintro ⟨s, hs, hparse⟩
      by_cases hnil : stripRight z.toList = []
      · rw [normalHostPort_blankScope g hnil hp] at hs
        cases hs
      · obtain ⟨s', hs', hparse'⟩ := exists_normalHostPort_trimmed hmapped hz hnil hp
        obtain rfl := Except.ok.inj (hs'.symm.trans hs)
        rw [hparse'] at hparse
        have hsame := (Prod.mk.inj (Except.ok.inj hparse)).1
        exact hne (String.ofList_injective hsame)
    · intro hblank
      exact normalHostPort_blankScope g (stripRight_eq_nil_iff.2 hblank) hp
    · rintro ⟨c, hc, hblank⟩
      refine exists_normalHostPort_trimmed hmapped hz (fun hnil => ?_) hp
      rw [stripRight_eq_nil_iff.1 hnil c hc] at hblank
      cases hblank

/-- A scope without a blank at its end survives, whatever colons, blanks and brackets are in it. -/
theorem parseHostPort_formats_back_scoped :
    parseHostPort " [FE80:0::01%[a b]:]:080" = .ok ("fe80::1%[a b]:", 80) ∧
      ∃ s, normalHostPort (some "fe80::1%[a b]:") (.int 80) = .ok s ∧ parseHostPort s = .ok ("fe80::1%[a b]:", 80) := by
  have hparse : parseHostPort " [FE80:0::01%[a b]:]:080" = .ok ("fe80::1%[a b]:", 80) := rfl
  exact ⟨hparse, (parseHostPort_formats_back_iff _ _ _ hparse).1.2 rfl⟩

/-- A host that is taken from a text is refused if its scope is blank, and it loses the blank at the end of its scope. -/
theorem parseHostPort_loses_blank :
    parseHostPort "[fe80::1% ]:80" = .ok ("fe80::1% ", 80) ∧
      normalHostPort (some "fe80::1% ") (.int 80) = .error (.hostname "fe80::1% ") ∧
      parseHostPort "[fe80::1%eth0 ]:80" = .ok ("fe80::1%eth0 ", 80) ∧
      normalHostPort (some "fe80::1%eth0 ") (.int 80) = .ok "[fe80::1%eth0]:80" ∧
      parseHostPort "[fe80::1%eth0]:80" = .ok ("fe80::1%eth0", 80) :=
  ⟨rfl, rfl, rfl, rfl, rfl⟩

/-! ### Hosts that are bound -/

namespace IpAddress

private theorem ofText_eq_v6_iff {s : String} {g : Groups} {z : Option String} :
    ofText s = .ok (.v6 g z) ↔ IsLiteralV6 (unbracket (strip s.toList)) (.v6 g z) := by
  rw [ofText_eq_ok_iff, readV6?_eq_some_iff]
  constructor
  · rintro (h6 | ⟨-, -, h4⟩)
    · exact h6
    · obtain ⟨o, -, ho⟩ := Option.map_eq_some_iff.1 h4
      cases ho
  · exact Or.inl

/-- A literal without its brackets is still one unless its scope is blank throughout. -/
private theorem exists_ofText_bare_iff {u : List Char} {g : Groups} {z : Option String} (h : IsLiteralV6 u (.v6 g z)) :
    (∃ g' z', ofText (String.ofList u) = .ok (.v6 g' z')) ↔ ∀ y ∈ z, ∃ c ∈ y.toList, isBlank c = false := by
  cases h with
  | withoutScope h =>
    have hread := ofText_of_isLiteralV6 (.withoutScope h) (strip_of_isText h)
    simp [hread]
  | @withScope s _ y h hy =>
    have hblank : stripRight y.toList = [] ↔ ¬∃ c ∈ y.toList, isBlank c = false := by
      rw [stripRight_eq_nil_iff]
      simp
    by_cases hnil : stripRight y.toList = []
    · rw [ofText_blankScope h hnil]
      simpa using stripRight_eq_nil_iff.1 hnil
    · rw [ofText_trimmed h (by rwa [String.ofList_toList]) hnil]
      rw [hblank, not_not] at hnil
      simpa using hnil

private theorem IsLiteralV6.bracket_mem_getLast?_iff {u : List Char} {g : Groups} {z : Option String}
    (h : IsLiteralV6 u (.v6 g z)) : ']' ∈ u.getLast? ↔ ∃ y ∈ z, ']' ∈ y.toList.getLast? := by
  cases h with
  | withoutScope h =>
    have hs := h.not_mem (c := ']') (by decide) (by decide) (by decide) (by decide)
    refine iff_of_false (fun hc => hs (List.mem_of_mem_getLast? hc)) (by simp)
  | @withScope s _ y h hy =>
    rw [List.getLast?_append_of_ne_nil _ (by simp), List.getLast?_cons_of_ne_nil hy.1]
    simp

end IpAddress

namespace Network

variable {host : String}

/-- A host in brackets that is taken for another one when its socket is opened: its scope is blank throughout, or it is no
address, and it becomes one when blanks and brackets are taken away for the second time. -/
inductive Misread (host : String) : Prop
  | blankScope (g : Groups) (z : String) (h : IpAddress.ofText host = .ok (.v6 g (some z)))
    (hz : ∀ c ∈ z.toList, isBlank c = true)
  | cleanedTwice (g : Groups) (z : Option String) (h : ∀ a, IpAddress.ofText host ≠ .ok a)
    (hbare : IpAddress.ofText (bareHost host) = .ok (.v6 g z))

private theorem socketFamily_eq_inet6_iff :
    socketFamily host = .inet6 ↔ ∃ g z, IpAddress.ofText (bareHost host) = .ok (.v6 g z) := by
  rw [socketFamily, familyOf]
  split
  · next g z h => simp [h]
  · next h => simpa using h

/-- A host that needs no second cleaning is the same address of version 6 with and without its brackets. -/
private theorem ofText_bareHost_iff (hstrip : strip (unbracket (strip host.toList)) = unbracket (strip host.toList))
    (hbare : unbracket (unbracket (strip host.toList)) = unbracket (strip host.toList)) {g : Groups}
    {z : Option String} : IpAddress.ofText (bareHost host) = .ok (.v6 g z) ↔ IpAddress.ofText host = .ok (.v6 g z) := by
  rw [IpAddress.ofText_eq_v6_iff, IpAddress.ofText_eq_v6_iff, bareHost, String.toList_ofList, hstrip, hbare]

theorem Misread.bracketed (h : Misread host) :
    strip host.toList = '[' :: unbracket (strip host.toList) ++ [']'] ∧
      (strip (unbracket (strip host.toList)) ≠ unbracket (strip host.toList) ∨
        unbracket (unbracket (strip host.toList)) ≠ unbracket (strip host.toList)) := by
  have hunclean : strip (unbracket (strip host.toList)) ≠ unbracket (strip host.toList) ∨
      unbracket (unbracket (strip host.toList)) ≠ unbracket (strip host.toList) := by
    by_contra hclean
    rw [not_or, not_not, not_not] at hclean
    cases h with
    | blankScope g z h hz =>
      obtain ⟨c, hc, hblank⟩ := (IpAddress.exists_ofText_bare_iff (IpAddress.ofText_eq_v6_iff.1 h)).1
        ⟨g, some z, (ofText_bareHost_iff hclean.1 hclean.2).2 h⟩ z rfl
      rw [hz c hc] at hblank
      cases hblank
    | cleanedTwice g z h hbare => exact h _ ((ofText_bareHost_iff hclean.1 hclean.2).1 hbare)
  refine ⟨?_, hunclean⟩
  rcases IpAddress.unbracket_cases (strip host.toList) with hsame | hbracketed
  · rw [hsame, strip_strip, hsame] at hunclean
    simp at hunclean
  · exact hbracketed

/-- The family of the socket is that of the address that the host denotes, unless the host is misread. -/
private theorem socketFamily_agrees_iff :
    (socketFamily host = .inet6 ↔ ∃ g z, IpAddress.ofText host = .ok (.v6 g z)) ↔ ¬Misread host := by
  rw [socketFamily_eq_inet6_iff]
  cases hread : IpAddress.ofText host with
  | ok a =>
    cases a with
    | v6 g z =>
      rw [bareHost, IpAddress.exists_ofText_bare_iff (IpAddress.ofText_eq_v6_iff.1 hread)]
      have hmisread : Misread host ↔ ∃ y ∈ z, ∀ c ∈ y.toList, isBlank c = true := by
        constructor
        · intro h
          cases h with
          | blankScope g' y h hy =>
            rw [hread] at h
            obtain ⟨-, rfl⟩ := IpAddress.v6.inj (Except.ok.inj h)
            exact ⟨y, rfl, hy⟩
          | cleanedTwice _ _ h => exact absurd hread (h _)
        · rintro ⟨y, rfl, hy⟩
          exact .blankScope g y hread hy
      rw [hmisread]
      simp
    | v4 o =>
      -- A dotted quad is in no brackets, so nothing is left to be cleaned.
      have hsame : unbracket (strip host.toList) = strip host.toList := by
        rcases IpAddress.ofText_eq_ok_iff.1 hread with h6 | ⟨-, hu, -⟩
        · cases (IpAddress.readV6?_eq_some_iff.1 h6).version_eq
        · exact hu
      have hclean : ∀ g z, IpAddress.ofText (bareHost host) ≠ .ok (.v6 g z) := by
        intro g z h
        rw [ofText_bareHost_iff (by rw [hsame, strip_strip]) (by rw [hsame, hsame]), hread] at h
        cases h
      have hread' : ¬Misread host := by
        intro h
        cases h with
        | blankScope _ _ h =>
          rw [hread] at h
          cases h
        | cleanedTwice _ _ h => exact h _ hread
      simp [hclean, hread']
  | error e =>
    have hmisread : Misread host ↔ ∃ g z, IpAddress.ofText (bareHost host) = .ok (.v6 g z) := by
      constructor
      · intro h
        cases h with
        | blankScope _ _ h =>
          rw [hread] at h
          cases h
        | cleanedTwice g z _ hbare => exact ⟨g, z, hbare⟩
      · rintro ⟨g, z, hbare⟩
        exact .cleanedTwice g z (by simp [hread]) hbare
    rw [hmisread]
    simp

private theorem events_bindPort (n : Network) (host : String) (port : Int) (backlog : Value) :
    (n.bindPort host port backlog).events.head? = some (.construct (socketFamily host)) ∧
      ∀ f h p, .bind f h p ∈ (n.bindPort host port backlog).events →
        f = socketFamily host ∧ h = bareHost host ∧ p = port := by
  have hending := bindPort_ending n host port backlog
  generalize n.bindPort host port backlog = o at hending
  cases hending <;> simp [begun]

/-- The first call is for a socket, and its family is that of the address that the host denotes if and only if the host is
not misread. Only a host in brackets with blanks or brackets at the ends of what they enclose is misread. A host of version
6 is bound by its literal without blanks and brackets around it, where a bracket at the end belongs to the scope. -/
theorem bindPort_family_agrees_iff (n : Network) (host : String) (port : Int) (backlog : Value) :
    let o := n.bindPort host port backlog
    let bare := unbracket (strip host.toList)
    ∃ f, o.events.head? = some (.construct f) ∧
      (∀ f' h p, .bind f' h p ∈ o.events → f' = f ∧ h.toList = bare ∧ p = port) ∧
      ((f = .inet6 ↔ ∃ g z, IpAddress.ofText host = .ok (.v6 g z)) ↔ ¬Misread host) ∧
      (Misread host → strip host.toList = '[' :: bare ++ [']'] ∧ (strip bare ≠ bare ∨ unbracket bare ≠ bare)) ∧
      ∀ g z, IpAddress.ofText host = .ok (.v6 g z) → IpAddress.IsLiteralV6 bare (.v6 g z) ∧ '[' ∉ bare.head? ∧
        (']' ∈ bare.getLast? ↔ ∃ y ∈ z, ']' ∈ y.toList.getLast?) := by
  intro o bare
  obtain ⟨hfirst, hbind⟩ := events_bindPort n host port backlog
  refine ⟨socketFamily host, hfirst, ?_, socketFamily_agrees_iff, Misread.bracketed, ?_⟩
  · intro f' h p hmem
    obtain ⟨hf, rfl, hp⟩ := hbind f' h p hmem
    exact ⟨hf, String.toList_ofList, hp⟩
  · intro g z hread
    have hliteral := IpAddress.ofText_eq_v6_iff.1 hread
    exact ⟨hliteral, hliteral.not_mem_head?, hliteral.bracket_mem_getLast?_iff⟩

/-- A literal in brackets is bound without them, also where its scope ends with a bracket of its own. -/
theorem bindPort_family_agrees_scoped :
    let o := idle.bindPort " [fe80::1%a]] " 8080 (.int 5)
    IpAddress.ofText " [fe80::1%a]] " = .ok (.v6 linkLocal (some "a]")) ∧ ¬Misread " [fe80::1%a]] " ∧
      o.events.head? = some (.construct .inet6) ∧
      IpAddress.IsLiteralV6 "fe80::1%a]".toList (.v6 linkLocal (some "a]")) := by
  intro o
  have hread : IpAddress.ofText " [fe80::1%a]] " = .ok (.v6 linkLocal (some "a]")) := rfl
  obtain ⟨f, hfirst, -, hagrees, hmisread, hliteral⟩ := bindPort_family_agrees_iff idle " [fe80::1%a]] " 8080 (.int 5)
  have hclean : ¬Misread " [fe80::1%a]] " := by
    intro h
    obtain ⟨-, hstrip | hbare⟩ := hmisread h
    · exact hstrip rfl
    · exact hbare rfl
  have hf : f = .inet6 := (hagrees.2 hclean).2 ⟨_, _, hread⟩
  exact ⟨hread, hclean, hf ▸ hfirst, (hliteral _ _ hread).1⟩

/-- Nested brackets are no address, and yet a socket of version 6 is bound, to a host in brackets. An address with a blank
scope in brackets gets a socket of version 4. -/
theorem bindPort_misreads_brackets :
    (∀ a, IpAddress.ofText "[[::1]]" ≠ .ok a) ∧
      (idle.bindPort "[[::1]]" 8080 (.int 64)).events =
        [.construct .inet6, .reuseAddress 1, .setBlocking false, .bind .inet6 "[::1]" 8080, .listen (.int 64)] ∧
      IpAddress.ofText "[fe80::1% ]" = .ok (.v6 linkLocal (some " ")) ∧
      (idle.bindPort "[fe80::1% ]" 8080 (.int 64)).events.head? = some (.construct .inet) := by
  have herror : IpAddress.ofText "[[::1]]" = .error (.brackets "[[::1]]") := rfl
  refine ⟨?_, rfl, rfl, rfl⟩
  intro a ha
  rw [herror] at ha
  cases ha

end Network

end Endpoint
