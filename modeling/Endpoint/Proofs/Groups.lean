import Endpoint.Address.ColonGroups
import Endpoint.Proofs.Numeral

/-!
# The texts of octets and groups

A dotted quad reads back as its octets (`DottedQuad.read?_write`), and the shortest text of eight groups as the groups
(`ColonGroups.read?_write`). For the latter, the text is the groups before a run of zeros, a double colon and the groups
after it: a double colon is found only there, since the pieces around it are not empty (`cutGap_writeAll`), and it is
filled with as many zeros as were left out (`longestRun_spec`). A mapped address may also be written with a dotted quad
in the place of its last two groups (`ColonGroups.read?_mapped`).
-/

namespace Endpoint

open Text

/-- Reading the texts of some values gives the values. -/
private theorem mapM_map_of_inverse {α β : Type} {f : β → Option α} {g : α → β} {l : List α}
    (h : ∀ x ∈ l, f (g x) = some x) : (l.map g).mapM f = some l := by
  induction l with
  | nil => rfl
  | cons x l ih =>
    have hl := ih fun y hy => h y (List.mem_cons_of_mem x hy)
    simp [-List.mapM_map, List.mapM_cons, h x, hl]

/-- Each of some texts that are read together can be read. -/
theorem isSome_of_mapM {α β : Type} {f : β → Option α} {l : List β} {r : List α} (h : l.mapM f = some r) {x : β}
    (hx : x ∈ l) : (f x).isSome := by
  induction l generalizing r with
  | nil => simp at hx
  | cons y l ih =>
    rw [List.mapM_cons] at h
    obtain ⟨a, ha, h⟩ := Option.bind_eq_some_iff.1 h
    obtain ⟨r', hr, -⟩ := Option.bind_eq_some_iff.1 h
    rcases List.mem_cons.1 hx with rfl | hx
    · rw [ha]
      rfl
    · exact ih hr hx

/-! ### Dotted quads -/

namespace DottedQuad

private theorem field?_decimal {n : Nat} (h : n < 256) : field? (decimal n) = some n := by
  have hlen : (decimal n).length ≤ 3 := (Nat.length_toDigits_le_iff (by omega) (by omega)).2 (by omega)
  have hzero : (decimal n).head? = some '0' → (decimal n).length = 1 := by
    intro h0
    rw [decimal_eq_zero_of_head? h0]
    rfl
  have hvalue : decimalValue (decimal n) ≤ 255 := by rw [decimalValue_decimal]; omega
  rw [field?, if_pos ⟨isDecimal_decimal n, hlen, hzero, hvalue⟩, decimalValue_decimal]

theorem read?_write (o : Octets) : read? (write o) = some o := by
  have hne : o.vals.map decimal ≠ [] := by
    intro h
    have hlen := o.length_eq
    rw [List.map_eq_nil_iff.1 h] at hlen
    simp at hlen
  have hsep : ∀ p ∈ o.vals.map decimal, '.' ∉ p := by
    intro p hp
    obtain ⟨n, -, rfl⟩ := List.mem_map.1 hp
    exact not_mem_decimal (by decide) n
  rw [read?, write, splitOn_joinWith hne hsep, mapM_map_of_inverse fun n hn => field?_decimal (o.lt_bound n hn)]
  exact Words.ofList?_vals o

theorem exists_vals_eq (o : Octets) : ∃ a b c d, o.vals = [a, b, c, d] := by
  obtain ⟨l, hlen, -⟩ := o
  match l, hlen with
  | [a, b, c, d], _ => exact ⟨a, b, c, d, rfl⟩

theorem dot_mem_write (o : Octets) : '.' ∈ write o := by
  obtain ⟨a, b, c, d, h⟩ := exists_vals_eq o
  simp [write, h, joinWith]

/-- A dotted quad holds digits and dots only. -/
theorem eq_or_isDigit_of_mem_write {o : Octets} {c : Char} (h : c ∈ write o) : c = '.' ∨ c.isDigit := by
  rcases mem_joinWith h with h | ⟨p, hp, hc⟩
  · exact Or.inl h
  · obtain ⟨n, -, rfl⟩ := List.mem_map.1 hp
    exact Or.inr (isDigit_of_mem_decimal hc)

end DottedQuad

namespace ColonGroups

/-! ### Groups in a row -/

private theorem group?_hex {g : Nat} (h : g < 65536) : group? (hex g) = some g := by
  simp [group?, hexValue?_hex, h]

private theorem groups?_map_hex {gs : List Nat} (h : ∀ g ∈ gs, g < 65536) : groups? (gs.map hex) = some gs := by
  induction gs with
  | nil => rfl
  | cons g gs ih =>
    have hg := group?_hex (h g (by simp))
    cases gs with
    | nil =>
      have hdot : '.' ∉ hex g := not_mem_hex (by decide) g
      simp [groups?, hdot, hg]
    | cons g' gs =>
      have hgs := ih fun x hx => h x (List.mem_cons_of_mem g hx)
      simp only [List.map_cons] at hgs ⊢
      simp [groups?, hg, hgs]

/-- The pieces of groups in a row are neither empty nor hold a colon. -/
private theorem pieces_hex (gs : List Nat) : ∀ p ∈ gs.map hex, p ≠ [] ∧ ':' ∉ p := by
  intro p hp
  obtain ⟨g, -, rfl⟩ := List.mem_map.1 hp
  exact ⟨hex_ne_nil g, not_mem_hex (by decide) g⟩

private theorem splitOn_writeAll {gs : List Nat} (hne : gs ≠ []) : splitOn ':' (writeAll gs) = gs.map hex :=
  splitOn_joinWith (by simpa using hne) fun p hp => (pieces_hex gs p hp).2

private theorem writeAll_eq_nil_iff {gs : List Nat} : writeAll gs = [] ↔ gs = [] := by
  constructor
  · intro h
    cases gs with
    | nil => rfl
    | cons g gs =>
      have hs := splitOn_writeAll (List.cons_ne_nil g gs)
      rw [h] at hs
      exact absurd (List.cons.inj hs).1.symm (hex_ne_nil g)
  · rintro rfl
    rfl

private theorem before?_writeAll {gs : List Nat} (h : ∀ g ∈ gs, g < 65536) : before? (writeAll gs) = some gs := by
  unfold before?
  split
  · next hnil => rw [writeAll_eq_nil_iff.1 hnil]
  · next hne =>
    rw [splitOn_writeAll (fun hnil => hne (writeAll_eq_nil_iff.2 hnil))]
    exact mapM_map_of_inverse fun g hg => group?_hex (h g hg)

private theorem after?_writeAll {gs : List Nat} (h : ∀ g ∈ gs, g < 65536) : after? (writeAll gs) = some gs := by
  unfold after?
  split
  · next hnil => rw [writeAll_eq_nil_iff.1 hnil]
  · next hne =>
    rw [splitOn_writeAll (fun hnil => hne (writeAll_eq_nil_iff.2 hnil))]
    exact groups?_map_hex h

/-! ### The double colon -/

private theorem cutGap_cons_of_ne {c : Char} (h : c ≠ ':') (s : List Char) :
    cutGap (c :: s) = (cutGap s).map fun p => (c :: p.1, p.2) := by
  rw [cutGap]
  intro r hc
  exact absurd hc h

private theorem cutGap_colon_cons {c : Char} (h : c ≠ ':') (s : List Char) :
    cutGap (':' :: c :: s) = (cutGap (c :: s)).map fun p => (':' :: p.1, p.2) := by
  rw [cutGap]
  intro r _ hc
  exact absurd (List.cons.inj hc).1 h

private theorem cutGap_append {p : List Char} (h : ':' ∉ p) (t : List Char) :
    cutGap (p ++ t) = (cutGap t).map fun q => (p ++ q.1, q.2) := by
  induction p with
  | nil => simp
  | cons c p ih =>
    simp only [List.mem_cons, not_or] at h
    rw [List.cons_append, cutGap_cons_of_ne (Ne.symm h.1), ih h.2, Option.map_map]
    rfl

/-- There is no double colon inside pieces that are not empty, nor where they end. -/
theorem cutGap_joinWith_append {ps : List (List Char)} (h : ∀ p ∈ ps, p ≠ [] ∧ ':' ∉ p) (t : List Char) :
    cutGap (joinWith ':' ps ++ t) = (cutGap t).map fun q => (joinWith ':' ps ++ q.1, q.2) := by
  induction ps with
  | nil => simp [joinWith]
  | cons p ps ih =>
    have hp := h p (by simp)
    have hps := ih fun q hq => h q (List.mem_cons_of_mem p hq)
    cases ps with
    | nil => exact cutGap_append hp.2 t
    | cons q ps =>
      -- After the colon comes a piece, so the colon is a single one.
      obtain ⟨c, r, hc, hr⟩ : ∃ c r, c ≠ ':' ∧ joinWith ':' (q :: ps) = c :: r := by
        have hq := h q (by simp)
        cases q with
        | nil => exact absurd rfl hq.1
        | cons c q =>
          have hc : c ≠ ':' := fun hc => hq.2 (by simp [hc])
          cases ps with
          | nil => exact ⟨c, q, hc, rfl⟩
          | cons q' ps => exact ⟨c, _, hc, rfl⟩
      rw [joinWith, List.append_assoc, cutGap_append hp.2, List.cons_append]
      rw [hr] at hps ⊢
      rw [List.cons_append, cutGap_colon_cons hc, ← List.cons_append, hps, Option.map_map, Option.map_map]
      congr 1
      funext x
      simp

private theorem cutGap_writeAll (gs : List Nat) : cutGap (writeAll gs) = none := by
  have := cutGap_joinWith_append (pieces_hex gs) []
  simpa [writeAll, cutGap] using this

private theorem cutGap_writeAll_append (gs : List Nat) (r : List Char) :
    cutGap (writeAll gs ++ [':', ':'] ++ r) = some (writeAll gs, r) := by
  rw [List.append_assoc, writeAll, cutGap_joinWith_append (pieces_hex gs)]
  simp [cutGap]

/-! ### The longest run of zeros -/

theorem zeroRun_spec (gs : List Nat) : gs = List.replicate (zeroRun gs) 0 ++ gs.drop (zeroRun gs) := by
  induction gs with
  | nil => rfl
  | cons g gs ih =>
    cases g with
    | zero =>
      rw [zeroRun, List.replicate_succ, List.cons_append, List.drop_succ_cons, ← ih]
    | succ g => rfl

/-- The run lies where it is said to begin and holds zeros only. -/
private theorem longestRun_spec (gs : List Nat) :
    gs = gs.take (longestRun gs).1 ++ List.replicate (longestRun gs).2 0 ++
      gs.drop ((longestRun gs).1 + (longestRun gs).2) := by
  induction gs with
  | nil => rfl
  | cons g gs ih =>
    simp only [longestRun]
    split
    · simpa using zeroRun_spec (g :: gs)
    · rw [List.take_succ_cons, List.cons_append, List.cons_append, Nat.add_right_comm, List.drop_succ_cons, ← ih]

/-! ### Whole texts -/

theorem read?_of_cutGap {s before after : List Char} {left right : List Nat} (hcut : cutGap s = some (before, after))
    (hl : before? before = some left) (hr : after? after = some right) (hlen : left.length + right.length ≤ 7) :
    read? s = Words.ofList? 8 65536 (left ++ List.replicate (8 - (left.length + right.length)) 0 ++ right) := by
  simp only [read?, hcut, hl, hr, fill?, hlen, if_true, Option.bind_some]

theorem read?_of_cutGap_eq_none {s : List Char} {gs : List Nat} (hcut : cutGap s = none)
    (h : groups? (splitOn ':' s) = some gs) : read? s = Words.ofList? 8 65536 gs := by
  simp only [read?, hcut, h, Option.bind_some]

/-- Groups in a row hold digits and colons only. -/
private theorem eq_or_isSome_of_mem_writeAll {gs : List Nat} {c : Char} (h : c ∈ writeAll gs) :
    c = ':' ∨ (hexDigit? c).isSome := by
  rcases mem_joinWith h with h | ⟨p, hp, hc⟩
  · exact Or.inl h
  · obtain ⟨g, -, rfl⟩ := List.mem_map.1 hp
    exact Or.inr (isSome_hexDigit?_of_mem_hex hc)

/-- The shortest text of eight groups holds digits and colons only. -/
theorem eq_or_isSome_of_mem_write {g : Groups} {c : Char} (h : c ∈ write g) : c = ':' ∨ (hexDigit? c).isSome := by
  simp only [write] at h
  split at h
  · simp only [List.mem_append, List.mem_cons, List.not_mem_nil, or_false, or_self] at h
    rcases h with (h | h) | h
    · exact eq_or_isSome_of_mem_writeAll h
    · exact Or.inl h
    · exact eq_or_isSome_of_mem_writeAll h
  · exact eq_or_isSome_of_mem_writeAll h

/-- The shortest text of eight groups denotes them. -/
theorem read?_write (g : Groups) : read? (write g) = some g := by
  have hlt := g.lt_bound
  have hlen := g.length_eq
  by_cases hrun : 2 ≤ (longestRun g.vals).2
  · simp only [write, if_pos hrun]
    have hspec := longestRun_spec g.vals
    generalize (longestRun g.vals).1 = i at *
    generalize (longestRun g.vals).2 = n at *
    have hsum := congrArg List.length hspec
    rw [hlen, List.length_append, List.length_append, List.length_replicate] at hsum
    rw [read?_of_cutGap (cutGap_writeAll_append _ _) (before?_writeAll fun x hx => hlt x (List.mem_of_mem_take hx))
      (after?_writeAll fun x hx => hlt x (List.mem_of_mem_drop hx)) (by omega)]
    -- As many zeros are missing as the run is long.
    rw [show 8 - ((g.vals.take i).length + (g.vals.drop (i + n)).length) = n by omega, ← hspec]
    exact Words.ofList?_vals g
  · simp only [write, if_neg hrun]
    have hne : g.vals ≠ [] := by
      intro h
      rw [h] at hlen
      simp at hlen
    rw [read?_of_cutGap_eq_none (cutGap_writeAll g.vals) (by rw [splitOn_writeAll hne, groups?_map_hex hlt])]
    exact Words.ofList?_vals g

private theorem length_tailGroups (o : Octets) : (tailGroups o).length = 2 := by
  obtain ⟨a, b, c, d, h⟩ := DottedQuad.exists_vals_eq o
  simp [tailGroups, h, groupsOfOctets]

/-- A text without a colon does not denote eight groups: it is one group, or the two of a dotted quad. -/
theorem read?_eq_none_of_not_mem {s : List Char} (h : ':' ∉ s) : read? s = none := by
  have hcut : cutGap s = none := by simpa [cutGap] using cutGap_append h []
  simp only [read?, hcut, splitOn_of_not_mem h, groups?]
  split
  · cases hq : DottedQuad.read? s with
    | none => rfl
    | some o => exact Words.ofList?_eq_none (by rw [length_tailGroups]; decide)
  · cases hg : group? s with
    | none => rfl
    | some g => exact Words.ofList?_eq_none (by simp)

/-- The groups of a mapped address end in the two that stand for its octets. -/
private theorem vals_of_mapped? {g : Groups} {o : Octets} (h : IpAddress.mapped? g = some o) :
    g.vals = [0, 0, 0, 0, 0, 0xFFFF] ++ tailGroups o := by
  unfold IpAddress.mapped? at h
  split at h
  · next a b hvals =>
    rw [hvals, tailGroups, Words.vals_of_ofList? h, groupsOfOctets_octetsOfGroups]
    rfl
  · cases h

/-- A mapped address may end in a dotted quad. -/
theorem read?_mapped {g : Groups} {o : Octets} (h : IpAddress.mapped? g = some o) :
    read? ("::ffff:".toList ++ DottedQuad.write o) = some g := by
  have hcolon : ':' ∉ DottedQuad.write o := by
    intro hc
    rcases DottedQuad.eq_or_isDigit_of_mem_write hc with hc | hc
    · exact absurd hc (by decide)
    · exact absurd hc (by decide)
  have hsplit : splitOn ':' ("ffff:".toList ++ DottedQuad.write o) = ["ffff".toList, DottedQuad.write o] := by
    have := splitOn_append_cons (show ':' ∉ "ffff".toList by decide) (DottedQuad.write o)
    rwa [splitOn_of_not_mem hcolon] at this
  have hcut : cutGap ("::ffff:".toList ++ DottedQuad.write o) = some ([], "ffff:".toList ++ DottedQuad.write o) := rfl
  have hafter : after? ("ffff:".toList ++ DottedQuad.write o) = some (0xFFFF :: tailGroups o) := by
    rw [after?, if_neg (by simp), hsplit, groups?, groups?, if_pos (DottedQuad.dot_mem_write o), DottedQuad.read?_write]
    rfl
  have hlen : (0xFFFF :: tailGroups o).length = 3 := by rw [List.length_cons, length_tailGroups]
  have hvals : [] ++ List.replicate (8 - (([] : List Nat).length + (0xFFFF :: tailGroups o).length)) 0 ++
      0xFFFF :: tailGroups o = g.vals := by
    rw [hlen, vals_of_mapped? h]
    rfl
  rw [read?_of_cutGap hcut rfl hafter (by rw [hlen]; decide), hvals]
  exact Words.ofList?_vals g

end ColonGroups

end Endpoint
