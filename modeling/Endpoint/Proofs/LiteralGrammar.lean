import Mathlib.Data.List.Forall2
import Mathlib.Data.Nat.Digits.Defs
import Endpoint.Proofs.Literals

/-!
# The grammar of literals

What the literals of addresses are, told without reading them from left to right.

* (version 4) Four fields between dots: `DottedQuad.IsQuad`.
* (version 6) Eight groups between colons. A double colon may stand for one or more zero groups, and a dotted quad for the
  last two groups: `ColonGroups.IsText`. A scope may follow, and brackets may stand around the whole.

Reading accepts exactly these, level by level: `DottedQuad.read?_eq_some_iff`, `ColonGroups.read?_eq_some_iff`,
`IpAddress.readV6?_eq_some_iff` and `IpAddress.ofText_eq_ok_iff_isLiteral`. The double colon is found where the grammar
has it since the groups before it are not empty, so the first double colon of the text is the only one.
-/

namespace Endpoint

open Text

private theorem mapM_eq_some_iff {α β : Type} {f : β → Option α} {l : List β} {r : List α} :
    l.mapM f = some r ↔ List.Forall₂ (fun x y => f x = some y) l r := by
  induction l generalizing r with
  | nil => simp [eq_comm]
  | cons x l ih =>
    simp only [List.mapM_cons, List.forall₂_cons_left_iff, ← ih]
    cases hx : f x with
    | none => simp
    | some a =>
      cases hl : l.mapM f with
      | none => simp
      | some as => simp [eq_comm]

private theorem exists_of_forall₂ {α β : Type} {R : α → β → Prop} {l : List α} {r : List β} (h : List.Forall₂ R l r)
    {x : α}
    (hx : x ∈ l) : ∃ y, R x y := by
  induction h with
  | nil => cases hx
  | cons hxy _ ih =>
    rcases List.mem_cons.1 hx with rfl | hx
    · exact ⟨_, hxy⟩
    · exact ih hx

theorem Words.ofList?_eq_some_iff {count bound : Nat} {l : List Nat} {w : Words count bound} :
    ofList? count bound l = some w ↔ w.vals = l := by
  constructor
  · exact vals_of_ofList?
  · rintro rfl
    exact ofList?_vals w

/-! ### Numbers -/

namespace Text

/-- Whether a text is a hexadecimal numeral of a number: its digits, of which there is at least one. -/
def IsHex (p : List Char) (n : Nat) : Prop :=
  p ≠ [] ∧ ∃ ds, List.Forall₂ (fun c d => hexDigit? c = some d) p ds ∧ n = Nat.ofDigits 16 ds.reverse

/-- A digit and the number so far make the number so far for the digits that follow. -/
theorem ofDigits_reverse_append_cons (b acc d : Nat) (ds : List Nat) :
    Nat.ofDigits b (ds.reverse ++ [b * acc + d]) = Nat.ofDigits b ((d :: ds).reverse ++ [acc]) := by
  simp only [List.reverse_cons, List.append_assoc, List.cons_append, List.nil_append, Nat.ofDigits_append,
    Nat.ofDigits_cons, Nat.ofDigits_nil]
  rw [Nat.add_comm (b * acc)]
  rfl

private theorem hexFrom_eq_some_iff {acc n : Nat} {p : List Char} :
    hexFrom acc p = some n ↔ ∃ ds, List.Forall₂ (fun c d => hexDigit? c = some d) p ds ∧
      n = Nat.ofDigits 16 (ds.reverse ++ [acc]) := by
  induction p generalizing acc with
  | nil => simp [hexFrom, eq_comm]
  | cons c p ih =>
    simp only [hexFrom, Option.bind_eq_some_iff, ih, List.forall₂_cons_left_iff]
    constructor
    · rintro ⟨d, hd, ds, hds, rfl⟩
      exact ⟨d :: ds, ⟨d, ds, hd, hds, rfl⟩, ofDigits_reverse_append_cons 16 acc d ds⟩
    · rintro ⟨_, ⟨d, ds, hd, hds, rfl⟩, rfl⟩
      exact ⟨d, hd, ds, hds, (ofDigits_reverse_append_cons 16 acc d ds).symm⟩

private theorem hexValue?_eq_some_iff {p : List Char} {n : Nat} : hexValue? p = some n ↔ IsHex p n := by
  have hzero : ∀ ds : List Nat, Nat.ofDigits 16 (ds.reverse ++ [0]) = Nat.ofDigits 16 ds.reverse :=
    fun ds => Nat.ofDigits_append_zero ds.reverse
  cases p with
  | nil => simp [hexValue?, IsHex]
  | cons c p =>
    rw [hexValue?, hexFrom_eq_some_iff, IsHex]
    · simp only [hzero, ne_eq, reduceCtorEq, not_false_eq_true, true_and]
    · simp

private theorem IsHex.isSome_of_mem {p : List Char} {n : Nat} (h : IsHex p n) {c : Char} (hc : c ∈ p) :
    (hexDigit? c).isSome := by
  have hvalue := hexValue?_eq_some_iff.2 h
  cases p with
  | nil => cases hc
  | cons a p =>
    rw [hexValue?] at hvalue
    · exact isSome_hexDigit?_of_hexFrom hvalue hc
    · simp

end Text

/-! ### Dotted quads -/

namespace DottedQuad

/-- Whether a text is a field of a dotted quad with a number: one to three decimal digits, at most 255, and without a
leading zero unless zero is all of it. -/
def IsField (p : List Char) (n : Nat) : Prop :=
  1 ≤ p.length ∧ p.length ≤ 3 ∧ (∀ c ∈ p, c.isDigit = true) ∧ (p.head? = some '0' → p = ['0']) ∧
    n = decimalValue p ∧ n ≤ 255

/-- Whether a text is the dotted quad of some octets: a field for each, with dots between them. -/
def IsQuad (t : List Char) (o : Octets) : Prop :=
  ∃ ps, t = joinWith '.' ps ∧ List.Forall₂ IsField ps o.vals

private theorem field?_eq_some_iff {p : List Char} {n : Nat} : field? p = some n ↔ IsField p n := by
  have hdecimal : isDecimal p = true ↔ 1 ≤ p.length ∧ ∀ c ∈ p, c.isDigit = true := by
    simp only [isDecimal, Bool.and_eq_true, Bool.not_eq_true', List.isEmpty_eq_false_iff, List.all_eq_true,
      ← List.length_pos_iff, Nat.succ_le_iff]
  have hzero : (p.head? = some '0' → p.length = 1) ↔ (p.head? = some '0' → p = ['0']) := by
    rcases p with _ | ⟨c, _ | ⟨d, p⟩⟩
    · simp
    · simp
    · simp
  rw [field?, Option.ite_none_right_eq_some, hdecimal, hzero, Option.some.injEq, IsField]
  constructor
  · rintro ⟨⟨⟨hpos, hdigits⟩, hlen, hlead, hmax⟩, rfl⟩
    exact ⟨hpos, hlen, hdigits, hlead, rfl, hmax⟩
  · rintro ⟨hpos, hlen, hdigits, hlead, rfl, hmax⟩
    exact ⟨⟨⟨hpos, hdigits⟩, hlen, hlead, hmax⟩, rfl⟩

theorem IsField.not_mem {p : List Char} {n : Nat} (h : IsField p n) {c : Char} (hc : c.isDigit = false) : c ∉ p := by
  intro hmem
  rw [h.2.2.1 c hmem] at hc
  cases hc

theorem read?_eq_some_iff {t : List Char} {o : Octets} : read? t = some o ↔ IsQuad t o := by
  simp only [read?, Option.bind_eq_some_iff, mapM_eq_some_iff, Words.ofList?_eq_some_iff, field?_eq_some_iff]
  constructor
  · rintro ⟨ns, hns, rfl⟩
    exact ⟨_, (joinWith_splitOn '.' t).symm, hns⟩
  · rintro ⟨ps, rfl, hps⟩
    have hne : ps ≠ [] := by
      rintro rfl
      have hlen := hps.length_eq
      rw [o.length_eq] at hlen
      cases hlen
    have hdot : ∀ p ∈ ps, '.' ∉ p := by
      intro p hp
      obtain ⟨n, hfield⟩ := exists_of_forall₂ hps hp
      exact hfield.not_mem (by decide)
    exact ⟨o.vals, by rwa [splitOn_joinWith hne hdot], rfl⟩

private theorem IsQuad.exists_fields {t : List Char} {o : Octets} (h : IsQuad t o) :
    ∃ p q r s, t = joinWith '.' [p, q, r, s] ∧ ∀ x ∈ [p, q, r, s], ∃ n, IsField x n := by
  obtain ⟨ps, rfl, hps⟩ := h
  have hlen := hps.length_eq
  rw [o.length_eq] at hlen
  match ps, hlen with
  | [p, q, r, s], _ => exact ⟨p, q, r, s, rfl, fun x hx => exists_of_forall₂ hps hx⟩

theorem IsQuad.dot_mem {t : List Char} {o : Octets} (h : IsQuad t o) : '.' ∈ t := by
  obtain ⟨p, q, r, s, rfl, -⟩ := h.exists_fields
  simp [joinWith]

theorem IsQuad.eq_or_isDigit_of_mem {t : List Char} {o : Octets} (h : IsQuad t o) {c : Char} (hc : c ∈ t) :
    c = '.' ∨ c.isDigit = true := by
  obtain ⟨p, q, r, s, rfl, hfields⟩ := h.exists_fields
  rcases mem_joinWith hc with hc | ⟨x, hx, hc⟩
  · exact Or.inl hc
  · obtain ⟨n, hfield⟩ := hfields x hx
    exact Or.inr (hfield.2.2.1 c hc)

theorem IsQuad.not_mem {t : List Char} {o : Octets} (h : IsQuad t o) {c : Char} (hdot : c ≠ '.')
    (hdigit : c.isDigit = false) : c ∉ t := by
  intro hc
  rcases h.eq_or_isDigit_of_mem hc with hc | hc
  · exact hdot hc
  · simp [hdigit] at hc

end DottedQuad

/-! ### Groups -/

namespace ColonGroups

open DottedQuad (IsQuad)

/-- Whether a text is a group with a number: hexadecimal digits, also more than four, of a number below 65536. -/
def IsGroup (p : List Char) (g : Nat) : Prop :=
  IsHex p g ∧ g < 65536

/-- Whether some pieces are groups one after another, where a dotted quad may come last in the place of two groups. -/
inductive ArePieces : List (List Char) → List Nat → Prop
  | nil : ArePieces [] []
  | quad {q : List Char} {o : Octets} {a b c d : Nat} (hq : IsQuad q o) (ho : o.vals = [a, b, c, d]) :
    ArePieces [q] [256 * a + b, 256 * c + d]
  | cons {p : List Char} {g : Nat} {ps : List (List Char)} {gs : List Nat} (hp : IsGroup p g) (hps : ArePieces ps gs) :
    ArePieces (p :: ps) (g :: gs)

/-- Whether a text is that of eight groups between colons. They are all written, or one double colon stands for at least
one zero group. -/
inductive IsText : List Char → List Nat → Prop
  | full {ps : List (List Char)} {gs : List Nat} (h : ArePieces ps gs) (hlen : gs.length = 8) :
    IsText (joinWith ':' ps) gs
  | gap {ps qs : List (List Char)} {left right : List Nat} {n : Nat} (hl : List.Forall₂ IsGroup ps left)
    (hr : ArePieces qs right) (hn : 1 ≤ n) (hlen : left.length + n + right.length = 8) :
    IsText (joinWith ':' ps ++ ':' :: ':' :: joinWith ':' qs) (left ++ List.replicate n 0 ++ right)

private theorem group?_eq_some_iff {p : List Char} {g : Nat} : group? p = some g ↔ IsGroup p g := by
  simp only [group?, Option.bind_eq_some_iff, hexValue?_eq_some_iff, Option.ite_none_right_eq_some, Option.some.injEq,
    IsGroup]
  constructor
  · rintro ⟨n, hn, hlt, rfl⟩
    exact ⟨hn, hlt⟩
  · rintro ⟨hg, hlt⟩
    exact ⟨g, hg, hlt, rfl⟩

theorem IsGroup.not_mem {p : List Char} {g : Nat} (h : IsGroup p g) {c : Char} (hc : hexDigit? c = none) : c ∉ p := by
  intro hmem
  have := h.1.isSome_of_mem hmem
  simp [hc] at this

private theorem mapM_group?_eq_some_iff {ps : List (List Char)} {gs : List Nat} :
    ps.mapM group? = some gs ↔ List.Forall₂ IsGroup ps gs := by
  simp only [mapM_eq_some_iff, group?_eq_some_iff]

private theorem groups?_eq_some_iff {ps : List (List Char)} {gs : List Nat} :
    groups? ps = some gs ↔ ArePieces ps gs := by
  induction ps generalizing gs with
  | nil =>
    constructor
    · intro h
      obtain rfl : [] = gs := Option.some.inj h
      exact .nil
    · intro h
      cases h
      rfl
  | cons p ps ih =>
    cases ps with
    | nil =>
      unfold groups?
      constructor
      · intro h
        split at h
        · obtain ⟨o, ho, rfl⟩ := Option.map_eq_some_iff.1 h
          obtain ⟨a, b, c, d, hvals⟩ := DottedQuad.exists_vals_eq o
          rw [tailGroups, hvals]
          exact .quad (DottedQuad.read?_eq_some_iff.1 ho) hvals
        · obtain ⟨g, hg, rfl⟩ := Option.map_eq_some_iff.1 h
          exact .cons (group?_eq_some_iff.1 hg) .nil
      · intro h
        cases h with
        | quad hq ho =>
          rw [if_pos hq.dot_mem, DottedQuad.read?_eq_some_iff.2 hq, Option.map_some, tailGroups, ho]
          rfl
        | cons hp hps =>
          cases hps
          rw [if_neg (hp.not_mem (by decide)), group?_eq_some_iff.2 hp]
          rfl
    | cons q ps =>
      simp only [groups?, Option.bind_eq_some_iff, Option.map_eq_some_iff, group?_eq_some_iff, ih]
      constructor
      · rintro ⟨g, hg, gs', hgs, rfl⟩
        exact .cons hg hgs
      · intro h
        cases h with
        | cons hp hps => exact ⟨_, hp, _, hps, rfl⟩

private theorem ArePieces.ne_nil_and_not_mem {ps : List (List Char)} {gs : List Nat} (h : ArePieces ps gs) :
    ∀ p ∈ ps, p ≠ [] ∧ ':' ∉ p := by
  induction h with
  | nil => simp
  | quad hq _ =>
    intro p hp
    obtain rfl := List.mem_singleton.1 hp
    exact ⟨List.ne_nil_of_mem hq.dot_mem, hq.not_mem (by decide) (by decide)⟩
  | cons hp _ ih =>
    rw [List.forall_mem_cons]
    exact ⟨⟨hp.1.1, hp.not_mem (by decide)⟩, ih⟩

private theorem arePieces_of_forall₂ {ps : List (List Char)} {gs : List Nat} (h : List.Forall₂ IsGroup ps gs) :
    ArePieces ps gs := by
  induction h with
  | nil => exact .nil
  | cons hp _ ih => exact .cons hp ih

private theorem ArePieces.eq_nil_iff {ps : List (List Char)} {gs : List Nat} (h : ArePieces ps gs) :
    joinWith ':' ps = [] ↔ ps = [] := by
  constructor
  · intro hnil
    match ps with
    | [] => rfl
    | [p] => exact absurd hnil (h.ne_nil_and_not_mem p (by simp)).1
    | p :: q :: ps => simp [joinWith] at hnil
  · rintro rfl
    rfl

theorem ArePieces.splitOn_joinWith {ps : List (List Char)} {gs : List Nat} (h : ArePieces ps gs) (hne : ps ≠ []) :
    splitOn ':' (joinWith ':' ps) = ps :=
  Text.splitOn_joinWith hne fun p hp => (h.ne_nil_and_not_mem p hp).2

/-- A text on one side of a double colon may be empty and is then no piece at all. -/
private theorem side_eq_some_iff (P : List (List Char) → List Nat → Prop)
    {read : List (List Char) → Option (List Nat)} (hread : ∀ {ps gs}, read ps = some gs ↔ P ps gs) (hnil : P [] [])
    (hP : ∀ {ps gs}, P ps gs → ArePieces ps gs) {s : List Char} {gs : List Nat} :
    (if s = [] then some [] else read (splitOn ':' s)) = some gs ↔ ∃ ps, s = joinWith ':' ps ∧ P ps gs := by
  constructor
  · intro h
    split at h
    · next hs =>
      obtain rfl : [] = gs := Option.some.inj h
      exact ⟨[], hs, hnil⟩
    · exact ⟨_, (joinWith_splitOn ':' s).symm, hread.1 h⟩
  · rintro ⟨ps, rfl, hps⟩
    split
    · next hs =>
      obtain rfl := (hP hps).eq_nil_iff.1 hs
      cases hP hps
      rfl
    · next hs =>
      rw [(hP hps).splitOn_joinWith fun h => hs ((hP hps).eq_nil_iff.2 h)]
      exact hread.2 hps

private theorem before?_eq_some_iff {s : List Char} {gs : List Nat} :
    before? s = some gs ↔ ∃ ps, s = joinWith ':' ps ∧ List.Forall₂ IsGroup ps gs :=
  side_eq_some_iff (List.Forall₂ IsGroup) mapM_group?_eq_some_iff .nil arePieces_of_forall₂

private theorem after?_eq_some_iff {s : List Char} {gs : List Nat} :
    after? s = some gs ↔ ∃ ps, s = joinWith ':' ps ∧ ArePieces ps gs :=
  side_eq_some_iff ArePieces groups?_eq_some_iff .nil id

private theorem eq_append_of_cutGap {s before after : List Char} (h : cutGap s = some (before, after)) :
    s = before ++ ':' :: ':' :: after := by
  induction s using cutGap.induct generalizing before with
  | case1 r =>
    cases h
    rfl
  | case2 c r hne ih =>
    rw [cutGap] at h
    · obtain ⟨q, hq, heq⟩ := Option.map_eq_some_iff.1 h
      cases heq
      rw [List.cons_append, ← ih hq]
    · exact hne
  | case3 => cases h

private theorem fill?_eq_some_iff {left right gs : List Nat} : fill? left right = some gs ↔
    ∃ n, 1 ≤ n ∧ left.length + n + right.length = 8 ∧ gs = left ++ List.replicate n 0 ++ right := by
  rw [fill?, Option.ite_none_right_eq_some, Option.some.injEq]
  constructor
  · rintro ⟨hlen, rfl⟩
    exact ⟨8 - (left.length + right.length), by omega, by omega, rfl⟩
  · rintro ⟨n, hn, hlen, rfl⟩
    refine ⟨by omega, ?_⟩
    rw [show 8 - (left.length + right.length) = n by omega]

private theorem isText_of_read? {s : List Char} {g : Groups} (h : read? s = some g) : IsText s g.vals := by
  unfold read? at h
  dsimp only at h
  obtain ⟨gs, hgs, hg⟩ := Option.bind_eq_some_iff.1 h
  rw [Words.vals_of_ofList? hg]
  have hlen : gs.length = 8 := by
    rw [← Words.vals_of_ofList? hg]
    exact g.length_eq
  split at hgs
  · rw [← joinWith_splitOn ':' s]
    exact .full (groups?_eq_some_iff.1 hgs) hlen
  · next before after hcut =>
    obtain ⟨left, hleft, hgs⟩ := Option.bind_eq_some_iff.1 hgs
    obtain ⟨right, hright, hgs⟩ := Option.bind_eq_some_iff.1 hgs
    obtain ⟨n, hn, hsum, rfl⟩ := fill?_eq_some_iff.1 hgs
    obtain ⟨ps, rfl, hps⟩ := before?_eq_some_iff.1 hleft
    obtain ⟨qs, rfl, hqs⟩ := after?_eq_some_iff.1 hright
    rw [eq_append_of_cutGap hcut]
    exact .gap hps hqs hn hsum

private theorem IsText.read?_eq {s : List Char} {gs : List Nat} (h : IsText s gs) :
    read? s = Words.ofList? 8 65536 gs := by
  cases h with
  | @full ps gs h hlen =>
    have hne : ps ≠ [] := by
      rintro rfl
      cases h
      cases hlen
    have hcut : cutGap (joinWith ':' ps) = none := by
      have := cutGap_joinWith_append h.ne_nil_and_not_mem []
      simpa [cutGap] using this
    apply read?_of_cutGap_eq_none hcut
    rw [h.splitOn_joinWith hne]
    exact groups?_eq_some_iff.2 h
  | @gap ps qs left right n hl hr hn hlen =>
    -- The pieces before the double colon are not empty, so it is the first one.
    have hcut : cutGap (joinWith ':' ps ++ ':' :: ':' :: joinWith ':' qs) =
        some (joinWith ':' ps, joinWith ':' qs) := by
      rw [cutGap_joinWith_append (arePieces_of_forall₂ hl).ne_nil_and_not_mem]
      simp [cutGap]
    rw [read?_of_cutGap hcut (before?_eq_some_iff.2 ⟨ps, rfl, hl⟩) (after?_eq_some_iff.2 ⟨qs, rfl, hr⟩) (by omega),
      show 8 - (left.length + right.length) = n by omega]

/-- Reading accepts the texts of eight groups and gives these groups. -/
theorem read?_eq_some_iff {s : List Char} {g : Groups} : read? s = some g ↔ IsText s g.vals := by
  constructor
  · exact isText_of_read?
  · intro h
    rw [h.read?_eq, Words.ofList?_vals]

theorem ArePieces.not_mem {ps : List (List Char)} {gs : List Nat} (h : ArePieces ps gs) {c : Char} (hdot : c ≠ '.')
    (hdigit : c.isDigit = false) (hhex : hexDigit? c = none) : ∀ p ∈ ps, c ∉ p := by
  induction h with
  | nil => simp
  | quad hq _ =>
    intro p hp
    obtain rfl := List.mem_singleton.1 hp
    exact hq.not_mem hdot hdigit
  | cons hp _ ih =>
    rw [List.forall_mem_cons]
    exact ⟨hp.not_mem hhex, ih⟩

theorem IsText.not_mem {s : List Char} {gs : List Nat} (h : IsText s gs) {c : Char} (hcolon : c ≠ ':') (hdot : c ≠ '.')
    (hdigit : c.isDigit = false) (hhex : hexDigit? c = none) : c ∉ s := by
  have hrow : ∀ {ps gs}, ArePieces ps gs → c ∉ joinWith ':' ps := by
    intro ps gs hps hc
    rcases mem_joinWith hc with hc | ⟨p, hp, hc⟩
    · exact hcolon hc
    · exact hps.not_mem hdot hdigit hhex p hp hc
  cases h with
  | full h => exact hrow h
  | gap hl hr =>
    simp only [List.mem_append, List.mem_cons, not_or]
    exact ⟨hrow (arePieces_of_forall₂ hl), hcolon, hcolon, hrow hr⟩

theorem IsText.ne_nil {s : List Char} {gs : List Nat} (h : IsText s gs) : s ≠ [] := by
  cases h with
  | full h hlen =>
    intro hnil
    obtain rfl := h.eq_nil_iff.1 hnil
    cases h
    cases hlen
  | gap => simp

end ColonGroups

/-! ### Literals -/

namespace IpAddress

open ColonGroups (IsText)
open DottedQuad (IsQuad)

/-- Whether a text without brackets is a literal of an address of version 6: eight groups, and perhaps a percent sign and
a scope after them. Neither groups nor scope hold a slash. -/
inductive IsLiteralV6 : List Char → IpAddress → Prop
  | withoutScope {s : List Char} {g : Groups} (h : IsText s g.vals) : IsLiteralV6 s (.v6 g none)
  | withScope {s : List Char} {g : Groups} {z : String} (h : IsText s g.vals) (hz : IsScope z) :
    IsLiteralV6 (s ++ '%' :: z.toList) (.v6 g (some z))

/-- Whether a text is a literal of an address. Brackets may stand around version 6 only. -/
inductive IsLiteral : List Char → IpAddress → Prop
  | quad {t : List Char} {o : Octets} (h : IsQuad t o) : IsLiteral t (.v4 o)
  | bare {u : List Char} {a : IpAddress} (h : IsLiteralV6 u a) : IsLiteral u a
  | bracketed {u : List Char} {a : IpAddress} (h : IsLiteralV6 u a) : IsLiteral ('[' :: u ++ [']']) a

private theorem readV4?_eq_some_iff {t : List Char} {o : Octets} : readV4? t = some (.v4 o) ↔ IsQuad t o := by
  simp [readV4?, DottedQuad.read?_eq_some_iff]

theorem readV6?_eq_some_iff {u : List Char} {a : IpAddress} : readV6? u = some a ↔ IsLiteralV6 u a := by
  constructor
  · intro h
    unfold readV6? at h
    split at h
    · cases h
    · next hslash =>
      rcases cutFirst_cases '%' u with ⟨-, hcut⟩ | ⟨p, z, -, rfl, hcut⟩
      · rw [hcut] at h
        obtain ⟨g, hg, rfl⟩ := Option.map_eq_some_iff.1 h
        exact .withoutScope (ColonGroups.read?_eq_some_iff.1 hg)
      · rw [hcut] at h
        dsimp only at h
        split at h
        · cases h
        · next hz =>
          rw [not_or] at hz
          obtain ⟨g, hg, rfl⟩ := Option.map_eq_some_iff.1 h
          have hs : '/' ∉ z := fun hc => hslash (by simp [hc])
          have hscope : IsScope (String.ofList z) := by simpa [IsScope] using ⟨hz.1, hz.2, hs⟩
          simpa using IsLiteralV6.withScope (ColonGroups.read?_eq_some_iff.1 hg) hscope
  · intro h
    cases h with
    | withoutScope h =>
      have hslash := h.not_mem (c := '/') (by decide) (by decide) (by decide) (by decide)
      have hpercent := h.not_mem (c := '%') (by decide) (by decide) (by decide) (by decide)
      rw [readV6?, if_neg hslash, cutFirst_of_not_mem hpercent]
      simp only [ColonGroups.read?_eq_some_iff.2 h, Option.map_some]
    | @withScope s g z h hz =>
      have hslash := h.not_mem (c := '/') (by decide) (by decide) (by decide) (by decide)
      have hpercent := h.not_mem (c := '%') (by decide) (by decide) (by decide) (by decide)
      obtain ⟨hne, hp, hs⟩ := hz
      have hslash' : '/' ∉ s ++ '%' :: z.toList := by simp [hslash, hs]
      rw [readV6?, if_neg hslash', cutFirst_append_cons hpercent]
      simp only [hne, hp, or_self, if_false, ColonGroups.read?_eq_some_iff.2 h, Option.map_some, String.ofList_toList]

theorem IsLiteralV6.not_mem_head? {u : List Char} {a : IpAddress} (h : IsLiteralV6 u a) : '[' ∉ u.head? := by
  have htext : ∀ {s gs}, IsText s gs → '[' ∉ s.head? := fun hs hc =>
    hs.not_mem (by decide) (by decide) (by decide) (by decide) (List.mem_of_mem_head? hc)
  cases h with
  | withoutScope h => exact htext h
  | withScope h hz =>
    rw [List.head?_append_of_ne_nil _ h.ne_nil]
    exact htext h

theorem unbracket_cases (t : List Char) : unbracket t = t ∨ t = '[' :: unbracket t ++ [']'] := by
  unfold unbracket
  split
  · next r =>
    split
    · next hlast =>
      right
      obtain ⟨l, rfl⟩ := List.getLast?_eq_some_iff.1 hlast
      simp
    · exact Or.inl rfl
  · exact Or.inl rfl

/-- A text denotes an address if, without the blanks around it, it is a literal of this address. -/
theorem ofText_eq_ok_iff_isLiteral {s : String} {a : IpAddress} : ofText s = .ok a ↔ IsLiteral (strip s.toList) a := by
  rw [ofText_eq_ok_iff]
  generalize strip s.toList = t
  constructor
  · rintro (h6 | ⟨-, -, h4⟩)
    · have hliteral := readV6?_eq_some_iff.1 h6
      rcases unbracket_cases t with hu | hu
      · rw [hu] at hliteral
        exact .bare hliteral
      · rw [hu]
        exact .bracketed hliteral
    · obtain ⟨o, ho, rfl⟩ := Option.map_eq_some_iff.1 h4
      exact .quad (DottedQuad.read?_eq_some_iff.1 ho)
  · intro h
    cases h with
    | quad h =>
      have hu : unbracket t = t :=
        unbracket_eq_self fun hc => h.not_mem (by decide) (by decide) (List.mem_of_mem_head? hc)
      have h6 : readV6? t = none := readV6?_eq_none_of_not_mem (h.not_mem (by decide) (by decide))
      rw [hu]
      exact Or.inr ⟨h6, rfl, readV4?_eq_some_iff.2 h⟩
    | bare h =>
      rw [unbracket_eq_self h.not_mem_head?]
      exact Or.inl (readV6?_eq_some_iff.2 h)
    | bracketed h =>
      rw [unbracket_bracketed]
      exact Or.inl (readV6?_eq_some_iff.2 h)

/-- A text that is refused is refused for its brackets if it is in brackets, and else for not being a literal. -/
private theorem ofText_eq_error {s : String} {e : AddressError} (h : ofText s = .error e) :
    e = if unbracket (strip s.toList) = strip s.toList then .notLiteral s else .brackets s := by
  unfold ofText at h
  dsimp only at h
  split at h
  · cases h
  · split at h
    · next hu =>
      rw [if_neg hu]
      exact (Except.error.inj h).symm
    · next hu =>
      rw [ne_eq, not_not] at hu
      rw [if_pos hu]
      split at h
      · cases h
      · exact (Except.error.inj h).symm

/-- A text is accepted if and only if it is a literal between blanks, and it stands for the address of this literal. Any
other text is refused as one that is no literal, or that has brackets around something else than version 6. The latter is
so for a dotted quad in brackets. -/
theorem ofValue_accepts_literals (s : String) :
    (∀ a, ofValue (.text s) = .ok a ↔ IsLiteral (strip s.toList) a) ∧
    ((∀ a, ¬IsLiteral (strip s.toList) a) ↔
      ofValue (.text s) = .error (.brackets s) ∨ ofValue (.text s) = .error (.notLiteral s)) ∧
    ∀ q o, IsQuad q o → strip s.toList = '[' :: q ++ [']'] → ofValue (.text s) = .error (.brackets s) := by
  have haccepts : ∀ a, ofText s = .ok a ↔ IsLiteral (strip s.toList) a := fun a => ofText_eq_ok_iff_isLiteral
  refine ⟨haccepts, ?_, ?_⟩
  · simp only [← haccepts, ofValue]
    cases h : ofText s with
    | ok a => simp
    | error e =>
      have he := ofText_eq_error h
      split at he
      · simp [he]
      · simp [he]
  · intro q o hq hs
    have hu : unbracket (strip s.toList) = q := by rw [hs, unbracket_bracketed]
    have hne : unbracket (strip s.toList) ≠ strip s.toList := by
      intro h
      have hlen := congrArg List.length (hu.symm.trans (h.trans hs))
      simp at hlen
      omega
    have h6 : readV6? q = none := readV6?_eq_none_of_not_mem (hq.not_mem (by decide) (by decide))
    rw [ofValue, ofText]
    simp only [hu, h6]
    rw [hu] at hne
    rw [if_pos hne]

/-- A dotted quad in brackets is refused, also with blanks around it. -/
theorem ofValue_accepts_literals_refused :
    IsQuad "1.2.3.4".toList ⟨[1, 2, 3, 4], rfl, by decide⟩ ∧
      strip " [1.2.3.4]\n".toList = '[' :: "1.2.3.4".toList ++ [']'] ∧
      ofValue (.text " [1.2.3.4]\n") = .error (.brackets " [1.2.3.4]\n") := by
  have hquad : IsQuad "1.2.3.4".toList ⟨[1, 2, 3, 4], rfl, by decide⟩ := DottedQuad.read?_eq_some_iff.1 rfl
  exact ⟨hquad, rfl, (ofValue_accepts_literals " [1.2.3.4]\n").2.2 _ _ hquad rfl⟩

end IpAddress

end Endpoint
