import Endpoint.Ports.Spec

/-!
# Candidate ports

Candidates are drawn one at a time, in order, and each once. They are kept as spans of successive ports, so that a
long range takes no room. `Candidates.toList` lists what is still to be drawn.

* `toList_eq_of_next?`, `toList_eq_nil_of_next?`: a draw takes the first of them.
* `draw_spec`: several draws take as many of them from the front, and leave the others.
-/

namespace Endpoint

/-- Successive ports: `count` of them, from `first` on. -/
structure Span where
  first : Int
  count : Nat
  deriving DecidableEq, Repr

/-- The ports of a span, in ascending order. -/
def Span.toList (s : Span) : List Int :=
  (List.range s.count).map fun (i : Nat) => s.first + (i : Int)

/-- Ports to be drawn one after the other. -/
structure Candidates where
  spans : List Span
  deriving DecidableEq, Repr

namespace Candidates

/-- No ports. -/
def empty : Candidates := ⟨[]⟩

/-- The ports of a list, in its order. -/
def ofList (ports : List Int) : Candidates :=
  ⟨ports.map fun p => ⟨p, 1⟩⟩

/-- The ports from `start` on that are below `stop`. -/
def between (start stop : Int) : Candidates :=
  ⟨[⟨start, (stop - start).toNat⟩]⟩

/-- The ports of a specification, range by range. -/
def ofRanges (rs : List PortRange) : Candidates :=
  ⟨rs.map fun r => ⟨r.low, r.size⟩⟩

/-- The ports that a specification stands for. -/
def ofSpec (spec : Option String) : Except PortSpecError Candidates :=
  (PortSpec.parse? spec).map ofRanges

/-- What is still to be drawn. -/
def toList (c : Candidates) : List Int :=
  c.spans.flatMap Span.toList

/-- The number of ports still to be drawn. -/
def size (c : Candidates) : Nat :=
  c.spans.foldr (fun s n => s.count + n) 0

/-- The next port of some spans and what is left after it. -/
def nextOf? : List Span → Option (Int × List Span)
  | [] => none
  | ⟨_, 0⟩ :: r => nextOf? r
  | ⟨p, n + 1⟩ :: r => some (p, ⟨p + 1, n⟩ :: r)

/-- The next port and what is left after it. -/
def next? (c : Candidates) : Option (Int × Candidates) :=
  (nextOf? c.spans).map fun d => (d.1, ⟨d.2⟩)

private theorem spanToList_succ (p : Int) (n : Nat) :
    Span.toList ⟨p, n + 1⟩ = p :: Span.toList ⟨p + 1, n⟩ := by
  simp only [Span.toList, List.range_succ_eq_map, List.map_cons, List.map_map]
  congr 1
  · simp
  · apply List.map_congr_left
    intro i _
    simp only [Function.comp_apply]
    omega

private theorem flatMap_eq_of_nextOf? {spans rest : List Span} {p : Int} (h : nextOf? spans = some (p, rest)) :
    spans.flatMap Span.toList = p :: rest.flatMap Span.toList := by
  induction spans with
  | nil => cases h
  | cons s r ih =>
    obtain ⟨q, n⟩ := s
    cases n with
    | zero =>
      rw [nextOf?] at h
      simpa [Span.toList] using ih h
    | succ n =>
      simp only [nextOf?, Option.some.injEq, Prod.mk.injEq] at h
      obtain ⟨rfl, rfl⟩ := h
      simp [spanToList_succ]

private theorem flatMap_eq_nil_of_nextOf? {spans : List Span} (h : nextOf? spans = none) :
    spans.flatMap Span.toList = [] := by
  induction spans with
  | nil => rfl
  | cons s r ih =>
    obtain ⟨q, n⟩ := s
    cases n with
    | zero =>
      rw [nextOf?] at h
      simpa [Span.toList] using ih h
    | succ n => cases h

/-- A draw takes the first port of those still to be drawn. -/
theorem toList_eq_of_next? {c d : Candidates} {p : Int} (h : c.next? = some (p, d)) : c.toList = p :: d.toList := by
  unfold next? at h
  cases hn : nextOf? c.spans with
  | none => rw [hn] at h; cases h
  | some x =>
    rw [hn] at h
    cases h
    exact flatMap_eq_of_nextOf? hn

/-- Nothing is drawn only if nothing is left. -/
theorem toList_eq_nil_of_next? {c : Candidates} (h : c.next? = none) : c.toList = [] := by
  unfold next? at h
  cases hn : nextOf? c.spans with
  | none => exact flatMap_eq_nil_of_nextOf? hn
  | some x => rw [hn] at h; cases h

theorem exists_next?_of_toList_eq_cons {c : Candidates} {p : Int} {ps : List Int} (h : c.toList = p :: ps) :
    ∃ d, c.next? = some (p, d) ∧ d.toList = ps := by
  cases hnext : c.next? with
  | none =>
    rw [toList_eq_nil_of_next? hnext] at h
    cases h
  | some x =>
    rw [toList_eq_of_next? hnext] at h
    obtain ⟨rfl, rfl⟩ := List.cons.inj h
    exact ⟨x.2, rfl, rfl⟩

theorem next?_of_toList_eq_nil {c : Candidates} (h : c.toList = []) : c.next? = none := by
  cases hnext : c.next? with
  | none => rfl
  | some x =>
    rw [toList_eq_of_next? hnext] at h
    cases h

private theorem length_toList (c : Candidates) : c.toList.length = c.size := by
  obtain ⟨spans⟩ := c
  simp only [toList, size]
  induction spans with
  | nil => rfl
  | cons s r ih => simp [ih, Span.toList]

/-- A draw leaves one port less. -/
theorem size_of_next? {c d : Candidates} {p : Int} (h : c.next? = some (p, d)) : d.size + 1 = c.size := by
  rw [← length_toList, ← length_toList, toList_eq_of_next? h, List.length_cons]

theorem toList_ofList (ports : List Int) : (ofList ports).toList = ports := by
  simp only [ofList, toList]
  induction ports with
  | nil => rfl
  | cons p ps ih =>
    rw [List.map_cons, List.flatMap_cons, ih]
    simp [Span.toList]

theorem toList_ofRanges (rs : List PortRange) :
    (ofRanges rs).toList = (PortSpec.expand rs).map fun (p : Nat) => (p : Int) := by
  simp only [ofRanges, toList, PortSpec.expand]
  induction rs with
  | nil => rfl
  | cons r rs ih =>
    rw [List.map_cons, List.flatMap_cons, List.flatMap_cons, List.map_append, ih]
    congr 1
    simp [Span.toList, PortRange.ports, List.range'_eq_map_range]

/-- Several draws: the ports, and the candidates that are left. Past the end nothing is drawn. -/
def draw : Nat → Candidates → List (Option Int) × Candidates
  | 0, c => ([], c)
  | n + 1, c => match c.next? with
    | none =>
      let more := draw n c
      (none :: more.1, more.2)
    | some (p, d) =>
      let more := draw n d
      (some p :: more.1, more.2)

/-- Several draws take as many ports from the front as there are draws, or all of them. -/
theorem draw_spec (n : Nat) (c : Candidates) :
    (c.draw n).1.filterMap id = c.toList.take n ∧ (c.draw n).2.toList = c.toList.drop n := by
  induction n generalizing c with
  | zero => exact ⟨rfl, rfl⟩
  | succ n ih =>
    rw [draw]
    split
    · next hnext =>
      have hnil : c.toList = [] := toList_eq_nil_of_next? hnext
      obtain ⟨htake, hdrop⟩ := ih c
      rw [hnil, List.take_nil] at htake
      rw [hnil, List.drop_nil] at hdrop
      rw [hnil]
      exact ⟨htake, hdrop⟩
    · next p d hnext =>
      obtain ⟨htake, hdrop⟩ := ih d
      rw [toList_eq_of_next? hnext, List.take_succ_cons, List.drop_succ_cons, ← htake]
      exact ⟨rfl, hdrop⟩

end Candidates

end Endpoint
