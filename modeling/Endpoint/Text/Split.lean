/-!
# Cutting a text at a separator

* `joinWith_splitOn`: the pieces of a text, put together again, are the text.
* `splitOn_joinWith`: pieces that do not hold the separator are recovered from the text they make.
* `cutFirst_cases`, `cutLast_cases`: a cut is at the first or the last separator, if there is one.
-/

namespace Endpoint.Text

/-- The pieces of a text between the occurrences of a separator; a text without it is one piece. -/
def splitOn (sep : Char) : List Char → List (List Char)
  | [] => [[]]
  | c :: r =>
    if c = sep then [] :: splitOn sep r
    else match splitOn sep r with
      | [] => [[c]]
      | p :: ps => (c :: p) :: ps

/-- The pieces of a text between the occurrences of two characters next to each other, from left to right. -/
def splitOnPair (a b : Char) : List Char → List (List Char)
  | [] => [[]]
  | [c] => [[c]]
  | c :: d :: r =>
    if c = a ∧ d = b then [] :: splitOnPair a b r
    else match splitOnPair a b (d :: r) with
      | [] => [[c]]
      | p :: ps => (c :: p) :: ps

/-- Pieces put together with a separator between neighbours. -/
def joinWith (sep : Char) : List (List Char) → List Char
  | [] => []
  | [p] => p
  | p :: q :: ps => p ++ sep :: joinWith sep (q :: ps)

/-- The text before the first separator, and the text after it if there is one. -/
def cutFirst (sep : Char) : List Char → List Char × Option (List Char)
  | [] => ([], none)
  | c :: r =>
    if c = sep then ([], some r)
    else
      let cut := cutFirst sep r
      (c :: cut.1, cut.2)

/-- The texts before and after the last separator, if there is one. -/
def cutLast (sep : Char) (s : List Char) : Option (List Char × List Char) :=
  match cutFirst sep s.reverse with
  | (_, none) => none
  | (after, some before) => some (before.reverse, after.reverse)

theorem splitOn_ne_nil (sep : Char) (s : List Char) : splitOn sep s ≠ [] := by
  cases s with
  | nil => simp [splitOn]
  | cons c r =>
    rw [splitOn]
    split
    · simp
    · split <;> simp

theorem splitOn_of_not_mem {sep : Char} {s : List Char} (h : sep ∉ s) : splitOn sep s = [s] := by
  induction s with
  | nil => rfl
  | cons c r ih =>
    simp only [List.mem_cons, not_or] at h
    simp [splitOn, Ne.symm h.1, ih h.2]

theorem splitOn_append_cons {sep : Char} {p : List Char} (h : sep ∉ p) (r : List Char) :
    splitOn sep (p ++ sep :: r) = p :: splitOn sep r := by
  induction p with
  | nil => simp [splitOn]
  | cons c p ih =>
    simp only [List.mem_cons, not_or] at h
    simp [splitOn, Ne.symm h.1, ih h.2]

/-- The pieces before and after any separator are those of the whole text. -/
theorem splitOn_append_sep (sep : Char) (p r : List Char) :
    splitOn sep (p ++ sep :: r) = splitOn sep p ++ splitOn sep r := by
  induction p with
  | nil => simp [splitOn]
  | cons c p ih =>
    rw [List.cons_append, splitOn, splitOn, ih]
    split
    · rfl
    · cases h : splitOn sep p with
      | nil => exact absurd h (splitOn_ne_nil sep p)
      | cons q qs => rfl

/-- The last piece is what comes after the last separator. -/
theorem getLast?_splitOn_append_sep {sep : Char} {r : List Char} (h : sep ∉ r) (p : List Char) :
    (splitOn sep (p ++ sep :: r)).getLast? = some r := by
  rw [splitOn_append_sep, splitOn_of_not_mem h, List.getLast?_concat]

theorem splitOn_joinWith {sep : Char} {ps : List (List Char)} (hne : ps ≠ []) (h : ∀ p ∈ ps, sep ∉ p) :
    splitOn sep (joinWith sep ps) = ps := by
  induction ps with
  | nil => exact absurd rfl hne
  | cons p ps ih =>
    cases ps with
    | nil => exact splitOn_of_not_mem (h p (by simp))
    | cons q ps =>
      rw [joinWith, splitOn_append_cons (h p (by simp)), ih (by simp) (fun x hx => h x (by simp [hx]))]

theorem joinWith_splitOn (sep : Char) (s : List Char) : joinWith sep (splitOn sep s) = s := by
  induction s with
  | nil => rfl
  | cons c r ih =>
    have hne := splitOn_ne_nil sep r
    rw [splitOn]
    split
    · next hc =>
      subst hc
      cases hs : splitOn c r with
      | nil => exact absurd hs hne
      | cons p ps => rw [hs] at ih; simp [joinWith, ih]
    · cases hs : splitOn sep r with
      | nil => exact absurd hs hne
      | cons p ps =>
        rw [hs] at ih
        cases ps with
        | nil => simpa [joinWith] using ih
        | cons q ps => simpa [joinWith] using ih

/-- What is in a text made of pieces is the separator or in a piece. -/
theorem mem_joinWith {sep c : Char} {ps : List (List Char)} (h : c ∈ joinWith sep ps) :
    c = sep ∨ ∃ p ∈ ps, c ∈ p := by
  induction ps with
  | nil => simp [joinWith] at h
  | cons p ps ih =>
    cases ps with
    | nil => exact Or.inr ⟨p, by simp, h⟩
    | cons q ps =>
      rw [joinWith, List.mem_append, List.mem_cons] at h
      rcases h with h | h | h
      · exact Or.inr ⟨p, by simp, h⟩
      · exact Or.inl h
      · rcases ih h with h | ⟨r, hr, hc⟩
        · exact Or.inl h
        · exact Or.inr ⟨r, by simp only [List.mem_cons] at hr ⊢; exact Or.inr hr, hc⟩

theorem cutFirst_of_not_mem {sep : Char} {s : List Char} (h : sep ∉ s) : cutFirst sep s = (s, none) := by
  induction s with
  | nil => rfl
  | cons c r ih =>
    simp only [List.mem_cons, not_or] at h
    simp [cutFirst, Ne.symm h.1, ih h.2]

theorem cutFirst_append_cons {sep : Char} {p : List Char} (h : sep ∉ p) (r : List Char) :
    cutFirst sep (p ++ sep :: r) = (p, some r) := by
  induction p with
  | nil => simp [cutFirst]
  | cons c p ih =>
    simp only [List.mem_cons, not_or] at h
    simp [cutFirst, Ne.symm h.1, ih h.2]

/-- A cut is where the first separator is, if there is one. -/
theorem cutFirst_cases (sep : Char) (s : List Char) :
    (sep ∉ s ∧ cutFirst sep s = (s, none)) ∨
      ∃ p r, sep ∉ p ∧ s = p ++ sep :: r ∧ cutFirst sep s = (p, some r) := by
  induction s with
  | nil => exact Or.inl ⟨by simp, rfl⟩
  | cons c s ih =>
    by_cases hc : c = sep
    · exact Or.inr ⟨[], s, by simp, by simp [hc], by simp [cutFirst, hc]⟩
    · rcases ih with ⟨hs, hcut⟩ | ⟨p, r, hp, rfl, hcut⟩
      · exact Or.inl ⟨by simp [Ne.symm hc, hs], by simp [cutFirst, hc, hcut]⟩
      · exact Or.inr ⟨c :: p, r, by simp [Ne.symm hc, hp], rfl, by simp [cutFirst, hc, hcut]⟩

theorem cutLast_append_cons {sep : Char} {r : List Char} (h : sep ∉ r) (p : List Char) :
    cutLast sep (p ++ sep :: r) = some (p, r) := by
  have hr : sep ∉ r.reverse := by simpa using h
  simp [cutLast, cutFirst_append_cons hr p.reverse]

theorem cutLast_cases (sep : Char) (s : List Char) :
    (sep ∉ s ∧ cutLast sep s = none) ∨
      ∃ p r, sep ∉ r ∧ s = p ++ sep :: r ∧ cutLast sep s = some (p, r) := by
  rcases cutFirst_cases sep s.reverse with ⟨hs, hcut⟩ | ⟨r, p, hr, hs, hcut⟩
  · exact Or.inl ⟨by simpa using hs, by simp [cutLast, hcut]⟩
  · refine Or.inr ⟨p.reverse, r.reverse, by simpa using hr, ?_, by simp [cutLast, hcut]⟩
    rw [← List.reverse_reverse s, hs]
    simp

end Endpoint.Text
