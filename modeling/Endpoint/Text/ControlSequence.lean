/-!
# Control sequences of a terminal

An escape character, an opening bracket, parameters and a letter make a control sequence, which changes how a terminal
shows what follows. Output that no terminal shows is written without them.

* `dropSequences_of_not_mem`: a text without escape characters is left alone.
* `dropSequences_sublist`: nothing is put in their place.
* `dropSequences_append_newline`: no control sequence goes on beyond its line.
-/

namespace Endpoint.Text

/-- The character that begins a control sequence. -/
def escapeChar : Char := '\x1b'

/-- The characters that may stand between the bracket and the letter of a control sequence. -/
def isParameterChar (c : Char) : Bool :=
  c.isDigit || c == ';' || c == '?'

/-- The number of characters up to the letter that ends a control sequence, where parameters come before it. -/
def parametersLength? : List Char → Option Nat
  | [] => none
  | c :: r =>
    if isParameterChar c then (parametersLength? r).map (· + 1)
    else if c.isAlpha then some 1
    else none

/-- The length of the control sequence that a text begins with. -/
def sequenceLength? : List Char → Option Nat
  | c :: '[' :: r => if c = escapeChar then (parametersLength? r).map (· + 2) else none
  | _ => none

/-- The text after its first `skip` characters, without control sequences. -/
def dropSequencesFrom : Nat → List Char → List Char
  | _, [] => []
  | skip + 1, _ :: r => dropSequencesFrom skip r
  | 0, c :: r => match sequenceLength? (c :: r) with
    | some n => dropSequencesFrom (n - 1) r
    | none => c :: dropSequencesFrom 0 r

/-- The text without its control sequences, which are found from left to right. -/
def dropSequences (s : List Char) : List Char :=
  dropSequencesFrom 0 s

/-- The text without its control sequences. -/
def withoutSequences (s : String) : String :=
  String.ofList (dropSequences s.toList)

private theorem sequenceLength?_of_ne {c : Char} (h : c ≠ escapeChar) (r : List Char) :
    sequenceLength? (c :: r) = none := by
  unfold sequenceLength?
  split
  · next heq =>
    obtain ⟨rfl, _⟩ := List.cons.inj heq
    exact if_neg h
  · rfl

/-- A text without escape characters has no control sequences. -/
private theorem dropSequences_of_not_mem {s : List Char} (h : escapeChar ∉ s) : dropSequences s = s := by
  unfold dropSequences
  induction s with
  | nil => rfl
  | cons c r ih =>
    simp only [List.mem_cons, not_or] at h
    rw [dropSequencesFrom, sequenceLength?_of_ne (Ne.symm h.1)]
    exact congrArg (c :: ·) (ih h.2)

private theorem dropSequencesFrom_sublist (skip : Nat) (s : List Char) : (dropSequencesFrom skip s).Sublist s := by
  induction s generalizing skip with
  | nil => simp [dropSequencesFrom]
  | cons c r ih =>
    cases skip with
    | succ skip => exact (ih skip).cons c
    | zero =>
      rw [dropSequencesFrom]
      split
      · next n _ => exact (ih (n - 1)).cons c
      · exact (ih 0).cons_cons c

theorem dropSequences_sublist (s : List Char) : (dropSequences s).Sublist s :=
  dropSequencesFrom_sublist 0 s

/-! ### Lines -/

private theorem parametersLength?_append_newline (s t : List Char) :
    parametersLength? (s ++ '\n' :: t) = parametersLength? s := by
  induction s with
  | nil => rfl
  | cons c r ih => rw [List.cons_append, parametersLength?, parametersLength?, ih]

private theorem sequenceLength?_append_newline (c : Char) (s t : List Char) :
    sequenceLength? (c :: (s ++ '\n' :: t)) = sequenceLength? (c :: s) := by
  cases s with
  | nil => rfl
  | cons d r =>
    by_cases hd : d = '['
    · subst hd
      rw [List.cons_append, sequenceLength?, sequenceLength?, parametersLength?_append_newline]
    · simp [sequenceLength?, hd]

private theorem le_of_parametersLength? {s : List Char} {n : Nat} (h : parametersLength? s = some n) :
    n ≤ s.length := by
  induction s generalizing n with
  | nil => cases h
  | cons c r ih =>
    rw [parametersLength?] at h
    split at h
    · obtain ⟨k, hk, rfl⟩ := Option.map_eq_some_iff.1 h
      exact Nat.succ_le_succ (ih hk)
    · split at h
      · cases h
        simp
      · cases h

private theorem le_of_sequenceLength? {s : List Char} {n : Nat} (h : sequenceLength? s = some n) : n ≤ s.length := by
  unfold sequenceLength? at h
  split at h
  · split at h
    · obtain ⟨k, hk, rfl⟩ := Option.map_eq_some_iff.1 h
      exact Nat.succ_le_succ (Nat.succ_le_succ (le_of_parametersLength? hk))
    · cases h
  · cases h

/-- What is taken out of a line does not depend on the lines after it. -/
private theorem dropSequences_append_newline (s t : List Char) :
    dropSequences (s ++ '\n' :: t) = dropSequences s ++ '\n' :: dropSequences t := by
  have hskip : ∀ skip ≤ s.length,
      dropSequencesFrom skip (s ++ '\n' :: t) = dropSequencesFrom skip s ++ '\n' :: dropSequences t := by
    induction s with
    | nil =>
      intro skip hle
      obtain rfl : skip = 0 := Nat.le_zero.1 hle
      have hnone : sequenceLength? ('\n' :: t) = none := sequenceLength?_of_ne (by decide) t
      simp only [List.nil_append, dropSequencesFrom, hnone, dropSequences]
    | cons c r ih =>
      intro skip hle
      cases skip with
      | succ skip => exact ih skip (Nat.le_of_succ_le_succ hle)
      | zero =>
        rw [List.cons_append, dropSequencesFrom, dropSequencesFrom, sequenceLength?_append_newline]
        cases hn : sequenceLength? (c :: r) with
        | none => exact congrArg (c :: ·) (ih 0 (Nat.zero_le _))
        | some n =>
          have hlen : n ≤ r.length + 1 := le_of_sequenceLength? hn
          exact ih (n - 1) (by omega)
  exact hskip 0 (Nat.zero_le _)

theorem withoutSequences_of_not_mem {s : String} (h : escapeChar ∉ s.toList) : withoutSequences s = s := by
  rw [withoutSequences, dropSequences_of_not_mem h, String.ofList_toList]

theorem withoutSequences_append_newline (s : String) : withoutSequences (s ++ "\n") = withoutSequences s ++ "\n" := by
  have hlist : (s ++ "\n").toList = s.toList ++ '\n' :: [] := by rw [String.toList_append]; rfl
  rw [withoutSequences, hlist, dropSequences_append_newline, String.ofList_append]
  rfl

end Endpoint.Text
