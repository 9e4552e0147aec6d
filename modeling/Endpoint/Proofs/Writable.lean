import Endpoint.Value.Printer

/-!
# Values that can be written

* (literals) A value can be written with its kind if and only if all integers within it (`Value.Holds`) have few enough
  digits: `Value.exists_literal_eq_ok_iff`, by induction on the value, its elements and its entries.
* (texts) Shown bare, a moment with a zone must also have an offset of less than a day: `Value.HasText` and
  `Value.exists_display_eq_ok_iff`.
-/

namespace Endpoint.Value

open Text

/-- Whether a value is another one, or an element or an entry within it at any depth. -/
inductive Holds (u : Value) : Value → Prop
  | self : Holds u u
  | element {v : Value} {vs : List Value} (hv : v ∈ vs) (h : Holds u v) : Holds u (.list vs)
  | entry {k : String} {v : Value} {es : List (String × Value)} (hv : (k, v) ∈ es) (h : Holds u v) :
    Holds u (.table es)

/-- Whether all integers within a value have few enough digits to be written. -/
def IsShort (v : Value) : Prop :=
  ∀ n, Holds (.int n) v → (decimal n.natAbs).length ≤ maxIntegerDigits

/-- Whether a value has a text: all integers within it have few enough digits, and if it is a moment with a zone, the
offset of that is less than a day. -/
def HasText (v : Value) : Prop :=
  v.IsShort ∧ ∀ d t z, v = .moment (.dateTime d t (some z)) → z.offset.natAbs < 24 * 60

/-! ### Literals -/

private theorem isShort_int {n : Int} : IsShort (.int n) ↔ (decimal n.natAbs).length ≤ maxIntegerDigits := by
  constructor
  · intro h
    exact h n .self
  · rintro h m ⟨⟩
    exact h

private theorem isShort_list {vs : List Value} : IsShort (.list vs) ↔ ∀ v ∈ vs, IsShort v := by
  constructor
  · intro h v hv n hn
    exact h n (.element hv hn)
  · rintro h n (_ | ⟨hv, hn⟩)
    exact h _ hv n hn

private theorem isShort_table {es : List (String × Value)} : IsShort (.table es) ↔ ∀ e ∈ es, IsShort e.2 := by
  constructor
  · intro h e he n hn
    exact h n (.entry he hn)
  · rintro h n (_ | _ | ⟨hv, hn⟩)
    exact h _ hv n hn

private theorem exists_integerLiteral_eq_ok_iff {n : Int} :
    (∃ s, integerLiteral n = .ok s) ↔ (decimal n.natAbs).length ≤ maxIntegerDigits := by
  unfold integerLiteral
  split
  · next h => exact iff_of_true ⟨_, rfl⟩ h
  · next h => exact iff_of_false (by simp) h

private theorem exists_map_eq_ok_iff {ε α β : Type} {f : α → β} {x : Except ε α} :
    (∃ b, x.map f = .ok b) ↔ ∃ a, x = .ok a := by
  cases x with
  | error e => exact iff_of_false (by simp [Except.map]) (by simp)
  | ok a => exact iff_of_true ⟨f a, rfl⟩ ⟨a, rfl⟩

private theorem exists_bind_map_eq_ok_iff {ε α β γ : Type} {f : α → β → γ} {x : Except ε α} {y : Except ε β} :
    (∃ c, (x.bind fun a => y.map (f a)) = .ok c) ↔ (∃ a, x = .ok a) ∧ ∃ b, y = .ok b := by
  cases x with
  | error e => exact iff_of_false (by simp [Except.bind]) (by simp)
  | ok a =>
    change (∃ c, y.map (f a) = .ok c) ↔ _
    rw [exists_map_eq_ok_iff]
    simp

mutual

/-- A value can be written with its kind just if all integers within it are short enough. -/
private theorem exists_literal_eq_ok_iff : ∀ v : Value, (∃ s, literal v = .ok s) ↔ IsShort v
  | .int n => by rw [literal, exists_integerLiteral_eq_ok_iff, isShort_int]
  | .list vs => by rw [literal, exists_map_eq_ok_iff, exists_literals_eq_ok_iff vs, isShort_list]
  | .table es => by rw [literal, exists_map_eq_ok_iff, exists_entryLiterals_eq_ok_iff es, isShort_table]
  | .null => iff_of_true ⟨_, rfl⟩ nofun
  | .bool _ => iff_of_true ⟨_, rfl⟩ nofun
  | .real _ => iff_of_true ⟨_, rfl⟩ nofun
  | .text _ => iff_of_true ⟨_, rfl⟩ nofun
  | .octets _ _ => iff_of_true ⟨_, rfl⟩ nofun
  | .address _ => iff_of_true ⟨_, rfl⟩ nofun
  | .moment _ => iff_of_true ⟨_, rfl⟩ nofun

private theorem exists_literals_eq_ok_iff : ∀ vs : List Value, (∃ ls, literals vs = .ok ls) ↔ ∀ v ∈ vs, IsShort v
  | [] => iff_of_true ⟨_, rfl⟩ nofun
  | v :: vs => by
    rw [literals, exists_bind_map_eq_ok_iff, exists_literal_eq_ok_iff v, exists_literals_eq_ok_iff vs,
      List.forall_mem_cons]

private theorem exists_entryLiterals_eq_ok_iff :
    ∀ es : List (String × Value), (∃ ls, entryLiterals es = .ok ls) ↔ ∀ e ∈ es, IsShort e.2
  | [] => iff_of_true ⟨_, rfl⟩ nofun
  | (k, v) :: es => by
    rw [entryLiterals, exists_bind_map_eq_ok_iff, exists_literal_eq_ok_iff v, exists_entryLiterals_eq_ok_iff es,
      List.forall_mem_cons]

end

/-! ### Texts -/

private theorem exists_momentText_eq_ok_iff {m : Moment} :
    (∃ s, m.text = .ok s) ↔ ∀ d t z, m = .dateTime d t (some z) → z.offset.natAbs < 24 * 60 := by
  cases m with
  | date d => exact iff_of_true ⟨_, rfl⟩ nofun
  | time t => exact iff_of_true ⟨_, rfl⟩ nofun
  | dateTime d t zone =>
    cases zone with
    | none => exact iff_of_true ⟨_, rfl⟩ nofun
    | some z =>
      rw [Moment.text]
      split
      · next h =>
        refine iff_of_true ⟨_, rfl⟩ ?_
        rintro d t z ⟨⟩
        exact h
      · next h => exact iff_of_false (by simp) fun hz => h (hz d t z rfl)

/-- A value is shown just if it has a text. -/
theorem exists_display_eq_ok_iff (v : Value) : (∃ s, v.display = .ok s) ↔ v.HasText := by
  cases v with
  | moment m =>
    rw [display, exists_momentText_eq_ok_iff]
    have hshort : IsShort (.moment m) := nofun
    simp [HasText, hshort]
  | text s => exact iff_of_true ⟨_, rfl⟩ ⟨nofun, nofun⟩
  | address a => exact iff_of_true ⟨_, rfl⟩ ⟨nofun, nofun⟩
  | _ =>
    rw [display, exists_literal_eq_ok_iff, HasText]
    · exact (and_iff_left nofun).symm
    all_goals simp

theorem hasText_text (s : String) : HasText (.text s) :=
  (exists_display_eq_ok_iff _).1 ⟨s, rfl⟩

end Endpoint.Value
