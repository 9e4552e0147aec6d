/-!
# What surrounds a program

The variables that are set, the home directory that the system has on record for the user, and where in memory objects
come to lie.
-/

namespace Endpoint

theorem lookup_filter_self {α : Type} (key : String) (es : List (String × α)) :
    (es.filter (·.1 ≠ key)).lookup key = none := by
  rw [List.lookup_eq_none_iff]
  intro e he
  have hne : e.1 ≠ key := by simpa using (List.mem_filter.1 he).2
  simpa using hne.symm

theorem lookup_filter_of_ne {α : Type} {key other : String} (h : other ≠ key) (es : List (String × α)) :
    (es.filter (·.1 ≠ key)).lookup other = es.lookup other := by
  have hne : (other == key) = false := by simpa using h
  induction es with
  | nil => rfl
  | cons e r ih =>
    obtain ⟨k, v⟩ := e
    by_cases hk : k = key
    · subst hk
      rw [List.filter_cons_of_neg (by simp), ih, List.lookup_cons, hne]
    · rw [List.filter_cons_of_pos (by simpa using hk), List.lookup_cons, List.lookup_cons, ih]

/-- The surroundings of a program. -/
structure Environment where
  /-- The variables with their texts; of several entries for a name the first counts. -/
  vars : List (String × String)
  /-- The home directory on record, if there is one. -/
  account : Option String
  /-- Where the objects of a document lie, by their places in it. -/
  memory : List Nat → Nat

namespace Environment

/-- Surroundings of which only variables are known. -/
def ofVars (vars : List (String × String)) : Environment :=
  ⟨vars, none, fun _ => 0⟩

/-- The text of a variable, if it is set. -/
def get? (e : Environment) (name : String) : Option String :=
  e.vars.lookup name

/-- The environment without a variable. -/
def unset (e : Environment) (name : String) : Environment :=
  { e with vars := e.vars.filter fun v => v.1 ≠ name }

/-- The environment with a variable set to a text. -/
def set (e : Environment) (name value : String) : Environment :=
  { e with vars := (name, value) :: (e.unset name).vars }

theorem get?_unset (e : Environment) (name other : String) :
    (e.unset name).get? other = if other = name then none else e.get? other := by
  by_cases h : other = name
  · subst h
    rw [if_pos rfl]
    exact lookup_filter_self other e.vars
  · rw [if_neg h]
    exact lookup_filter_of_ne h e.vars

theorem get?_set (e : Environment) (name value other : String) :
    (e.set name value).get? other = if other = name then some value else e.get? other := by
  by_cases h : other = name
  · subst h
    rw [if_pos rfl]
    exact List.lookup_cons_self
  · have hne : (other == name) = false := by simpa using h
    rw [if_neg h, get?, set, List.lookup_cons, hne]
    exact lookup_filter_of_ne h e.vars

end Environment

end Endpoint
