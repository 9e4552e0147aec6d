import Endpoint.Failure
import Endpoint.Machine

/-!
# Sessions

A session is a machine together with what a caller keeps between steps: candidates and open sockets under names, and
the settings that were shown last. A step gives a result or a failure, the session after it, what was written to
standard error, and the calls on sockets.
-/

namespace Endpoint

/-- A machine and what is kept between steps. -/
structure Session where
  machine : Machine
  candidates : List (String × Candidates)
  sockets : List (String × Socket)
  /-- The number of the settings that were shown last. -/
  shown : Option Nat

/-- What comes of a step. -/
structure Outcome (α : Type) where
  result : Except Failure α
  session : Session
  stderr : String
  events : List SocketEvent

namespace Session

/-- A session in which nothing has happened. -/
def fresh (root time : String) : Session :=
  ⟨.fresh root time, [], [], none⟩

/-- A step that writes nothing and opens no socket. -/
def quiet {α : Type} (s : Session) (result : Except Failure α) : Outcome α :=
  ⟨result, s, "", []⟩

/-- The session with candidates kept under a name. -/
def keepCandidates (s : Session) (name : String) (c : Candidates) : Session :=
  { s with candidates := (name, c) :: s.candidates.filter (·.1 ≠ name) }

/-- The session with a network in the place of its own. -/
def withNetwork (s : Session) (n : Network) : Session :=
  { s with machine := { s.machine with network := n } }

/-- The session with an environment in the place of its own. -/
def withEnvironment (s : Session) (e : Environment) : Session :=
  { s with machine := { s.machine with environment := e } }

/-- The session with files in the place of its own. -/
def withFiles (s : Session) (t : FileTree) : Session :=
  { s with machine := { s.machine with files := t } }

/-- The session with a log in the place of its own. -/
def withLogging (s : Session) (l : Logging) : Session :=
  { s with machine := { s.machine with logging := l } }

@[simp] theorem lookup_keepCandidates (s : Session) (name : String) (c : Candidates) :
    (s.keepCandidates name c).candidates.lookup name = some c := by
  simp only [keepCandidates, List.lookup_cons_self]

theorem lookup_keepCandidates_of_ne {name other : String} (h : other ≠ name) (s : Session) (c : Candidates) :
    (s.keepCandidates name c).candidates.lookup other = s.candidates.lookup other := by
  have hne : (other == name) = false := by simpa using h
  simp only [keepCandidates, List.lookup_cons, hne]
  exact lookup_filter_of_ne h s.candidates

end Session

end Endpoint
