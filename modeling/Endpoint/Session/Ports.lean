import Endpoint.Script
import Endpoint.Session.Basic

/-!
# Steps on candidates

Candidates of a specification are kept under a name and drawn from step by step, by hand or by the binder. The binder
draws only as many as it tries.
-/

namespace Endpoint

/-- Where the binder takes its candidates from. -/
inductive PortSource where
  | listed (ports : List Int)
  | spec (spec : Option String)
  | kept (name : String)

/-- A scan of the binder with the ports that it tried. -/
structure Served (α : Type) where
  outcome : Outcome α
  tried : List Int

namespace Session

/-- Keeps the candidates of a specification under a name. If it is refused, what was kept there stays. -/
def openSpec (s : Session) (name : String) (spec : Option String) : Outcome Unit :=
  match Candidates.ofSpec spec with
  | .error e => s.quiet (.error (.ports e))
  | .ok c => (s.keepCandidates name c).quiet (.ok ())

/-- Draws several ports from the candidates under a name. -/
def draw (s : Session) (name : String) (n : Nat) : Outcome (List (Option Int)) :=
  match s.candidates.lookup name with
  | none => s.quiet (.error (.notKept name))
  | some c =>
    let drawn := c.draw n
    (s.keepCandidates name drawn.2).quiet (.ok drawn.1)

/-- Draws all ports that are left of the candidates under a name. -/
def drawRest (s : Session) (name : String) : Outcome (List Int) :=
  match s.candidates.lookup name with
  | none => s.quiet (.error (.notKept name))
  | some c => (s.keepCandidates name .empty).quiet (.ok c.toList)

/-- The candidates in a source, or why there are none. -/
def candidatesOf (s : Session) : PortSource → Except Failure Candidates
  | .listed ports => .ok (.ofList ports)
  | .spec spec => match Candidates.ofSpec spec with
    | .ok c => .ok c
    | .error e => .error (.ports e)
  | .kept name => match s.candidates.lookup name with
    | some c => .ok c
    | none => .error (.notKept name)

/-- The session after the binder has left some candidates of a source. -/
def leave (s : Session) (source : PortSource) (rest : Candidates) : Session :=
  match source with
  | .kept name => s.keepCandidates name rest
  | _ => s

/-- The result of a scan, or its failure. -/
def resultOf {α : Type} : Binder.Verdict α Interruption → Except Failure α
  | .bound a => .ok a
  | .interrupted i => .error (.interrupted i)
  | .exhausted e => .error (.exhausted e)

/-- Lets the binder try the candidates of a source with a factory that begins in a state. -/
def serveBy {σ α : Type} (s : Session) (address : String) (source : PortSource)
    (factory : Factory σ α Interruption) (state : σ) : Served α :=
  match s.candidatesOf source with
  | .error f => ⟨s.quiet (.error f), []⟩
  | .ok c =>
    let run := Binder.scan address factory c state
    ⟨⟨resultOf run.verdict, s.leave source run.rest, s.machine.logText run.records, []⟩, run.tried⟩

/-- Lets the binder try the candidates of a source with a script. -/
def serve {α : Type} (s : Session) (address : String) (source : PortSource) (script : Script α) : Served α :=
  s.serveBy address source script.factory 0

end Session

end Endpoint
