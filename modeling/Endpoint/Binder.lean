import Endpoint.Log.Basic
import Endpoint.Ports.Candidates

/-!
# Binding to the first port that works

`Binder.scan` draws candidates one after the other and tries each, until an attempt is not refused. An attempt gives a
handle, is refused with a reason, or is interrupted; a refusal only moves the scan on.

The log of a scan has one record for each attempt, one for each refusal after it, and one if all candidates fail.
-/

namespace Endpoint

/-- What comes of trying one port. -/
inductive Attempt (α ι : Type) where
  | bound (handle : α)
  | refused (reason : String)
  | interrupted (by_ : ι)

/-- A way to try a port on an address, which may depend on a state and change it. -/
abbrev Factory (σ α ι : Type) := String → Int → σ → Attempt α ι × σ

/-- All candidate ports failed. -/
structure PortsExhausted where
  address : String
  attempts : Nat
  deriving DecidableEq, Repr

namespace PortsExhausted

/-- The code of "address already in use". -/
def errno : Nat := 98

/-- The wording of a failure of so many attempts on an address. -/
def wording (address attempts : String) : String :=
  "[Errno " ++ toString errno ++ "] Unable to allocate a socket on " ++ address ++ ": all " ++ attempts ++
    " candidate ports failed"

/-- The wording of the failure. -/
def message (e : PortsExhausted) : String :=
  wording e.address (toString e.attempts)

end PortsExhausted

namespace Binder

/-- What comes of trying all candidates. -/
inductive Verdict (α ι : Type) where
  | bound (handle : α)
  | interrupted (by_ : ι)
  /-- Every attempt was refused. -/
  | exhausted (failure : PortsExhausted)

/-- A finished scan: its verdict, the ports tried, the candidates left, the state, and the records for the log. -/
structure Scan (σ α ι : Type) where
  verdict : Verdict α ι
  tried : List Int
  rest : Candidates
  state : σ
  records : List Log.Record

/-- The logger of the binder. -/
def logger : String := "hostport.utils.ports"

/-- The record of an attempt. -/
def tryingRecord (address : String) (port : Int) : Log.Record :=
  ⟨logger, 10, "Trying to open socket on " ++ address ++ " port " ++ toString port⟩

/-- The record of a refusal. -/
def refusedRecord (port : Int) (reason : String) : Log.Record :=
  ⟨logger, 10, "Unable to allocate socket on port " ++ toString port ++ ": " ++ reason⟩

/-- The record of a scan without success. -/
def exhaustedRecord (address : String) (attempts : Nat) : Log.Record :=
  ⟨logger, 30, "No free port on " ++ address ++ " after " ++ toString attempts ++ " attempt(s)"⟩

/-- A scan that has tried some ports already and written some records, both with the latest first. -/
def scanFrom {σ α ι : Type} (address : String) (factory : Factory σ α ι) (tried : List Int)
    (records : List Log.Record) (c : Candidates) (s : σ) : Scan σ α ι :=
  match _h : c.next? with
  | none =>
    ⟨.exhausted ⟨address, tried.length⟩, tried.reverse, c, s,
      (exhaustedRecord address tried.length :: records).reverse⟩
  | some (p, rest) =>
    let trying := tryingRecord address p :: records
    match factory address p s with
    | (.bound a, s') => ⟨.bound a, (p :: tried).reverse, rest, s', trying.reverse⟩
    | (.interrupted i, s') => ⟨.interrupted i, (p :: tried).reverse, rest, s', trying.reverse⟩
    | (.refused why, s') => scanFrom address factory (p :: tried) (refusedRecord p why :: trying) rest s'
termination_by c.size
decreasing_by
  have := Candidates.size_of_next? _h
  omega

/-- Tries the candidates in order until an attempt is not refused. -/
def scan {σ α ι : Type} (address : String) (factory : Factory σ α ι) (c : Candidates) (s : σ) : Scan σ α ι :=
  scanFrom address factory [] [] c s

end Binder

end Endpoint
