import Endpoint.Proofs.LogSetup
import Endpoint.Proofs.Scan
import Endpoint.Script
import Endpoint.Session.Ports

/-!
# The trace of a scan in the log

A scan tells the log about each call of its factory, and about its failure if all candidates are refused.

* (records) The records of a scan are those of its calls, one call after the other (`Binder.trace`), and after them the
  one of its failure (`Binder.closing`): `Binder.records_scan`, by induction on the candidates.
* (levels) Calls are recorded with the level `DEBUG` and the failure with the level `WARNING`, so a log with a level
  between the two shows the failure alone: `Binder.areOf_trace` and `Binder.AreOf.filter_eq`.
* (sessions) Together with the level of the last set-up this is what the binder writes in a session:
  `Session.log_traces_calls`.
-/

namespace Endpoint

namespace Binder

variable {σ α ι : Type}

/-- The records of a call: one of the attempt, and one more right after it if the attempt is refused. -/
def callRecords (address : String) (port : Int) : Attempt α ι → List Log.Record
  | .refused why => [tryingRecord address port, refusedRecord port why]
  | _ => [tryingRecord address port]

/-- The records of calls on some ports, by what comes of the calls. -/
def trace (address : String) (ports : List Int) (attempts : List (Attempt α ι)) : List Log.Record :=
  (List.zipWith (callRecords address) ports attempts).flatten

/-- The record of a failure after so many calls, if this is the verdict. -/
def closing (address : String) (calls : Nat) : Verdict α ι → List Log.Record
  | .exhausted _ => [exhaustedRecord address calls]
  | _ => []

private theorem trace_cons (address : String) (p : Int) (ps : List Int) (a : Attempt α ι) (as : List (Attempt α ι)) :
    trace address (p :: ps) (a :: as) = callRecords address p a ++ trace address ps as := by
  simp [trace]

/-- The records of a call stand before those of the calls after it, which begin in the state that it leaves. -/
private theorem trace_tryAll_cons (address : String) (factory : Factory σ α ι) (p : Int) (ps : List Int) (s : σ) :
    trace address (p :: ps) (tryAll factory address (p :: ps) s).1 =
      callRecords address p (factory address p s).1 ++
        trace address ps (tryAll factory address ps (factory address p s).2).1 := by
  rw [tryAll, trace_cons]

private theorem scanFrom_records (address : String) (factory : Factory σ α ι) (tried : List Int)
    (records : List Log.Record)
    (c : Candidates) (s : σ) :
    let run := scanFrom address factory tried records c s
    ∃ ps, run.tried = tried.reverse ++ ps ∧
      run.records = records.reverse ++ trace address ps (tryAll factory address ps s).1 ++
        closing address run.tried.length run.verdict := by
  -- By induction on the candidates left. Each refusal adds two records, so the ones at the beginning may be any.
  fun_induction scanFrom address factory tried records c s with
  | case1 tried records c s h => exact ⟨[], by simp, by simp [trace, tryAll, closing]⟩
  | case2 tried records c s p rest h trying a s' hf =>
    refine ⟨[p], by simp, ?_⟩
    rw [trace_tryAll_cons, hf]
    simp [callRecords, trace, tryAll, closing, trying]
  | case3 tried records c s p rest h trying i s' hf =>
    refine ⟨[p], by simp, ?_⟩
    rw [trace_tryAll_cons, hf]
    simp [callRecords, trace, tryAll, closing, trying]
  | case4 tried records c s p rest h trying why s' hf ih =>
    obtain ⟨ps, htried, hrecords⟩ := ih
    refine ⟨p :: ps, by simp [htried], ?_⟩
    rw [hrecords, trace_tryAll_cons, hf]
    simp [callRecords, trying]

/-- A scan tells the log about its calls in order, and then about its failure. -/
private theorem records_scan (address : String) (factory : Factory σ α ι) (c : Candidates) (s : σ) :
    let run := scan address factory c s
    run.records = trace address run.tried (tryAll factory address run.tried s).1 ++
      closing address run.tried.length run.verdict := by
  obtain ⟨ps, htried, hrecords⟩ := scanFrom_records address factory [] [] c s
  simp only [List.reverse_nil, List.nil_append] at htried hrecords
  subst htried
  exact hrecords

/-! ### Levels -/

/-- Whether records are all from the binder and of one level. -/
def AreOf (level : Int) (rs : List Log.Record) : Prop :=
  ∀ r ∈ rs, r.logger = logger ∧ r.level = level

private theorem areOf_callRecords (address : String) (p : Int) (a : Attempt α ι) :
    AreOf 10 (callRecords address p a) := by
  cases a with
  | bound a => simp [AreOf, callRecords, tryingRecord]
  | refused why => simp [AreOf, callRecords, tryingRecord, refusedRecord]
  | interrupted i => simp [AreOf, callRecords, tryingRecord]

private theorem areOf_trace (address : String) (ps : List Int) (attempts : List (Attempt α ι)) :
    AreOf 10 (trace address ps attempts) := by
  induction ps generalizing attempts with
  | nil => simp [AreOf, trace]
  | cons p ps ih =>
    cases attempts with
    | nil => simp [AreOf, trace]
    | cons a as =>
      intro r hr
      rw [trace_cons, List.mem_append] at hr
      rcases hr with hfirst | hlater
      · exact areOf_callRecords address p a r hfirst
      · exact ih as r hlater

/-- Records of one level reach another level all together or not at all. -/
private theorem AreOf.filter_eq {n : Int} {rs : List Log.Record} (h : AreOf n rs) (level : Int) :
    rs.filter (fun r => level ≤ r.level) = if level ≤ n then rs else [] := by
  split
  · next hle =>
    rw [List.filter_eq_self]
    intro r hr
    simpa [(h r hr).2] using hle
  · next hle =>
    rw [List.filter_eq_nil_iff]
    intro r hr
    simpa [(h r hr).2] using hle

private theorem AreOf.isOwn_and_le {n : Int} {rs : List Log.Record} (h : AreOf n rs) (hn : 1 ≤ n) (l : Logging)
    {r : Log.Record} (hr : r ∈ rs) : l.isOwn r.logger = true ∧ 1 ≤ r.level := by
  obtain ⟨hlogger, hlevel⟩ := h r hr
  have hown : l.isOwn logger = true := Logging.isOwn_of_isWithin Command.isWithin_logger l
  exact ⟨hlogger ▸ hown, hlevel ▸ hn⟩

end Binder

/-! ### Binder calls in a session -/

namespace Session

open Binder

variable {σ α : Type}

private theorem closing_eq_of_resultOf (address : String) (calls : Nat) (v : Verdict α Interruption) :
    closing address calls v = match resultOf v with
      | .error (.exhausted _) => [exhaustedRecord address calls]
      | _ => [] := by
  cases v with
  | bound a => rfl
  | interrupted i => rfl
  | exhausted e => rfl

private theorem candidatesOf_ne_exhausted {s : Session} {source : PortSource} {f : Failure}
    (h : s.candidatesOf source = .error f) (e : PortsExhausted) : f ≠ .exhausted e := by
  rintro rfl
  cases source with
  | listed ports => cases h
  | spec spec =>
    rw [candidatesOf] at h
    split at h <;> cases h
  | kept name =>
    rw [candidatesOf] at h
    split at h <;> cases h

/-- The binder hands the trace of its calls to the log, and the record of its failure if it fails itself. -/
private theorem stderr_serveBy (s : Session) (address : String) (source : PortSource)
    (factory : Factory σ α Interruption)
    (state : σ) :
    let served := s.serveBy address source factory state
    let calls := trace address served.tried (tryAll factory address served.tried state).1
    served.outcome.stderr = s.machine.logText (calls ++ match served.outcome.result with
      | .error (.exhausted _) => [exhaustedRecord address served.tried.length]
      | _ => []) := by
  unfold serveBy
  cases hc : s.candidatesOf source with
  | error f =>
    have hne := candidatesOf_ne_exhausted hc
    cases f with
    | exhausted e => exact absurd rfl (hne e)
    | _ => rfl
  | ok c =>
    dsimp only
    rw [← closing_eq_of_resultOf, ← records_scan]

/-- Another log changes neither the result nor the calls nor what is kept. -/
private theorem serveBy_withLogging (s : Session) (l : Logging) (address : String) (source : PortSource)
    (factory : Factory σ α Interruption) (state : σ) :
    let served := s.serveBy address source factory state
    let other := (s.withLogging l).serveBy address source factory state
    other.outcome.result = served.outcome.result ∧ other.tried = served.tried ∧
      other.outcome.session = served.outcome.session.withLogging l := by
  have hsame : (s.withLogging l).candidatesOf source = s.candidatesOf source := by
    cases source with
    | listed ports => rfl
    | spec spec => rfl
    | kept name => rfl
  unfold serveBy
  rw [hsame]
  cases s.candidatesOf source with
  | error f => exact ⟨rfl, rfl, rfl⟩
  | ok c =>
    refine ⟨rfl, rfl, ?_⟩
    cases source with
    | listed ports => rfl
    | spec spec => rfl
    | kept name => rfl

/-- Where the level of the last set-up is `DEBUG` or below, a binder call writes one record with the port for each call of
its factory, in order, and right after it one with the port and the reason if the call is refused. In the end there is
one with the number of calls if the binder fails because all candidates are refused. With a level above `DEBUG` and up
to `WARNING` this last one is written alone. The result, the calls and all that is kept do not depend on the log. -/
theorem log_traces_calls (s : Session) (h : s.machine.logging.Tidy) (steps : List LogStep) {level : Int}
    (hlast : (s.levelsSet steps).getLast? = some level) (address : String) (source : PortSource)
    (factory : Factory σ α Interruption) (state : σ) :
    let now := s.runLog steps
    let served := now.serveBy address source factory state
    let calls := trace address served.tried (tryAll factory address served.tried state).1
    let failure := match served.outcome.result with
      | .error (.exhausted _) => [exhaustedRecord address served.tried.length]
      | _ => []
    let text := fun rs => String.join (rs.map (Log.line now.machine.time))
    (1 ≤ level → level ≤ 10 → served.outcome.stderr = text (calls ++ failure)) ∧
      (11 ≤ level → level ≤ 30 → served.outcome.stderr = text failure) ∧
      ∀ l, let other := (now.withLogging l).serveBy address source factory state
        other.outcome.result = served.outcome.result ∧ other.tried = served.tried ∧
          other.outcome.session = served.outcome.session.withLogging l := by
  intro now served calls failure text
  have hset : now.machine.logging.IsSetTo level := isSetTo_runLog h hlast
  have hcalls : AreOf 10 calls := areOf_trace _ _ _
  have hfailure : AreOf 30 failure := by
    simp only [failure]
    split
    · simp [AreOf, exhaustedRecord]
    · simp [AreOf]
  have hown : ∀ r ∈ calls ++ failure, now.machine.logging.isOwn r.logger = true ∧ 1 ≤ r.level := by
    intro r hr
    rcases List.mem_append.1 hr with hr | hr
    · exact hcalls.isOwn_and_le (by decide) _ hr
    · exact hfailure.isOwn_and_le (by decide) _ hr
  have hshown : 1 ≤ level → served.outcome.stderr =
      text ((if level ≤ 10 then calls else []) ++ if level ≤ 30 then failure else []) := by
    intro hlevel
    rw [stderr_serveBy, Machine.logText, hset.emitAll_eq hlevel _ hown, List.filter_append,
      hcalls.filter_eq, hfailure.filter_eq]
  refine ⟨?_, ?_, fun l => now.serveBy_withLogging l address source factory state⟩
  · intro hlow hhigh
    rw [hshown hlow, if_pos hhigh, if_pos (by omega)]
  · intro hlow hhigh
    rw [hshown (by omega), if_neg (by omega), if_pos hhigh, List.nil_append]

/-- The first port is in use, and for the second one the factory has let another binder try, which has failed. Both
calls are written as refused, and neither is written after the log is set up again. -/
theorem log_traces_calls_refused :
    let s := fresh "/r" "12:00"
    let script : Script Unit := ⟨[], [.refused true [.int 98, .text "busy"], .exhausted "::1" "3"], .bound ()⟩
    let steps : List LogStep := [.setUp (.text "debug")]
    let more := steps ++ [.setUp (.int 30)]
    let served := (s.runLog steps).serveBy "::" (.listed [7, 8]) script.factory 0
    let servedLater := (s.runLog more).serveBy "::" (.listed [7, 8]) script.factory 0
    s.machine.logging.Tidy ∧ (s.levelsSet steps).getLast? = some 10 ∧ (s.levelsSet more).getLast? = some 30 ∧
      served.outcome.stderr =
        "[12:00] hostport.utils.ports - DEBUG - Trying to open socket on :: port 7\n" ++
        "[12:00] hostport.utils.ports - DEBUG - Unable to allocate socket on port 7: [Errno 98] busy\n" ++
        "[12:00] hostport.utils.ports - DEBUG - Trying to open socket on :: port 8\n" ++
        "[12:00] hostport.utils.ports - DEBUG - Unable to allocate socket on port 8: " ++
        "[Errno 98] Unable to allocate a socket on ::1: all 3 candidate ports failed\n" ++
        "[12:00] hostport.utils.ports - WARNING - No free port on :: after 2 attempt(s)\n" ∧
      servedLater.outcome.stderr = "[12:00] hostport.utils.ports - WARNING - No free port on :: after 2 attempt(s)\n" ∧
      servedLater.tried = served.tried := by
  intro s script steps more served servedLater
  have htidy : s.machine.logging.Tidy := Or.inl rfl
  have hdebug : (s.levelsSet steps).getLast? = some 10 := by decide +kernel
  have hwarning : (s.levelsSet more).getLast? = some 30 := by decide +kernel
  obtain ⟨hall, -, -⟩ := log_traces_calls s htidy steps hdebug "::" (.listed [7, 8]) script.factory 0
  obtain ⟨-, hlast, hsame⟩ := log_traces_calls s htidy more hwarning "::" (.listed [7, 8]) script.factory 0
  refine ⟨htidy, hdebug, hwarning, ?_, ?_, ?_⟩
  · rw [hall (by decide) (by decide)]
    decide +kernel
  · rw [hlast (by decide) (by decide)]
    decide +kernel
  · obtain ⟨-, htried, -⟩ := hsame (s.runLog steps).machine.logging
    exact htried.symm

end Session

end Endpoint
