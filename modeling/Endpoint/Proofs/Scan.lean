import Endpoint.Binder

/-!
# Scans and the attempts they make

A scan of candidates is compared with `tryAll`, which calls a factory on ports one after the other and takes note of
every outcome. The key fact is `scanFrom_spec`, by induction on the candidates: a scan calls the factory on a prefix of
its candidates and on nothing else, and what comes of these calls decides its verdict (`Settles`). What every refusal
keeps still holds when the scan ends (`scan_carries`). Where refusals change nothing for other ports (`Independent`), every
outcome is the one in the state before the scan (`tryAll_eq_map`), so a scan ends with the first port that is not refused
there (`exists_first_of_scan_eq_bound`).
-/

namespace Endpoint

/-- Whether an attempt is refused, so that a scan goes on after it. -/
def Attempt.IsRefused {α ι : Type} : Attempt α ι → Prop
  | .refused _ => True
  | _ => False

namespace Binder

variable {σ α ι : Type}

/-- What comes of calling a factory on ports in order and once each, and the state after the last call. -/
def tryAll (factory : Factory σ α ι) (address : String) : List Int → σ → List (Attempt α ι) × σ
  | [], s => ([], s)
  | p :: ps, s =>
    let first := factory address p s
    let more := tryAll factory address ps first.2
    (first.1 :: more.1, more.2)

private theorem length_tryAll (factory : Factory σ α ι) (address : String) (ps : List Int) (s : σ) :
    (tryAll factory address ps s).1.length = ps.length := by
  induction ps generalizing s with
  | nil => rfl
  | cons p ps ih => simp [tryAll, ih]

/-- Whether attempts lead to a verdict: the last of them is the only one that is not refused, or all of them are
refused. In the latter case `earlier` refusals came before them. -/
def Settles (address : String) (earlier : Nat) (attempts : List (Attempt α ι)) : Verdict α ι → Prop
  | .bound a => ∃ refusals, (∀ r ∈ refusals, r.IsRefused) ∧ attempts = refusals ++ [.bound a]
  | .interrupted i => ∃ refusals, (∀ r ∈ refusals, r.IsRefused) ∧ attempts = refusals ++ [.interrupted i]
  | .exhausted e => (∀ r ∈ attempts, r.IsRefused) ∧ e = ⟨address, earlier + attempts.length⟩

/-- A refusal before the attempts does not change what they lead to. -/
private theorem Settles.refused_cons {address : String} {earlier : Nat} {attempts : List (Attempt α ι)}
    {v : Verdict α ι}
    (h : Settles address (earlier + 1) attempts v) (why : String) :
    Settles address earlier (.refused why :: attempts) v := by
  cases v with
  | bound a =>
    obtain ⟨refusals, hr, rfl⟩ := h
    exact ⟨.refused why :: refusals, by simpa [Attempt.IsRefused] using hr, rfl⟩
  | interrupted i =>
    obtain ⟨refusals, hr, rfl⟩ := h
    exact ⟨.refused why :: refusals, by simpa [Attempt.IsRefused] using hr, rfl⟩
  | exhausted e =>
    obtain ⟨hr, rfl⟩ := h
    refine ⟨by simpa [Attempt.IsRefused] using hr, ?_⟩
    simp only [List.length_cons, PortsExhausted.mk.injEq, true_and]
    omega

/-- A scan under way tries a prefix `ps` of its candidates. Candidates are left over unless all of them are refused. -/
private theorem scanFrom_spec (address : String) (factory : Factory σ α ι) (tried : List Int)
    (records : List Log.Record)
    (c : Candidates) (s : σ) :
    let run := scanFrom address factory tried records c s
    ∃ ps, run.tried = tried.reverse ++ ps ∧ ps ++ run.rest.toList = c.toList ∧
      run.state = (tryAll factory address ps s).2 ∧
      Settles address tried.length (tryAll factory address ps s).1 run.verdict ∧
      (∀ e, run.verdict = .exhausted e → run.rest.toList = []) := by
  -- By induction on the candidates left. The ports tried before are only counted, so `tried` may grow with each refusal.
  fun_induction scanFrom address factory tried records c s with
  | case1 tried records c s h =>
    have hnil : c.toList = [] := Candidates.toList_eq_nil_of_next? h
    exact ⟨[], by simp, by simp, rfl, by simp [Settles, tryAll], fun _ _ => hnil⟩
  | case2 tried records c s p rest h trying a s' hf =>
    refine ⟨[p], by simp, by simp [Candidates.toList_eq_of_next? h], by simp [tryAll, hf], ?_, by simp⟩
    exact ⟨[], by simp, by simp [tryAll, hf]⟩
  | case3 tried records c s p rest h trying i s' hf =>
    refine ⟨[p], by simp, by simp [Candidates.toList_eq_of_next? h], by simp [tryAll, hf], ?_, by simp⟩
    exact ⟨[], by simp, by simp [tryAll, hf]⟩
  | case4 tried records c s p rest h trying why s' hf ih =>
    -- The rest of the scan counts this refusal among the earlier ones, here it is the first attempt.
    obtain ⟨ps, htried, hps, hstate, hverdict, hrest⟩ := ih
    refine ⟨p :: ps, by simp [htried], by simp [Candidates.toList_eq_of_next? h, ← hps], ?_, ?_, hrest⟩
    · simp [tryAll, hf, hstate]
    · have := hverdict.refused_cons why
      simpa [tryAll, hf] using this

/-- A scan tries a prefix of its candidates, and what comes of this decides its verdict. -/
theorem scan_spec (address : String) (factory : Factory σ α ι) (c : Candidates) (s : σ) :
    let run := scan address factory c s
    run.tried ++ run.rest.toList = c.toList ∧ run.state = (tryAll factory address run.tried s).2 ∧
      Settles address 0 (tryAll factory address run.tried s).1 run.verdict ∧
      (∀ e, run.verdict = .exhausted e → run.rest.toList = []) := by
  obtain ⟨ps, htried, hps, hstate, hverdict, hrest⟩ := scanFrom_spec address factory [] [] c s
  rw [List.reverse_nil, List.nil_append] at htried
  subst htried
  exact ⟨hps, hstate, hverdict, hrest⟩

theorem scanFrom_of_next? {c d : Candidates} {p : Int} (h : c.next? = some (p, d)) (address : String)
    (factory : Factory σ α ι) (tried : List Int) (records : List Log.Record) (s : σ) :
    scanFrom address factory tried records c s =
      let trying := tryingRecord address p :: records
      match factory address p s with
      | (.bound a, s') => ⟨.bound a, (p :: tried).reverse, d, s', trying.reverse⟩
      | (.interrupted i, s') => ⟨.interrupted i, (p :: tried).reverse, d, s', trying.reverse⟩
      | (.refused why, s') => scanFrom address factory (p :: tried) (refusedRecord p why :: trying) d s' := by
  rw [scanFrom.eq_def]
  split
  · next hnone =>
    rw [h] at hnone
    cases hnone
  · next q rest hsome =>
    rw [h] at hsome
    cases hsome
    rfl

theorem scanFrom_of_next?_eq_none {c : Candidates} (h : c.next? = none) (address : String) (factory : Factory σ α ι)
    (tried : List Int) (records : List Log.Record) (s : σ) :
    scanFrom address factory tried records c s =
      ⟨.exhausted ⟨address, tried.length⟩, tried.reverse, c, s,
        (exhaustedRecord address tried.length :: records).reverse⟩ := by
  rw [scanFrom.eq_def]
  split
  · rfl
  · next hsome =>
    rw [h] at hsome
    cases hsome

/-- Whether attempts keep a property of the state as long as they are refused, and the one that is not leads to what is to
hold after its verdict. -/
def Carries (factory : Factory σ α ι) (address : String) (before : σ → Prop) (after : Verdict α ι → σ → Prop) : Prop :=
  ∀ p s, before s → match factory address p s with
    | (.bound a, s') => after (.bound a) s'
    | (.interrupted i, s') => after (.interrupted i) s'
    | (.refused _, s') => before s'

private theorem scanFrom_carries {factory : Factory σ α ι} {address : String} {before : σ → Prop}
    {after : Verdict α ι → σ → Prop} (hstep : Carries factory address before after)
    (hend : ∀ e s, before s → after (.exhausted e) s) (tried : List Int) (records : List Log.Record) (c : Candidates)
    (s : σ) (hs : before s) :
    let run := scanFrom address factory tried records c s
    after run.verdict run.state := by
  -- By induction on the candidates left, where each refusal hands the property on to the rest of the scan.
  fun_induction scanFrom address factory tried records c s with
  | case1 tried records c s h => exact hend _ s hs
  | case2 tried records c s p rest h trying a s' hf =>
    have := hstep p s hs
    rwa [hf] at this
  | case3 tried records c s p rest h trying i s' hf =>
    have := hstep p s hs
    rwa [hf] at this
  | case4 tried records c s p rest h trying why s' hf ih =>
    have := hstep p s hs
    rw [hf] at this
    exact ih this

/-- What every refusal keeps leads to the property of the verdict that a scan ends with. -/
theorem scan_carries {factory : Factory σ α ι} {address : String} {before : σ → Prop} {after : Verdict α ι → σ → Prop}
    (hstep : Carries factory address before after) (hend : ∀ e s, before s → after (.exhausted e) s) (c : Candidates)
    (s : σ) (hs : before s) :
    let run := scan address factory c s
    after run.verdict run.state :=
  scanFrom_carries hstep hend [] [] c s hs

/-! ### Refusals that change nothing else -/

private theorem Settles.isRefused_of_mem_dropLast {address : String} {earlier : Nat} {attempts : List (Attempt α ι)}
    {v : Verdict α ι} (h : Settles address earlier attempts v) {r : Attempt α ι} (hr : r ∈ attempts.dropLast) :
    r.IsRefused := by
  cases v with
  | bound a =>
    obtain ⟨refusals, hrefused, rfl⟩ := h
    rw [List.dropLast_concat] at hr
    exact hrefused r hr
  | interrupted i =>
    obtain ⟨refusals, hrefused, rfl⟩ := h
    rw [List.dropLast_concat] at hr
    exact hrefused r hr
  | exhausted e => exact h.1 r (List.dropLast_subset _ hr)

/-- Whether the refusal of a port does not change what comes of trying any other port. -/
def Independent (factory : Factory σ α ι) (address : String) : Prop :=
  ∀ p s, (factory address p s).1.IsRefused → ∀ q, q ≠ p →
    (factory address q (factory address p s).2).1 = (factory address q s).1

/-- As long as ports are refused, different ports come to what each of them comes to at first. -/
private theorem tryAll_eq_map {factory : Factory σ α ι} {address : String} (hf : Independent factory address)
    {ps : List Int}
    (hps : ps.Nodup) {s : σ} (h : ∀ r ∈ (tryAll factory address ps s).1.dropLast, r.IsRefused) :
    (tryAll factory address ps s).1 = ps.map fun p => (factory address p s).1 := by
  induction ps generalizing s with
  | nil => rfl
  | cons p ps ih =>
    cases ps with
    | nil => rfl
    | cons q qs =>
      obtain ⟨hp, hqs⟩ := List.nodup_cons.1 hps
      have hrefused : (factory address p s).1.IsRefused := h _ (by simp [tryAll])
      have hlater : ∀ r ∈ (tryAll factory address (q :: qs) (factory address p s).2).1.dropLast, r.IsRefused :=
        fun r hr => h r (by rw [tryAll]; exact List.mem_cons_of_mem _ hr)
      have hsame : ∀ x ∈ q :: qs, (factory address x (factory address p s).2).1 = (factory address x s).1 := by
        intro x hx
        exact hf p s hrefused x fun hxp => hp (hxp ▸ hx)
      rw [tryAll, List.map_cons, ih hqs hlater, List.map_congr_left hsame]

/-- Where refusals change nothing else and no candidate comes twice, the verdict is settled by what each of the ports
tried comes to at first. -/
private theorem settles_map_of_independent {factory : Factory σ α ι} {address : String}
    (hf : Independent factory address)
    {c : Candidates} (hc : c.toList.Nodup) (s : σ) :
    let run := scan address factory c s
    Settles address 0 (run.tried.map fun p => (factory address p s).1) run.verdict := by
  obtain ⟨hall, -, hverdict, -⟩ := scan_spec address factory c s
  have htried : (scan address factory c s).tried.Nodup := by
    rw [← hall] at hc
    exact (List.nodup_append.1 hc).1
  rw [tryAll_eq_map hf htried fun r hr => hverdict.isRefused_of_mem_dropLast hr] at hverdict
  exact hverdict

theorem exists_first_of_scan_eq_bound {factory : Factory σ α ι} {address : String} (hf : Independent factory address)
    {c : Candidates} (hc : c.toList.Nodup) {s : σ} {a : α} (h : (scan address factory c s).verdict = .bound a) :
    ∃ before p after, c.toList = before ++ p :: after ∧ (∀ q ∈ before, (factory address q s).1.IsRefused) ∧
      (factory address p s).1 = .bound a := by
  have hsettles := settles_map_of_independent hf hc s
  obtain ⟨hall, -⟩ := scan_spec address factory c s
  dsimp only at hsettles
  rw [h] at hsettles
  obtain ⟨refusals, hrefused, hattempts⟩ := hsettles
  obtain ⟨before, last, htried, hbefore, hlast⟩ := List.map_eq_append_iff.1 hattempts
  obtain ⟨p, rfl, hp⟩ := List.map_eq_singleton_iff.1 hlast
  refine ⟨before, p, (scan address factory c s).rest.toList, ?_, ?_, hp⟩
  · rw [← hall, htried, List.append_assoc]
    rfl
  · intro q hq
    apply hrefused
    rw [← hbefore]
    exact List.mem_map_of_mem hq

theorem of_scan_eq_exhausted {factory : Factory σ α ι} {address : String} (hf : Independent factory address)
    {c : Candidates} (hc : c.toList.Nodup) {s : σ} {e : PortsExhausted}
    (h : (scan address factory c s).verdict = .exhausted e) :
    (∀ q ∈ c.toList, (factory address q s).1.IsRefused) ∧ e = ⟨address, c.toList.length⟩ := by
  have hsettles := settles_map_of_independent hf hc s
  obtain ⟨hall, -, -, hrest⟩ := scan_spec address factory c s
  rw [hrest e h, List.append_nil] at hall
  dsimp only at hsettles
  rw [h, hall] at hsettles
  obtain ⟨hrefused, rfl⟩ := hsettles
  refine ⟨fun q hq => hrefused _ (List.mem_map_of_mem hq), ?_⟩
  simp

/-- A scan without candidates fails at once. -/
theorem scan_of_toList_eq_nil {c : Candidates} (h : c.toList = []) (address : String) (factory : Factory σ α ι) (s : σ) :
    (scan address factory c s).verdict = .exhausted ⟨address, 0⟩ ∧ (scan address factory c s).tried = [] := by
  obtain ⟨hall, -, hverdict, -⟩ := scan_spec address factory c s
  rw [h, List.append_eq_nil_iff] at hall
  rw [hall.1, tryAll] at hverdict
  refine ⟨?_, hall.1⟩
  cases hv : (scan address factory c s).verdict with
  | bound a =>
    rw [hv] at hverdict
    obtain ⟨refusals, -, hlast⟩ := hverdict
    simp at hlast
  | interrupted i =>
    rw [hv] at hverdict
    obtain ⟨refusals, -, hlast⟩ := hverdict
    simp at hlast
  | exhausted e =>
    rw [hv] at hverdict
    obtain ⟨-, rfl⟩ := hverdict
    rfl

/-- A scan calls its factory on the candidates in order and once each, up to the first attempt that is not refused, and
what comes of that attempt is its verdict. If all attempts are refused, the verdict tells the address and the number of
candidates. The candidates after the ones tried are left, in every case. -/
theorem scan_tries_shortest_prefix (address : String) (factory : Factory σ α ι) (c : Candidates) (s : σ) :
    let run := scan address factory c s
    let made := tryAll factory address run.tried s
    run.tried ++ run.rest.toList = c.toList ∧ run.state = made.2 ∧
      match run.verdict with
      | .bound a => ∃ refusals, (∀ r ∈ refusals, r.IsRefused) ∧ made.1 = refusals ++ [.bound a]
      | .interrupted i => ∃ refusals, (∀ r ∈ refusals, r.IsRefused) ∧ made.1 = refusals ++ [.interrupted i]
      | .exhausted e => (∀ r ∈ made.1, r.IsRefused) ∧ run.rest.toList = [] ∧ PortsExhausted.errno = 98 ∧
          e.address = address ∧ e.attempts = c.toList.length := by
  intro run made
  obtain ⟨hall, hstate, (hverdict : Settles address 0 made.1 run.verdict), hrest⟩ := scan_spec address factory c s
  refine ⟨hall, hstate, ?_⟩
  split
  · next a hv =>
    rw [hv] at hverdict
    exact hverdict
  · next i hv =>
    rw [hv] at hverdict
    exact hverdict
  · next e hv =>
    have hnil : run.rest.toList = [] := hrest e hv
    have htried : run.tried = c.toList := by rw [← hall, hnil, List.append_nil]
    rw [hv] at hverdict
    obtain ⟨hrefused, rfl⟩ := hverdict
    refine ⟨hrefused, hnil, rfl, rfl, ?_⟩
    simp [made, length_tryAll, htried]

end Binder

end Endpoint
