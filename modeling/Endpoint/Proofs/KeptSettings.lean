import Endpoint.Proofs.SettingsFile
import Endpoint.Proofs.SettingsUse
import Endpoint.Session.Output
import Endpoint.Session.Settings

/-!
# Settings that are kept between steps

The steps of a session change the environment and the files, load the settings or ask for them, assign to the ones that
are kept, and run whole commands (`SettingsStep`).

* (one step) A step either leaves the settings that are kept, with what it assigns to them, or it keeps new ones that it
  has loaded. It does the latter only if it is a reload or if nothing was kept: `SettingsStep.after_cases`. A step that
  fails to load settings leaves the kept ones alone: `SettingsStep.cache_of_failure`.
* (many steps) So settings stay with their number and with what is assigned to them up to the next reload that succeeds,
  and what is kept was loaded as a whole: `settings_kept_until_reload`.
-/

namespace Endpoint

/-- An outcome without what the step gives. -/
def Outcome.ended {α : Type} (o : Outcome α) : Outcome Unit :=
  ⟨o.result.map fun _ => (), o.session, o.stderr, o.events⟩

private theorem ConfigCache.modify_id (k : ConfigCache) : k.modify id = k := by
  cases h : k.kept with
  | none => rw [modify, h, Option.map_none, ← h]
  | some c => rw [modify, h, Option.map_some, id, ← h]

private theorem ConfigCache.kept_modify {k : ConfigCache} {n : Nat} {c : Config} (h : k.kept = some (n, c))
    (f : Config → Config) : (k.modify f).kept = some (n, f c) := by
  rw [modify, h, Option.map_some]

private theorem ConfigCache.modify_congr {k : ConfigCache} {n : Nat} {c : Config} (h : k.kept = some (n, c))
    {f g : Config → Config} (hfg : f c = g c) : k.modify f = k.modify g := by
  rw [modify, modify, h, Option.map_some, Option.map_some, hfg]

private theorem ConfigCache.modify_of_none {k : ConfigCache} (h : k.kept = none) (f : Config → Config) :
    k.modify f = k := by
  rw [modify, h, Option.map_none, ← h]

namespace Session

def keptSettings (s : Session) : Option (Nat × Config) :=
  s.machine.cache.kept

/-- A step of a session on settings or what they are loaded from. -/
inductive SettingsStep where
  | changeEnvironment (unset : List String) (set : List (String × String))
  | writeFile (path : String) (bytes : List Nat)
  | makeDirectory (path : String)
  | removeFile (path : String)
  | loadConfig
  | getConfig
  | reloadConfig
  | assign (part key : String) (v : Value)
  | wildcard (prefer : Option Bool)
  | command (args : List String)

namespace SettingsStep

def outcome (s : Session) : SettingsStep → Outcome Unit
  | .changeEnvironment unset set => s.changeEnvironment unset set
  | .writeFile path bytes => s.writeFile path bytes
  | .makeDirectory path => s.makeDirectory path
  | .removeFile path => s.removeFile path
  | .loadConfig => s.loadConfig.ended
  | .getConfig => s.getConfig.ended
  | .reloadConfig => s.reloadConfig.ended
  | .assign part key v => (s.assign part key v).ended
  | .wildcard prefer => (s.wildcard prefer).ended
  | .command args => (s.runCommand args).outcome.ended

def after (s : Session) (st : SettingsStep) : Session :=
  (st.outcome s).session

/-- What a step assigns to settings that are kept. -/
def edit : SettingsStep → Config → Config
  | .assign part key v, c => (c.assign? part key v).getD c
  | _, c => c

/-- Whether a step is a reload that succeeds. -/
def Renews (s : Session) (st : SettingsStep) : Prop :=
  st = .reloadConfig ∧ (st.outcome s).result = .ok ()

/-- What some steps assign to settings that are kept. -/
def edits (sts : List SettingsStep) (c : Config) : Config :=
  sts.foldl (fun c st => st.edit c) c

end SettingsStep

def runSettings (s : Session) : List SettingsStep → Session
  | [] => s
  | st :: sts => runSettings (st.after s) sts

/-- Whether one of some steps is a reload that succeeds. -/
def Renewed (s : Session) : List SettingsStep → Prop
  | [] => False
  | st :: sts => st.Renews s ∨ Renewed (st.after s) sts

/-! ### One step -/

theorem loadConfig_session (s : Session) : s.loadConfig.session = s := by
  unfold loadConfig
  split <;> rfl

/-- To remove a file fails and leaves the session as it is, or changes nothing but the files. -/
theorem removeFile_cases (s : Session) (path : String) :
    s.removeFile path = s.quiet (.error (.noFile path)) ∨
      ∃ t, s.removeFile path = (s.withFiles t).quiet (.ok ()) := by
  unfold removeFile
  cases s.machine.files.remove? (.ofString path) with
  | none => exact Or.inl rfl
  | some t => exact Or.inr ⟨t, rfl⟩

theorem getConfig_machine (s : Session) : s.getConfig.session.machine = s.machine.getConfig.2 := by
  unfold getConfig showing
  split
  · next hget => rw [hget]; rfl
  · next hget => rw [hget]; rfl

theorem wildcard_machine (s : Session) : (s.wildcard none).session.machine = s.machine.getConfig.2 := by
  unfold wildcard
  dsimp only
  split
  · next hget => rw [hget]; rfl
  · next hget => rw [hget]; rfl

theorem getConfig_of_kept {s : Session} {n : Nat} {c : Config} (h : s.keptSettings = some (n, c)) :
    s.getConfig = { s with shown := some n }.quiet (.ok ⟨c, s.shown == some n⟩) := by
  have hget : s.machine.getConfig = (.ok (n, c), s.machine) := by
    rw [Machine.getConfig, ConfigCache.get_of_kept h]
  rw [getConfig, hget]
  rfl

private theorem reloadConfig_of_ok {s : Session} {c : Config} (h : s.machine.loadConfig = .ok c) :
    s.reloadConfig.result = .ok ⟨c, s.shown == some s.machine.cache.fresh⟩ ∧
      s.reloadConfig.session.machine.cache = s.machine.cache.store c := by
  rcases s.machine.reloadConfig_cases with ⟨c', hload, hreload⟩ | ⟨e, hload, -⟩
  · obtain rfl := Except.ok.inj (h.symm.trans hload)
    rw [reloadConfig, hreload]
    exact ⟨rfl, rfl⟩
  · rw [h] at hload
    cases hload

private theorem reloadConfig_of_error {s : Session} {e : Config.LoadError} (h : s.machine.loadConfig = .error e) :
    s.reloadConfig.result = .error (.settings e) ∧ s.reloadConfig.session = s := by
  rcases s.machine.reloadConfig_cases with ⟨c, hload, -⟩ | ⟨e', hload, hreload⟩
  · rw [h] at hload
    cases hload
  · obtain rfl := Except.error.inj (h.symm.trans hload)
    rw [reloadConfig, hreload]
    exact ⟨rfl, rfl⟩

/-- To assign is to ask for the settings and to change the ones that are kept then, if there are any. -/
private theorem assign_cache (s : Session) (part key : String) (v : Value) :
    (s.assign part key v).session.machine.cache =
      s.machine.getConfig.2.cache.modify fun c => (c.assign? part key v).getD c := by
  obtain ⟨got, m, hget⟩ : ∃ got m, s.machine.getConfig = (got, m) := ⟨_, _, rfl⟩
  rw [assign, hget]
  cases got with
  | error e =>
    obtain ⟨hnone, -, hsame⟩ := Machine.of_getConfig_eq_error (congrArg Prod.fst hget)
    rw [hget] at hsame
    have hkept : m.cache.kept = none := (congrArg (·.cache.kept) hsame).trans hnone
    exact (ConfigCache.modify_of_none hkept _).symm
  | ok x =>
    have hkept := Machine.kept_of_getConfig_eq_ok hget
    dsimp only
    cases hassign : x.2.assign? part key v with
    | none =>
      have hid : m.cache.modify id = m.cache.modify fun c => (c.assign? part key v).getD c :=
        ConfigCache.modify_congr hkept (by rw [hassign, Option.getD_none, id])
      rw [← hid, ConfigCache.modify_id]
      rfl
    | some c' =>
      have hconst : m.cache.modify (fun _ => c') = m.cache.modify fun c => (c.assign? part key v).getD c :=
        ConfigCache.modify_congr hkept (by rw [hassign, Option.getD_some])
      exact hconst

namespace SettingsStep

variable {s : Session} {st : SettingsStep}

/-- Every step but a reload asks for the settings, if at all, and then changes the ones that are kept. -/
private theorem cache_of_ne_reload (hne : st ≠ .reloadConfig) (s : Session) :
    (st.after s).machine.cache = s.machine.cache.modify st.edit ∨
      (st.after s).machine.cache = s.machine.getConfig.2.cache.modify st.edit := by
  have hasked : st.edit = id → ((st.after s).machine.cache = s.machine.cache ∨
      (st.after s).machine.cache = s.machine.getConfig.2.cache) →
      (st.after s).machine.cache = s.machine.cache.modify st.edit ∨
        (st.after s).machine.cache = s.machine.getConfig.2.cache.modify st.edit := by
    intro hedit h
    rwa [hedit, ConfigCache.modify_id, ConfigCache.modify_id]
  cases st with
  | changeEnvironment unset set => exact hasked rfl (Or.inl rfl)
  | writeFile path bytes => exact hasked rfl (Or.inl rfl)
  | makeDirectory path => exact hasked rfl (Or.inl rfl)
  | removeFile path =>
    apply hasked rfl
    left
    rw [after, outcome]
    rcases s.removeFile_cases path with h | ⟨t, h⟩ <;> rw [h] <;> rfl
  | loadConfig => exact hasked rfl (Or.inl (congrArg (·.machine.cache) s.loadConfig_session))
  | getConfig => exact hasked rfl (Or.inr (congrArg (·.cache) s.getConfig_machine))
  | reloadConfig => exact absurd rfl hne
  | assign part key v => exact Or.inr (s.assign_cache part key v)
  | wildcard prefer =>
    cases prefer with
    | some p => exact hasked rfl (Or.inl rfl)
    | none => exact hasked rfl (Or.inr (congrArg (·.cache) s.wildcard_machine))
  | command args => exact hasked rfl (Command.asks_run s.machine args).machine.cache

private theorem renews_iff : st.Renews s ↔ st = .reloadConfig ∧ ∃ c, s.machine.loadConfig = .ok c := by
  rw [Renews, and_congr_right_iff]
  rintro rfl
  rw [outcome]
  constructor
  · intro h
    rcases s.machine.reloadConfig_cases with ⟨c, hload, -⟩ | ⟨e, -, hreload⟩
    · exact ⟨c, hload⟩
    · rw [Session.reloadConfig, hreload] at h
      cases h
  · rintro ⟨c, hload⟩
    rw [Outcome.ended, (reloadConfig_of_ok hload).1]
    rfl

/-- A step leaves the settings that are kept, with what it assigns to them, or keeps new ones that it has loaded. -/
private theorem after_cases (s : Session) (st : SettingsStep) :
    (¬st.Renews s ∧ (st.after s).machine.cache = s.machine.cache.modify st.edit) ∨
    ∃ c, s.machine.loadConfig = .ok c ∧ (st.Renews s ∨ s.keptSettings = none) ∧
      (st.after s).machine.cache = s.machine.cache.store (st.edit c) := by
  by_cases hreload : st = .reloadConfig
  · subst hreload
    cases hload : s.machine.loadConfig with
    | ok c =>
      have hrenews : reloadConfig.Renews s := renews_iff.2 ⟨rfl, c, hload⟩
      exact Or.inr ⟨c, rfl, Or.inl hrenews, (reloadConfig_of_ok hload).2⟩
    | error e =>
      left
      constructor
      · intro hrenews
        obtain ⟨-, c, hc⟩ := renews_iff.1 hrenews
        rw [hload] at hc
        cases hc
      · have hsession : reloadConfig.after s = s := (reloadConfig_of_error hload).2
        rw [hsession]
        exact (ConfigCache.modify_id _).symm
  · have hrenews : ¬st.Renews s := fun hrenews => hreload hrenews.1
    rcases cache_of_ne_reload hreload s with h | h
    · exact Or.inl ⟨hrenews, h⟩
    · -- asking for settings loads them just if there are none, and what is loaded takes the assignment
      rcases s.machine.getConfig_cases with ⟨c, -, hget⟩ | ⟨hkept, c, hload, hget⟩ | ⟨-, e, -, hget⟩
      · exact Or.inl ⟨hrenews, by rw [h, hget]⟩
      · exact Or.inr ⟨c, hload, Or.inr hkept, by rw [h, hget]; rfl⟩
      · exact Or.inl ⟨hrenews, by rw [h, hget]⟩

/-- A step that does not load settings by itself fails for them just as asking for them does. -/
private theorem getConfig_of_failure {e : Config.LoadError} (h : (st.outcome s).result = .error (.settings e))
    (hload : st ≠ .loadConfig) (hreload : st ≠ .reloadConfig) : s.machine.getConfig.1 = .error e := by
  obtain ⟨got, m, hget⟩ : ∃ got m, s.machine.getConfig = (got, m) := ⟨_, _, rfl⟩
  rw [hget]
  cases st with
  | changeEnvironment unset set => cases h
  | writeFile path bytes => cases h
  | makeDirectory path => cases h
  | removeFile path =>
    rw [outcome] at h
    rcases s.removeFile_cases path with hremove | ⟨t, hremove⟩ <;> rw [hremove] at h <;> cases h
  | loadConfig => exact absurd rfl hload
  | reloadConfig => exact absurd rfl hreload
  | getConfig =>
    rw [outcome, Session.getConfig, hget] at h
    cases got <;> cases h
    rfl
  | assign part key v =>
    rw [outcome, Session.assign, hget] at h
    cases got with
    | error e' =>
      cases h
      rfl
    | ok c =>
      dsimp only at h
      split at h <;> cases h
  | wildcard prefer =>
    cases prefer with
    | some p => cases h
    | none =>
      rw [outcome, Session.wildcard, hget] at h
      cases got <;> cases h
      rfl
  | command args =>
    have hfailure := (Command.asks_run s.machine args).failure
    rw [hget] at hfailure
    cases hstatus : (Command.run s.machine args).status with
    | ok n =>
      rw [outcome, runCommand, Outcome.ended, hstatus] at h
      cases h
    | error f =>
      rw [outcome, runCommand, Outcome.ended, hstatus] at h
      cases h
      exact hfailure e hstatus

/-- A step that fails to load settings leaves the ones that are kept alone. -/
private theorem cache_of_failure {e : Config.LoadError} (h : (st.outcome s).result = .error (.settings e)) :
    s.machine.loadConfig = .error e ∧ (st.after s).machine.cache = s.machine.cache := by
  by_cases hload : st = .loadConfig
  · subst hload
    refine ⟨?_, congrArg (·.machine.cache) s.loadConfig_session⟩
    rw [outcome, Session.loadConfig] at h
    split at h
    · next hfails => cases h; exact hfails
    · cases h
  by_cases hreload : st = .reloadConfig
  · subst hreload
    rcases s.machine.reloadConfig_cases with ⟨c, -, hreload⟩ | ⟨e', hfails, -⟩
    · rw [outcome, Session.reloadConfig, hreload] at h
      cases h
    · obtain ⟨hresult, hsession⟩ := reloadConfig_of_error hfails
      rw [outcome, Outcome.ended, hresult] at h
      cases h
      exact ⟨hfails, congrArg (·.machine.cache) hsession⟩
  · obtain ⟨hnone, hfails, hsame⟩ := Machine.of_getConfig_eq_error (getConfig_of_failure h hload hreload)
    refine ⟨hfails, ?_⟩
    rcases cache_of_ne_reload hreload s with hcache | hcache
    · rw [hcache, ConfigCache.modify_of_none hnone]
    · rw [hcache, hsame, ConfigCache.modify_of_none hnone]

/-- Settings that a step shows are the ones that are kept after it. -/
private theorem shown_after (s : Session) (st : SettingsStep) :
    (st.after s).shown = s.shown ∨
      ∃ n c, (st.after s).keptSettings = some (n, c) ∧ (st.after s).shown = some n := by
  cases st with
  | changeEnvironment unset set => exact Or.inl rfl
  | writeFile path bytes => exact Or.inl rfl
  | makeDirectory path => exact Or.inl rfl
  | removeFile path =>
    left
    rw [after, outcome]
    rcases s.removeFile_cases path with h | ⟨t, h⟩ <;> rw [h] <;> rfl
  | loadConfig => exact Or.inl (congrArg (·.shown) s.loadConfig_session)
  | wildcard prefer =>
    left
    cases prefer with
    | some p => rfl
    | none =>
      rw [after, outcome, Session.wildcard]
      split <;> rfl
  | command args => exact Or.inl rfl
  | getConfig =>
    obtain ⟨got, m, hget⟩ : ∃ got m, s.machine.getConfig = (got, m) := ⟨_, _, rfl⟩
    rw [after, outcome, Session.getConfig, hget]
    cases got with
    | error e => exact Or.inl rfl
    | ok c => exact Or.inr ⟨c.1, c.2, Machine.kept_of_getConfig_eq_ok hget, rfl⟩
  | reloadConfig =>
    rw [after, outcome, Session.reloadConfig]
    rcases s.machine.reloadConfig_cases with ⟨c, -, hreload⟩ | ⟨e, -, hreload⟩
    · rw [hreload]
      exact Or.inr ⟨_, c, rfl, rfl⟩
    · rw [hreload]
      exact Or.inl rfl
  | assign part key v =>
    obtain ⟨got, m, hget⟩ : ∃ got m, s.machine.getConfig = (got, m) := ⟨_, _, rfl⟩
    rw [after, outcome, Session.assign, hget]
    cases got with
    | error e => exact Or.inl rfl
    | ok c =>
      dsimp only
      split
      · exact Or.inl rfl
      · exact Or.inr ⟨c.1, _, ConfigCache.kept_modify (Machine.kept_of_getConfig_eq_ok hget) _, rfl⟩

/-- Settings that are kept stay with their number in each step but a reload that succeeds, with what the step assigns to
them; and if they were shown last, they still are. -/
private theorem keptSettings_after {n : Nat} {c : Config} (h : s.keptSettings = some (n, c)) (hno : ¬st.Renews s) :
    (st.after s).keptSettings = some (n, st.edit c) ∧ (s.shown = some n → (st.after s).shown = some n) := by
  have hkept : (st.after s).keptSettings = some (n, st.edit c) := by
    rcases st.after_cases s with ⟨-, hcache⟩ | ⟨c', -, hrenews | hnone, -⟩
    · rw [keptSettings, hcache]
      exact ConfigCache.kept_modify h st.edit
    · exact absurd hrenews hno
    · rw [hnone] at h
      cases h
  refine ⟨hkept, ?_⟩
  intro hshown
  rcases st.shown_after s with hsame | ⟨n', c', hkept', hshown'⟩
  · rw [hsame, hshown]
  · have hn : n = n' := congrArg Prod.fst (Option.some.inj (hkept.symm.trans hkept'))
    rw [hshown', hn]

private theorem fresh_le_after (s : Session) (st : SettingsStep) :
    s.machine.cache.fresh ≤ (st.after s).machine.cache.fresh := by
  rcases st.after_cases s with ⟨-, hcache⟩ | ⟨c, -, -, hcache⟩
  · rw [hcache]
    exact Nat.le_refl _
  · rw [hcache]
    exact Nat.le_succ _

end SettingsStep

private theorem kept_of_getConfig {s : Session} {r : Shown} (h : s.getConfig.result = .ok r) :
    ∃ n, s.getConfig.session.keptSettings = some (n, r.config) := by
  obtain ⟨got, m, hget⟩ : ∃ got m, s.machine.getConfig = (got, m) := ⟨_, _, rfl⟩
  rw [getConfig, hget] at h ⊢
  cases got with
  | error e => cases h
  | ok c =>
    cases h
    exact ⟨c.1, Machine.kept_of_getConfig_eq_ok hget⟩

private theorem kept_of_assign {s : Session} {part key : String} {v : Value} {c : Config}
    (h : (s.assign part key v).result = .ok c) : ∃ n, (s.assign part key v).session.keptSettings = some (n, c) := by
  obtain ⟨got, m, hget⟩ : ∃ got m, s.machine.getConfig = (got, m) := ⟨_, _, rfl⟩
  rw [assign, hget] at h ⊢
  cases got with
  | error e => cases h
  | ok x =>
    dsimp only at h ⊢
    cases hassign : x.2.assign? part key v with
    | none =>
      simp only [hassign] at h
      cases h
    | some c' =>
      simp only [hassign] at h ⊢
      cases h
      exact ⟨x.1, ConfigCache.kept_modify (Machine.kept_of_getConfig_eq_ok hget) _⟩

private theorem wildcard_cases (s : Session) :
    (∃ n c, (s.wildcard none).session.keptSettings = some (n, c) ∧
      (s.wildcard none).result = .ok (wildcardAddress c.preferV6.isTruthy)) ∨
    (s.wildcard none).session.keptSettings = none ∧ ∃ e, (s.wildcard none).result = .error (.settings e) := by
  obtain ⟨got, m, hget⟩ : ∃ got m, s.machine.getConfig = (got, m) := ⟨_, _, rfl⟩
  rw [wildcard, hget]
  cases got with
  | ok c => exact Or.inl ⟨c.1, c.2, Machine.kept_of_getConfig_eq_ok hget, rfl⟩
  | error e =>
    obtain ⟨hkept, -, hsame⟩ := Machine.of_getConfig_eq_error (congrArg Prod.fst hget)
    rw [hget] at hsame
    exact Or.inr ⟨(congrArg (·.cache.kept) hsame).trans hkept, e, rfl⟩

private theorem wildcard_eq_ok_iff (s : Session) (prefers : Bool) :
    (s.wildcard none).result = .ok (wildcardAddress prefers) ↔
      ∃ n c, (s.wildcard none).session.keptSettings = some (n, c) ∧ c.preferV6.isTruthy = prefers := by
  have hinj : ∀ a b, wildcardAddress a = wildcardAddress b ↔ a = b := by decide
  rcases s.wildcard_cases with ⟨n, c, hkept, hresult⟩ | ⟨hkept, e, hresult⟩
  · rw [hresult, Except.ok.injEq, hinj]
    constructor
    · intro h
      exact ⟨n, c, hkept, h⟩
    · rintro ⟨n', c', hkept', h⟩
      rw [hkept] at hkept'
      cases hkept'
      exact h
  · simp [hresult, hkept]

/-! ### Many steps -/

/-- The settings that are kept and the ones that were shown last have numbers that have been given out. -/
structure Numbered (s : Session) : Prop where
  kept : ∀ n c, s.keptSettings = some (n, c) → n < s.machine.cache.fresh
  shown : ∀ n, s.shown = some n → n < s.machine.cache.fresh

private theorem numbered_fresh (root time : String) : (fresh root time).Numbered :=
  ⟨fun _ _ h => (nomatch h), fun _ h => (nomatch h)⟩

theorem Numbered.after {s : Session} (h : s.Numbered) (st : SettingsStep) : (st.after s).Numbered := by
  have hkept : ∀ n c, (st.after s).keptSettings = some (n, c) → n < (st.after s).machine.cache.fresh := by
    intro n c hn
    rcases st.after_cases s with ⟨-, hcache⟩ | ⟨c', -, -, hcache⟩
    · rw [keptSettings, hcache, ConfigCache.modify, Option.map_eq_some_iff] at hn
      obtain ⟨⟨n', c'⟩, hn', heq⟩ := hn
      cases heq
      rw [hcache]
      exact h.kept _ c' hn'
    · rw [keptSettings, hcache] at hn
      cases hn
      rw [hcache]
      exact Nat.lt_succ_self _
  refine ⟨hkept, ?_⟩
  intro n hn
  rcases st.shown_after s with hsame | ⟨n', c, hn', hshown⟩
  · exact Nat.lt_of_lt_of_le (h.shown n (hsame.symm.trans hn)) (st.fresh_le_after s)
  · rw [hshown] at hn
    cases hn
    exact hkept n c hn'

private theorem Numbered.runSettings {s : Session} (h : s.Numbered) (sts : List SettingsStep) :
    (s.runSettings sts).Numbered := by
  induction sts generalizing s with
  | nil => exact h
  | cons st sts ih => exact ih (h.after st)

private theorem fresh_le_runSettings (s : Session) (sts : List SettingsStep) :
    s.machine.cache.fresh ≤ (s.runSettings sts).machine.cache.fresh := by
  induction sts generalizing s with
  | nil => exact Nat.le_refl _
  | cons st sts ih => exact Nat.le_trans (st.fresh_le_after s) (ih (st.after s))

private theorem runSettings_append (s : Session) (sts sts' : List SettingsStep) :
    s.runSettings (sts ++ sts') = (s.runSettings sts).runSettings sts' := by
  induction sts generalizing s with
  | nil => rfl
  | cons st sts ih => exact ih (st.after s)

private theorem keptSettings_runSettings {s : Session} {n : Nat} {c : Config} (h : s.keptSettings = some (n, c))
    {sts : List SettingsStep} (hno : ¬s.Renewed sts) :
    (s.runSettings sts).keptSettings = some (n, SettingsStep.edits sts c) ∧
      (s.shown = some n → (s.runSettings sts).shown = some n) := by
  induction sts generalizing s c with
  | nil => exact ⟨h, id⟩
  | cons st sts ih =>
    rw [Renewed, not_or] at hno
    obtain ⟨hkept, hshown⟩ := SettingsStep.keptSettings_after h hno.1
    obtain ⟨hkept', hshown'⟩ := ih hkept hno.2
    exact ⟨hkept', fun hs => hshown' (hshown hs)⟩

/-- Settings that are kept after some steps were kept before them and have not been reloaded since, or were loaded in one
of the steps; and all that has changed in them is what the steps assign. -/
private theorem loaded_of_keptSettings {s : Session} {sts : List SettingsStep} {n : Nat} {c : Config}
    (h : (s.runSettings sts).keptSettings = some (n, c)) :
    (∃ c₀, s.keptSettings = some (n, c₀) ∧ ¬s.Renewed sts ∧ c = SettingsStep.edits sts c₀) ∨
    ∃ pre st post c₀, sts = pre ++ st :: post ∧ (s.runSettings pre).machine.loadConfig = .ok c₀ ∧
      n = (s.runSettings pre).machine.cache.fresh ∧ ¬(st.after (s.runSettings pre)).Renewed post ∧
      c = SettingsStep.edits (st :: post) c₀ := by
  induction sts generalizing s with
  | nil => exact Or.inl ⟨c, h, id, rfl⟩
  | cons st sts ih =>
    -- what the later steps found kept was there before the first one, or the first one has loaded it
    rcases ih h with ⟨c₁, hkept, hno, rfl⟩ | ⟨pre, st', post, c₀, rfl, hload, hn, hno, hc⟩
    · rcases st.after_cases s with ⟨hrenews, hcache⟩ | ⟨c₀, hload, -, hcache⟩
      · rw [keptSettings, hcache, ConfigCache.modify, Option.map_eq_some_iff] at hkept
        obtain ⟨⟨n', c₀⟩, hkept₀, heq⟩ := hkept
        cases heq
        refine Or.inl ⟨c₀, hkept₀, ?_, rfl⟩
        rw [Renewed, not_or]
        exact ⟨hrenews, hno⟩
      · rw [keptSettings, hcache] at hkept
        cases hkept
        exact Or.inr ⟨[], st, sts, c₀, rfl, hload, rfl, hno, rfl⟩
    · exact Or.inr ⟨st :: pre, st', post, c₀, rfl, hload, hn, hno, hc⟩

/-- In every session that is made of such steps:

* settings that are kept stay the same ones, with what the steps assign to them and nothing else, whatever the steps are,
  up to the next reload that succeeds; asking for them shows them, and shows them as the same ones;
* a reload that succeeds keeps what it has loaded, as settings that were never kept before, and one that fails leaves the
  session as it is;
* loading without keeping leaves the session as it is;
* a step that fails to load settings leaves the ones that are kept alone;
* the address that binds on every interface is that of version 6 just if the preference that is kept counts as true;
* settings that are shown, by asking for them or by assigning to them, are the ones that are kept from then on;
* what is kept was loaded as a whole in some step, and the assignments since then are all that has changed in it. -/
theorem settings_kept_until_reload (root time : String) (before : List SettingsStep) :
    let s := (fresh root time).runSettings before
    (∀ n c, s.keptSettings = some (n, c) → ∀ steps, ¬s.Renewed steps →
      (s.runSettings steps).keptSettings = some (n, SettingsStep.edits steps c) ∧
      ∃ same, (s.runSettings steps).getConfig.result = .ok ⟨SettingsStep.edits steps c, same⟩ ∧
        (s.shown = some n → same = true) ∧ (s.runSettings steps).getConfig.session.shown = some n) ∧
    (∀ c, s.machine.loadConfig = .ok c → ∃ n, s.reloadConfig.result = .ok ⟨c, false⟩ ∧
      s.reloadConfig.session.keptSettings = some (n, c) ∧
      ∀ pre, pre <+: before → ∀ c', ((fresh root time).runSettings pre).keptSettings ≠ some (n, c')) ∧
    (∀ e, s.machine.loadConfig = .error e →
      s.reloadConfig.result = .error (.settings e) ∧ s.reloadConfig.session = s) ∧
    s.loadConfig.session = s ∧
    (∀ (st : SettingsStep) e, (st.outcome s).result = .error (.settings e) →
      s.machine.loadConfig = .error e ∧ (st.after s).keptSettings = s.keptSettings) ∧
    (∀ prefers, (s.wildcard none).result = .ok (if prefers then "::" else "0.0.0.0") ↔
      ∃ n c, (s.wildcard none).session.keptSettings = some (n, c) ∧ c.preferV6.isTruthy = prefers) ∧
    (∀ r, s.getConfig.result = .ok r → ∃ n, s.getConfig.session.keptSettings = some (n, r.config)) ∧
    (∀ part key v c, (s.assign part key v).result = .ok c →
      ∃ n, (s.assign part key v).session.keptSettings = some (n, c)) ∧
    ∀ n c, s.keptSettings = some (n, c) → ∃ pre st post c₀, before = pre ++ st :: post ∧
      ((fresh root time).runSettings pre).machine.loadConfig = .ok c₀ ∧
      ¬(st.after ((fresh root time).runSettings pre)).Renewed post ∧ c = SettingsStep.edits (st :: post) c₀ := by
  intro s
  have hnumbered : s.Numbered := (numbered_fresh root time).runSettings before
  refine ⟨?_, ?_, fun e => reloadConfig_of_error, s.loadConfig_session, ?_, s.wildcard_eq_ok_iff,
    fun r => kept_of_getConfig, fun part key v c => kept_of_assign, ?_⟩
  · intro n c hkept steps hno
    obtain ⟨hkept', hshown⟩ := keptSettings_runSettings hkept hno
    refine ⟨hkept', (s.runSettings steps).shown == some n, ?_, ?_, ?_⟩
    · rw [getConfig_of_kept hkept', quiet]
    · intro hs
      rw [hshown hs, beq_self_eq_true]
    · rw [getConfig_of_kept hkept', quiet]
  · intro c hload
    obtain ⟨hresult, hcache⟩ := reloadConfig_of_ok hload
    refine ⟨s.machine.cache.fresh, ?_, congrArg (·.kept) hcache, ?_⟩
    · have hshown : (s.shown == some s.machine.cache.fresh) = false := by
        rw [beq_eq_false_iff_ne]
        intro hs
        exact Nat.lt_irrefl _ (hnumbered.shown _ hs)
      rw [hresult, hshown]
    · rintro pre ⟨post, rfl⟩ c' hpre
      -- a number that was kept is below the number for the next settings, then and ever since
      have hlt := ((numbered_fresh root time).runSettings pre).kept _ _ hpre
      have hle := fresh_le_runSettings ((fresh root time).runSettings pre) post
      rw [← runSettings_append] at hle
      exact absurd hlt (Nat.not_lt.2 hle)
  · intro st e h
    obtain ⟨hload, hcache⟩ := SettingsStep.cache_of_failure h
    exact ⟨hload, congrArg (·.kept) hcache⟩
  · intro n c hkept
    rcases loaded_of_keptSettings hkept with ⟨c₀, hnone, -, -⟩ | ⟨pre, st, post, c₀, hsteps, hload, -, hno, hc⟩
    · cases hnone
    · exact ⟨pre, st, post, c₀, hsteps, hload, hno, hc⟩

/-- An assignment stays while the environment comes to say something else. -/
theorem settings_kept_until_reload_assigned :
    let s := (fresh "/r" "").runSettings [.getConfig]
    let steps : List SettingsStep := [.assign "network" "prefer_ipv6" (.int 1),
      .changeEnvironment [] [("HOSTPORT_PREFER_IPV6", "no")], .loadConfig, .getConfig]
    s.keptSettings = some (0, Config.defaults) ∧ ¬s.Renewed steps ∧
      (s.runSettings steps).keptSettings = some (0, { Config.defaults with preferV6 := .int 1 }) := by
  intro s steps
  have hnone : Config.Finds (fresh "/r" "").machine.environment (fresh "/r" "").machine.files none :=
    ⟨⟨1, ["r", "home", ".hostport", "hostport.toml"]⟩, by decide +kernel, by decide +kernel⟩
  have hload : (fresh "/r" "").machine.loadConfig = .ok Config.defaults := Config.load_of_no_file hnone nofun
  have hkept : s.keptSettings = some (0, Config.defaults) := by
    have hmachine : s.keptSettings = (fresh "/r" "").machine.getConfig.2.cache.kept :=
      congrArg (·.cache.kept) (fresh "/r" "").getConfig_machine
    rcases (fresh "/r" "").machine.getConfig_cases with ⟨c, hkept, -⟩ | ⟨-, c, hc, hget⟩ | ⟨-, e, he, -⟩
    · cases hkept
    · obtain rfl := Except.ok.inj (hload.symm.trans hc)
      rw [hmachine, hget]
      rfl
    · rw [hload] at he
      cases he
  have hno : ¬s.Renewed steps := by
    simp [steps, Renewed, SettingsStep.Renews]
  exact ⟨hkept, hno, ((settings_kept_until_reload "/r" "" [.getConfig]).1 0 _ hkept steps hno).1⟩

end Session

end Endpoint
