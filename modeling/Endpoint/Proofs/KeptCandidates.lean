import Endpoint.Proofs.Scan
import Endpoint.Session.Ports

/-!
# Candidates that are kept between steps

A session keeps candidates under names, and its steps open them, draw from them by hand or lend them to the binder
(`Step`). What a step hands out counts as drawn, also the ports that a factory was called on (`Step.handedOut`).

* (one step) A step keeps candidates only under its own name: `Step.after_eq`. What it draws from them and what it leaves
  are what there was: `Step.handedOut_append`.
* (many steps) So all that is drawn since the candidates were opened comes before all that is left:
  `run_conserves` and `drawn_append_held_eq_expand`.
-/

namespace Endpoint.Session

/-- The ports that are left of the candidates under a name. -/
def held (s : Session) (name : String) : Option (List Int) :=
  (s.candidates.lookup name).map Candidates.toList

/-- A step of a session on candidates. The binder may be given any factory and the state it begins in. -/
inductive Step where
  | openSpec (name : String) (spec : Option String)
  | draw (name : String) (n : Nat)
  | drawRest (name : String)
  | serve {σ α : Type} (address : String) (source : PortSource) (factory : Factory σ α Interruption) (state : σ)

namespace Step

/-- The name under which a step opens candidates or draws from them. -/
def name? : Step → Option String
  | .openSpec name _ | .draw name _ | .drawRest name | .serve _ (.kept name) _ _ => some name
  | .serve _ _ _ _ => none

/-- Whether a step begins with new candidates under a name. -/
def Reopens (name : String) : Step → Prop
  | .openSpec other spec => other = name ∧ ∃ rs, PortSpec.parse? spec = .ok rs
  | _ => False

/-- The ports that a step hands out, to a caller or to a factory. -/
def handedOut (s : Session) : Step → List Int
  | .openSpec _ _ => []
  | .draw name n => ((s.draw name n).result.toOption.getD []).filterMap id
  | .drawRest name => (s.drawRest name).result.toOption.getD []
  | .serve address source factory state => (s.serveBy address source factory state).tried

/-- The session after a step. -/
def after (s : Session) : Step → Session
  | .openSpec name spec => (s.openSpec name spec).session
  | .draw name n => (s.draw name n).session
  | .drawRest name => (s.drawRest name).session
  | .serve address source factory state => (s.serveBy address source factory state).outcome.session

end Step

/-- The session after some steps. -/
def run (s : Session) : List Step → Session
  | [] => s
  | st :: sts => run (st.after s) sts

/-- The ports that some steps draw from the candidates under a name, in order. -/
def drawn (name : String) (s : Session) : List Step → List Int
  | [] => []
  | st :: sts => (if st.name? = some name then st.handedOut s else []) ++ drawn name (st.after s) sts

/-! ### One step -/

/-- A step leaves the session as it is or keeps candidates under its own name. -/
private theorem Step.after_eq (s : Session) (st : Step) :
    st.after s = s ∨ ∃ name c, st.name? = some name ∧ st.after s = s.keepCandidates name c := by
  cases st with
  | openSpec name spec =>
    rw [after, Session.openSpec]
    split
    · exact Or.inl rfl
    · next c _ => exact Or.inr ⟨name, c, rfl, rfl⟩
  | draw name n =>
    rw [after, Session.draw]
    split
    · exact Or.inl rfl
    · next c _ => exact Or.inr ⟨name, (c.draw n).2, rfl, rfl⟩
  | drawRest name =>
    rw [after, Session.drawRest]
    split
    · exact Or.inl rfl
    · exact Or.inr ⟨name, .empty, rfl, rfl⟩
  | serve address source factory state =>
    rw [after, serveBy]
    split
    · exact Or.inl rfl
    · cases source with
      | listed ports => exact Or.inl rfl
      | spec spec => exact Or.inl rfl
      | kept name => exact Or.inr ⟨name, _, rfl, rfl⟩

private theorem Step.lookup_after_of_ne {st : Step} {other : String} (h : st.name? ≠ some other) (s : Session) :
    (st.after s).candidates.lookup other = s.candidates.lookup other := by
  rcases st.after_eq s with hafter | ⟨name, c, hname, hafter⟩
  · rw [hafter]
  · have hne : other ≠ name := by
      rintro rfl
      exact h hname
    rw [hafter, lookup_keepCandidates_of_ne hne]

/-- What the binder tries and what it leaves make up the candidates it was lent. -/
private theorem serveBy_kept {σ α : Type} {s : Session} {name : String} {c : Candidates}
    (hc : s.candidates.lookup name = some c)
    (address : String) (factory : Factory σ α Interruption) (state : σ) :
    let served := s.serveBy address (.kept name) factory state
    ∃ rest, served.outcome.session.candidates.lookup name = some rest ∧ served.tried ++ rest.toList = c.toList := by
  have hsource : s.candidatesOf (.kept name) = .ok c := by rw [candidatesOf, hc]
  obtain ⟨hall, -⟩ := Binder.scan_spec address factory c state
  simp only [serveBy, hsource, leave, lookup_keepCandidates]
  exact ⟨_, rfl, hall⟩

private theorem Step.handedOut_append {s : Session} {name : String} {c : Candidates}
    (hc : s.candidates.lookup name = some c)
    {st : Step} (hname : st.name? = some name) (hopen : ¬st.Reopens name) :
    ∃ rest, (st.after s).candidates.lookup name = some rest ∧ st.handedOut s ++ rest.toList = c.toList := by
  cases st with
  | openSpec other spec =>
    cases hname
    cases hspec : PortSpec.parse? spec with
    | error e =>
      have hsession : (s.openSpec name spec).session = s := by
        rw [Session.openSpec, Candidates.ofSpec, hspec]
        rfl
      exact ⟨c, by rw [after, hsession, hc], rfl⟩
    | ok rs => exact absurd ⟨rfl, rs, hspec⟩ hopen
  | draw other n =>
    cases hname
    obtain ⟨htaken, hleft⟩ := c.draw_spec n
    simp only [after, handedOut, Session.draw, hc, quiet, lookup_keepCandidates]
    refine ⟨_, rfl, ?_⟩
    rw [hleft, Except.toOption, Option.getD_some, htaken, List.take_append_drop]
  | drawRest other =>
    cases hname
    simp only [after, handedOut, Session.drawRest, hc, quiet, lookup_keepCandidates]
    exact ⟨_, rfl, List.append_nil _⟩
  | serve address source factory state =>
    cases source with
    | listed ports => cases hname
    | spec spec => cases hname
    | kept other =>
      cases hname
      exact serveBy_kept hc address factory state

/-! ### Many steps -/

private theorem run_append (s : Session) (before after : List Step) :
    run s (before ++ after) = run (run s before) after := by
  induction before generalizing s with
  | nil => rfl
  | cons st sts ih => exact ih _

private theorem run_conserves {s : Session} {name : String} {c : Candidates} (hc : s.candidates.lookup name = some c)
    {steps : List Step} (hopen : ∀ st ∈ steps, ¬st.Reopens name) :
    ∃ rest, (run s steps).candidates.lookup name = some rest ∧ drawn name s steps ++ rest.toList = c.toList := by
  -- The candidates under the name are passed on from step to step, so they change in the induction.
  induction steps generalizing s c with
  | nil => exact ⟨c, hc, rfl⟩
  | cons st sts ih =>
    have hfirst : ¬st.Reopens name := hopen st List.mem_cons_self
    have hlater : ∀ st' ∈ sts, ¬st'.Reopens name := fun st' h => hopen st' (List.mem_cons_of_mem _ h)
    rw [run, drawn]
    by_cases hname : st.name? = some name
    · obtain ⟨left, hleft, hpart⟩ := st.handedOut_append hc hname hfirst
      obtain ⟨rest, hrest, hall⟩ := ih hleft hlater
      exact ⟨rest, hrest, by rw [if_pos hname, List.append_assoc, hall, hpart]⟩
    · have hsame : (st.after s).candidates.lookup name = some c := by rw [Step.lookup_after_of_ne hname, hc]
      obtain ⟨rest, hrest, hall⟩ := ih hsame hlater
      exact ⟨rest, hrest, by rw [if_neg hname, List.nil_append, hall]⟩

/-! ### Candidates that are used up -/

private theorem serveBy_of_held_nil {σ α : Type} {s : Session} {name : String} (hheld : s.held name = some [])
    (address : String) (factory : Factory σ α Interruption) (state : σ) :
    let served := s.serveBy address (.kept name) factory state
    served.outcome.result = .error (.exhausted ⟨address, 0⟩) ∧ served.tried = [] := by
  obtain ⟨c, hc, hnil⟩ := Option.map_eq_some_iff.1 hheld
  have hsource : s.candidatesOf (.kept name) = .ok c := by rw [candidatesOf, hc]
  obtain ⟨hverdict, htried⟩ := Binder.scan_of_toList_eq_nil hnil address factory state
  simp only [serveBy, hsource, hverdict, htried, resultOf, and_self]

/-- Candidates that are used up stay so as long as their name is not used anew. -/
private theorem held_run_of_held_nil {s : Session} {name : String} (hheld : s.held name = some []) {steps : List Step}
    (hopen : ∀ st ∈ steps, ¬st.Reopens name) : (run s steps).held name = some [] := by
  obtain ⟨c, hc, hnil⟩ := Option.map_eq_some_iff.1 hheld
  obtain ⟨rest, hrest, hall⟩ := run_conserves hc hopen
  rw [hnil, List.append_eq_nil_iff] at hall
  rw [held, hrest, Option.map_some, hall.2]

/-- After a specification is opened under a name, the ports drawn from there, whichever steps are taken and whatever
comes of the calls on factories, are the first of the ports that the specification stands for, and the others are left.
No step changes what is kept under the name of another. As soon as none are left, every binder call on the name fails
after no attempt. -/
theorem drawn_append_held_eq_expand (s : Session) (name : String) {spec : Option String} {rs : List PortRange}
    (hspec : PortSpec.parse? spec = .ok rs) (steps : List Step) (hopen : ∀ st ∈ steps, ¬st.Reopens name) :
    let opened := (s.openSpec name spec).session
    (∃ rest, (run opened steps).held name = some rest ∧
        drawn name opened steps ++ rest = (PortSpec.expand rs).map fun (p : Nat) => (p : Int)) ∧
      (∀ (t : Session) (st : Step) other, st.name? ≠ some other →
        (st.after t).candidates.lookup other = t.candidates.lookup other) ∧
      ∀ before after, steps = before ++ after → (run opened before).held name = some [] →
        ∀ (σ α : Type) address (factory : Factory σ α Interruption) state,
          let served := (run opened steps).serveBy address (.kept name) factory state
          served.outcome.result = .error (.exhausted ⟨address, 0⟩) ∧ served.tried = [] := by
  intro opened
  have hcandidates : opened.candidates.lookup name = some (.ofRanges rs) := by
    simp only [opened, openSpec, Candidates.ofSpec, hspec, Except.map, quiet, lookup_keepCandidates]
  refine ⟨?_, ?_, ?_⟩
  · obtain ⟨rest, hrest, hall⟩ := run_conserves hcandidates hopen
    refine ⟨rest.toList, by rw [held, hrest, Option.map_some], ?_⟩
    rw [hall, Candidates.toList_ofRanges]
  · intro t st other hother
    exact Step.lookup_after_of_ne hother t
  · rintro before after rfl hempty σ α address factory state
    have hlater : ∀ st ∈ after, ¬st.Reopens name := fun st h => hopen st (List.mem_append_right before h)
    rw [run_append]
    exact serveBy_of_held_nil (held_run_of_held_nil hempty hlater) address factory state

/-- The binder is interrupted at its first attempt, other candidates are opened and drawn from, a specification is refused,
and the ports that are left are drawn by hand. Then the binder has nothing to try. -/
theorem drawn_append_held_eq_expand_interrupted :
    let breakIn : Factory Unit Unit Interruption := fun _ _ _ => (.interrupted ⟨false, ""⟩, ())
    let steps : List Step := [.draw "a" 1, .openSpec "b" (some "7"), .serve "::1" (.kept "a") breakIn (), .draw "b" 2,
      .openSpec "a" (some "x"), .drawRest "a"]
    let opened := ((fresh "" "").openSpec "a" (some "1-3,2")).session
    (∀ st ∈ steps, ¬st.Reopens "a") ∧ drawn "a" opened steps = [1, 2, 3, 2] ∧
      ((run opened steps).serveBy "::1" (.kept "a") breakIn ()).outcome.result = .error (.exhausted ⟨"::1", 0⟩) := by
  intro breakIn steps opened
  have hspec : PortSpec.parse? (some "1-3,2") = .ok [⟨1, 3, by decide, by decide⟩, ⟨2, 2, by decide, by decide⟩] := rfl
  have hrefused : PortSpec.parse? (some "x") = .error (.token "x" "x") := rfl
  have hopen : ∀ st ∈ steps, ¬st.Reopens "a" := by
    simp [steps, Step.Reopens, hrefused]
  have hempty : (run opened steps).held "a" = some [] := rfl
  obtain ⟨⟨rest, hrest, hall⟩, -, hlater⟩ := drawn_append_held_eq_expand (fresh "" "") "a" hspec steps hopen
  have hnil : rest = [] := Option.some.inj (hrest.symm.trans hempty)
  rw [hnil, List.append_nil] at hall
  exact ⟨hopen, hall, (hlater steps [] (List.append_nil _).symm hempty Unit Unit "::1" breakIn ()).1⟩

end Endpoint.Session
