import Endpoint.Toml.Document
import Mathlib.Tactic.SplitIfs

/-!
# Documents that break off

A document is read from its beginning, and what keeps it from being read is the first thing that does.

* (characters) It can be a character that breaks a rule on keys or on the ends of lines (`Layout.Refuses`). These rules
  are all that single characters can break: `Layout.step_eq_error_iff`.
* (end) It can be the end of the document, within a key or a text: `Layout.lines_eq_error_iff`.
* (lines) It can be a line that does not go on with those before it.

These are all, and each comes with its fault: `document_eq_error_iff`. A document that begins with a word on a line of
its own, for one, is no valid document, whatever else it holds: `breaksOff_of_word`.
-/

namespace Endpoint.Toml

open Text

/-- Whether a character can stand in a name without marks in a key. -/
def isNameChar (c : Char) : Bool :=
  isAlphanumeric c || c == '_' || c == '-'

/-! ### Readings in turn -/

private theorem bind_eq_ok_iff {ε α β : Type} {x : Except ε α} {f : α → Except ε β} {b : β} :
    x.bind f = .ok b ↔ ∃ a, x = .ok a ∧ f a = .ok b := by
  cases x <;> simp [Except.bind]

private theorem bind_eq_error_iff {ε α β : Type} {x : Except ε α} {f : α → Except ε β} {e : ε} :
    x.bind f = .error e ↔ x = .error e ∨ ∃ a, x = .ok a ∧ f a = .error e := by
  cases x <;> simp [Except.bind]

/-- A list that is not empty is split at its first member or at a later one. -/
theorem exists_split_cons_iff {α : Type} {P : List α → α → List α → Prop} {a : α} {as : List α} :
    (∃ before b after, a :: as = before ++ b :: after ∧ P before b after) ↔
      P [] a as ∨ ∃ before b after, as = before ++ b :: after ∧ P (a :: before) b after := by
  constructor
  · rintro ⟨before, b, after, has, h⟩
    cases before with
    | nil =>
      obtain ⟨rfl, rfl⟩ := List.cons.inj has
      exact Or.inl h
    | cons x xs =>
      obtain ⟨rfl, rfl⟩ := List.cons.inj has
      exact Or.inr ⟨xs, b, after, rfl, h⟩
  · rintro (h | ⟨before, b, after, rfl, h⟩)
    · exact ⟨[], a, as, rfl, h⟩
    · exact ⟨a :: before, b, after, rfl, h⟩

/-- Whether a reading takes the members of a list in turn, each before the ones that are left, and another reading does
so for the first members, before the rest of the list. -/
structure TakesInTurn {ε σ α : Type} (step : σ → α → List α → Except ε σ) (read : σ → List α → Except ε σ)
    (readBefore : List α → σ → List α → Except ε σ) : Prop where
  nil (s : σ) : read s [] = .ok s
  cons (s : σ) (a : α) (as : List α) : read s (a :: as) = (step s a as).bind fun s => read s as
  nilBefore (after : List α) (s : σ) : readBefore after s [] = .ok s
  consBefore (after : List α) (s : σ) (a : α) (as : List α) :
    readBefore after s (a :: as) = (step s a (as ++ after)).bind fun s => readBefore after s as

/-- Such a reading fails just if there is a member at which it does, after those before it. -/
private theorem TakesInTurn.eq_error_iff {ε σ α : Type} {step : σ → α → List α → Except ε σ}
    {read : σ → List α → Except ε σ} {readBefore : List α → σ → List α → Except ε σ}
    (h : TakesInTurn step read readBefore) {s : σ} {as : List α} {e : ε} :
    read s as = .error e ↔ ∃ before a after, as = before ++ a :: after ∧
      ∃ s', readBefore (a :: after) s before = .ok s' ∧ step s' a after = .error e := by
  induction as generalizing s with
  | nil => simp [h.nil]
  | cons a as ih =>
    have hfirst : step s a as = .error e ↔ ∃ s', readBefore (a :: as) s [] = .ok s' ∧ step s' a as = .error e := by
      simp [h.nilBefore]
    rw [h.cons, bind_eq_error_iff, exists_split_cons_iff, hfirst]
    apply or_congr_right
    constructor
    · rintro ⟨s₁, hs₁, hread⟩
      obtain ⟨before, b, after, rfl, s', hs', he⟩ := ih.1 hread
      exact ⟨before, b, after, rfl, s', (h.consBefore _ _ _ _).trans (bind_eq_ok_iff.2 ⟨s₁, hs₁, hs'⟩), he⟩
    · rintro ⟨before, b, after, rfl, s', hs', he⟩
      rw [h.consBefore] at hs'
      obtain ⟨s₁, hs₁, hs''⟩ := bind_eq_ok_iff.1 hs'
      exact ⟨s₁, hs₁, ih.2 ⟨before, b, after, rfl, s', hs'', he⟩⟩

namespace Layout

/-- The layout after some characters, where others come next. -/
def runBefore (s : Layout) (after : List Char) : List Char → Except Fault Layout
  | [] => .ok s
  | c :: r => (s.step c (r ++ after)).bind fun s => s.runBefore after r

/-- Whether a layout is within a key. -/
def IsInKey (s : Layout) : Prop :=
  ∃ dotted, s.region = .key dotted ∨ s.region = .afterKey dotted

/-- Whether a layout is within a key or a text. -/
def IsUnfinished (s : Layout) : Prop :=
  s.IsInKey ∨ s.mark ≠ none

/-- Whether a character, before some others, breaks a rule in a layout: a key is on one line, its names are made of
certain characters and end in blanks, dots and the equals sign, something comes after a dot in it, a text that is not one
of several lines is on one line, and no line begins with an equals sign. -/
inductive Refuses (s : Layout) : Char → List Char → Fault → Prop
  | newlineInKey {rest : List Char} (hkey : s.IsInKey) : Refuses s '\n' rest .invalid
  | inName {dotted : Bool} {c : Char} {rest : List Char} (hcomment : s.inComment = false)
    (hregion : s.region = .key dotted) (hmark : s.mark = none) (hblank : isBlank c = false) (hdot : c ≠ '.')
    (hequals : c ≠ '=') (hname : isNameChar c = false)
    (hquoted : ¬(dotted = true ∧ s.before.head? = some '.' ∧ isMark c = true)) : Refuses s c rest .invalid
  | afterName {dotted : Bool} {c : Char} {rest : List Char} (hcomment : s.inComment = false)
    (hregion : s.region = .afterKey dotted) (hmark : s.mark = none) (hblank : isBlank c = false) (hdot : c ≠ '.')
    (hequals : c ≠ '=') : Refuses s c rest .invalid
  | nothingAfter {dotted : Bool} {c : Char} (hcomment : s.inComment = false) (hregion : s.region = .afterKey dotted)
    (hmark : s.mark = none) (hnewline : c ≠ '\n') (hc : c = '.' ∨ dotted = true ∧ isBlank c = true) :
    Refuses s c [] .noPart
  | newlineInText {rest : List Char} (hkey : ¬s.IsInKey) (hmark : s.mark ≠ none) (hlong : s.isLong = false) :
    Refuses s '\n' rest .invalid
  | noKey {rest : List Char} (hcomment : s.inComment = false) (hregion : s.region = .plain)
    (hstart : s.atStart = true) : Refuses s '=' rest .invalid

/-! ### Characters -/

private theorem nameStep_eq_error_iff {s : Layout} {dotted : Bool} {c : Char} {f : Fault} :
    s.nameStep dotted c = .error f ↔ f = .invalid ∧ isBlank c = false ∧ c ≠ '.' ∧ c ≠ '=' ∧ isNameChar c = false ∧
      ¬(dotted = true ∧ s.before.head? = some '.' ∧ isMark c = true) := by
  unfold nameStep isNameChar
  dsimp only
  split_ifs <;> grind

private theorem resume_eq_error_iff {s : Layout} {next : Option Char} {f : Fault} :
    s.resume next = .error f ↔ f = .noPart ∧ next = none := by
  cases next with
  | none => simp [resume, @eq_comm _ f]
  | some d => simp [resume]

private theorem afterNameStep_eq_error_iff {s : Layout} {dotted : Bool} {c : Char} {next : Option Char} {f : Fault} :
    s.afterNameStep dotted c next = .error f ↔
      (f = .invalid ∧ isBlank c = false ∧ c ≠ '.' ∧ c ≠ '=') ∨
        (f = .noPart ∧ next = none ∧ (c = '.' ∨ dotted = true ∧ isBlank c = true)) := by
  have hdot : isBlank '.' = false := by decide
  unfold afterNameStep
  split_ifs <;> grind [resume_eq_error_iff]

private theorem newline_eq_error_iff {s : Layout} {f : Fault} :
    s.newline = .error f ↔ f = .invalid ∧ s.mark ≠ none ∧ s.isLong = false := by
  have hcut : (s.mark.isSome && !s.isLong) = true ↔ s.mark ≠ none ∧ s.isLong = false := by
    simp [Option.isSome_iff_ne_none]
  unfold newline
  split_ifs <;> grind

private theorem keep_eq_error_iff {s : Layout} {c : Char} {f : Fault} :
    s.keep c = .error f ↔ f = .invalid ∧ c = '=' ∧ s.atStart = true ∧ s.region.isHeader = false := by
  unfold keep
  split_ifs <;> grind

/-- Within a key, a character cannot be laid out just if it breaks a rule on keys. -/
private theorem keyStep_eq_error_iff {s : Layout} {dotted : Bool} {c : Char} {rest : List Char} {f : Fault}
    (hcomment : s.inComment = false) (hregion : s.region = .key dotted ∨ s.region = .afterKey dotted) :
    s.keyStep dotted c rest.head? = .error f ↔ s.Refuses c rest f := by
  have hkey : s.IsInKey := ⟨dotted, hregion⟩
  have hhead : rest.head? = none ↔ rest = [] := List.head?_eq_none_iff
  unfold keyStep
  by_cases hc : c = '\n'
  · grind [Refuses]
  · cases hmark : s.mark with
    | some m => grind [Refuses]
    | none =>
      rcases hregion with hregion | hregion
      · simp only [hregion]
        grind [Refuses, nameStep_eq_error_iff]
      · simp only [hregion]
        grind [Refuses, afterNameStep_eq_error_iff]

private theorem isHeader_eq_false_iff {s : Layout} (hkey : ¬s.IsInKey) :
    s.region.isHeader = false ↔ s.region = .plain := by
  unfold IsInKey at hkey
  cases hregion : s.region <;> simp_all [Region.isHeader]

/-- Outside of keys, a character cannot be laid out just if it breaks another rule. -/
private theorem plainStep_eq_error_iff {s : Layout} {c : Char} {rest : List Char} {f : Fault} (hkey : ¬s.IsInKey)
    (hcomment : s.inComment = false) : s.plainStep c rest = .error f ↔ s.Refuses c rest f := by
  have hheader := isHeader_eq_false_iff hkey
  have hin : ∀ dotted, s.region ≠ .key dotted ∧ s.region ≠ .afterKey dotted := by
    intro dotted
    exact ⟨fun h => hkey ⟨dotted, .inl h⟩, fun h => hkey ⟨dotted, .inr h⟩⟩
  unfold plainStep
  by_cases hnewline : c = '\n'
  · grind [Refuses, newline_eq_error_iff]
  by_cases hequals : c = '='
  · subst hequals
    have hmark : isMark '=' = false := by decide
    have hbracket : s.bracket '=' rest.head? = s := by
      unfold bracket
      simp
    grind [Refuses, keep_eq_error_iff]
  · grind [Refuses, keep_eq_error_iff]

private theorem refuses_newline_iff {s : Layout} {rest : List Char} {f : Fault} :
    s.Refuses '\n' rest f ↔ f = .invalid ∧ (s.IsInKey ∨ s.mark ≠ none ∧ s.isLong = false) := by
  have hblank : isBlank '\n' = true := by decide
  grind [Refuses]

/-- Whether a comment is open does not matter to the end of the line, and to no character where none is open. -/
private theorem refuses_outside_comment_iff {s : Layout} {c : Char} {rest : List Char} {f : Fault}
    (h : ¬(s.inComment = true ∧ c ≠ '\n')) :
    ({ s with inComment := false } : Layout).Refuses c rest f ↔ s.Refuses c rest f := by
  by_cases hc : c = '\n'
  · subst hc
    rw [refuses_newline_iff, refuses_newline_iff]
    rfl
  · have hcomment : s.inComment = false := by simpa [hc] using h
    have hs : ({ s with inComment := false } : Layout) = s := by
      rw [← hcomment]
    rw [hs]

/-- A character cannot be laid out just if it breaks a rule. -/
private theorem step_eq_error_iff {s : Layout} {c : Char} {rest : List Char} {f : Fault} :
    s.step c rest = .error f ↔ s.Refuses c rest f := by
  unfold step
  by_cases hskip : s.inComment = true ∧ c ≠ '\n'
  · grind [Refuses]
  · rw [if_neg (by simpa using hskip), ← refuses_outside_comment_iff hskip]
    cases s.region with
    | key dotted => exact keyStep_eq_error_iff rfl (.inl rfl)
    | afterKey dotted => exact keyStep_eq_error_iff rfl (.inr rfl)
    | _ =>
      apply plainStep_eq_error_iff _ rfl
      simp [IsInKey]

/-! ### Texts -/

private theorem runBefore_nil (s : Layout) (cs : List Char) : s.runBefore [] cs = s.run cs := by
  induction cs generalizing s with
  | nil => rfl
  | cons c r ih => simp only [runBefore, run, List.append_nil, ih]

/-- A text cannot be laid out just if there is a character in it that cannot, after those before it. -/
private theorem run_eq_error_iff {s : Layout} {cs : List Char} {f : Fault} : s.run cs = .error f ↔
    ∃ before c after, cs = before ++ c :: after ∧
      ∃ l, s.runBefore (c :: after) before = .ok l ∧ l.Refuses c after f := by
  have hturns : TakesInTurn step run fun after s => s.runBefore after :=
    ⟨fun _ => rfl, fun _ _ _ => rfl, fun _ _ => rfl, fun _ _ _ _ => rfl⟩
  simp only [← step_eq_error_iff]
  exact hturns.eq_error_iff

private theorem lines_eq_error_iff {s : Layout} {f : Fault} : s.lines = .error f ↔ f = .invalid ∧ s.IsUnfinished := by
  unfold lines IsUnfinished IsInKey
  cases s.region with
  | key dotted => simp [eq_comm]
  | afterKey dotted => simp [eq_comm]
  | _ => cases s.mark <;> simp [eq_comm]

end Layout

/-- Lines cannot be read just if there is one that cannot, after those before it. -/
private theorem addLines_eq_error_iff {d : Draft} {ls : List (List Char)} {f : Fault} :
    ls.foldlM Draft.addLine d = .error f ↔ ∃ before line after, ls = before ++ line :: after ∧
      ∃ d', before.foldlM Draft.addLine d = .ok d' ∧ d'.addLine line = .error f := by
  have hturns : TakesInTurn (fun d line _ => Draft.addLine d line) (fun d ls => ls.foldlM Draft.addLine d)
      fun _ d ls => ls.foldlM Draft.addLine d :=
    ⟨fun _ => rfl, fun _ _ _ => List.foldlM_cons, fun _ _ => rfl, fun _ _ _ _ => List.foldlM_cons⟩
  exact hturns.eq_error_iff

/-- Whether a document breaks off with a fault: at a character, at its end or at a line. -/
inductive BreaksOff (s : List Char) : Fault → Prop
  | character {before after : List Char} {c : Char} {l : Layout} {f : Fault} (hs : s = before ++ c :: after)
    (hbefore : Layout.empty.runBefore (c :: after) before = .ok l) (hc : l.Refuses c after f) : BreaksOff s f
  | unfinished {l : Layout} (hs : Layout.empty.runBefore [] s = .ok l) (hl : l.IsUnfinished) : BreaksOff s .invalid
  | line {before after : List (List Char)} {line : List Char} {d : Draft} {f : Fault}
    (hs : lines s = .ok (before ++ line :: after)) (hbefore : before.foldlM Draft.addLine .empty = .ok d)
    (hline : d.addLine line = .error f) : BreaksOff s f

private theorem breaksOff_of_lines {s : List Char} {f : Fault} (h : lines s = .error f) : BreaksOff s f := by
  unfold lines at h
  cases hrun : Layout.empty.run s with
  | error e =>
    rw [hrun] at h
    obtain rfl : e = f := Except.error.inj h
    obtain ⟨before, c, after, hs, l, hbefore, hc⟩ := Layout.run_eq_error_iff.1 hrun
    exact .character hs hbefore hc
  | ok l =>
    rw [hrun] at h
    obtain ⟨rfl, hl⟩ := Layout.lines_eq_error_iff.1 h
    exact .unfinished (by rwa [Layout.runBefore_nil]) hl

/-- A document cannot be read just if it breaks off. -/
theorem document_eq_error_iff {memory : List Nat → Nat} {s : List Char} {f : Fault} :
    document memory s = .error f ↔ BreaksOff s f := by
  constructor
  · intro h
    cases hlines : lines s with
    | error e =>
      rw [document, hlines] at h
      obtain rfl : e = f := Except.error.inj h
      exact breaksOff_of_lines hlines
    | ok ls =>
      cases hlast : ls.foldlM Draft.addLine .empty with
      | error e =>
        rw [document, hlines] at h
        change (ls.foldlM Draft.addLine .empty).map _ = _ at h
        rw [hlast] at h
        obtain rfl : e = f := Except.error.inj h
        obtain ⟨before, line, after, rfl, d, hbefore, hline⟩ := addLines_eq_error_iff.1 hlast
        exact .line hlines hbefore hline
      | ok d => cases (document_of_lines hlines hlast memory).symm.trans h
  · intro h
    have hlines : lines s = .error f → document memory s = .error f := by
      intro h
      rw [document, h]
      rfl
    cases h with
    | character hs hbefore hc =>
      apply hlines
      have hrun : Layout.empty.run s = .error f :=
        Layout.run_eq_error_iff.2 ⟨_, _, _, hs, _, hbefore, hc⟩
      rw [lines, hrun]
      rfl
    | unfinished hs hl =>
      apply hlines
      rw [Layout.runBefore_nil] at hs
      rw [lines, hs]
      exact Layout.lines_eq_error_iff.2 ⟨rfl, hl⟩
    | @line before after line d _ hs hbefore hline =>
      have hfold := addLines_eq_error_iff.2 ⟨before, line, after, rfl, d, hbefore, hline⟩
      rw [document, hs]
      change (List.foldlM Draft.addLine .empty _).map _ = _
      rw [hfold]
      rfl

/-! ### Words -/

/-- The characters of words in ASCII neither end a word nor begin anything else. -/
private theorem isHeaderChar_cases {c : Char} (h : isHeaderChar c = true) :
    isNameChar c = true ∧ isBlank c = false ∧ isMark c = false ∧
      c ≠ '\n' ∧ c ≠ ' ' ∧ c ≠ '\t' ∧ c ≠ '#' ∧ c ≠ '.' ∧ c ≠ '=' ∧ c ≠ '[' ∧ c ≠ ']' := by
  have hbounds : 0x20 < c.toNat ∧ c.toNat < 0x7F := by
    simp only [isHeaderChar, Bool.or_eq_true, isAlphanum_iff, beq_iff_eq] at h
    rcases h with (h | rfl) | rfl
    · omega
    · decide
    · decide
  have hother : ∀ d, isHeaderChar d = false → c ≠ d := by
    rintro d hd rfl
    rw [h] at hd
    cases hd
  refine ⟨?_, isBlank_of_visible hbounds.1 hbounds.2, ?_, ?_⟩
  · have hascii : c.toNat < 0x80 := by omega
    rw [isNameChar, isAlphanumeric, if_pos hascii]
    exact h
  · have hsingle := hother singleMark (by decide)
    have hdouble := hother doubleMark (by decide)
    simp [isMark, hsingle, hdouble]
  · refine ⟨?_, ?_, ?_, ?_, ?_, ?_, ?_, ?_⟩
    all_goals exact hother _ (by decide)

/-- A character of a word leaves the layout within the word. -/
private theorem exists_runBefore_of_name {s : Layout} (hregion : s.region = .key false) (hmark : s.mark = none)
    (hcomment : s.inComment = false) {name : List Char} (hname : ∀ c ∈ name, isHeaderChar c = true)
    (after : List Char) : ∃ l, s.runBefore after name = .ok l ∧ l.region = .key false := by
  induction name generalizing s with
  | nil => exact ⟨s, rfl, hregion⟩
  | cons c r ih =>
    obtain ⟨hc, hr⟩ := List.forall_mem_cons.1 hname
    obtain ⟨hbare, hblank, -, hnewline, -, -, -, hdot, -⟩ := isHeaderChar_cases hc
    have hstep : s.step c (r ++ after) = .ok (s.push c) := by
      have hname : (isAlphanumeric c || c == '_' || c == '-') = true := hbare
      cases s
      cases hregion
      cases hmark
      cases hcomment
      simp only [Layout.step, Layout.keyStep, Layout.nameStep, Layout.push, hblank, hname]
      simp [hnewline, hdot]
    rw [Layout.runBefore, hstep]
    exact ih (s := s.push c) hregion hmark hcomment hr

/-- A word begins a key, also after blanks. -/
private theorem exists_runBefore_of_word {s : Layout} (hregion : s.region = .plain) (hmark : s.mark = none)
    (hcomment : s.inComment = false) (hstart : s.atStart = true) {blanks : List Char} {c : Char} {word : List Char}
    (hblanks : ∀ c ∈ blanks, c = ' ' ∨ c = '\t') (hword : ∀ d ∈ c :: word, isHeaderChar d = true)
    (after : List Char) : ∃ l, s.runBefore after (blanks ++ c :: word) = .ok l ∧ l.region = .key false := by
  induction blanks generalizing s with
  | nil =>
    obtain ⟨hc, hr⟩ := List.forall_mem_cons.1 hword
    obtain ⟨-, -, hcmark, hnewline, hspace, htab, hhash, -, hequals, hopen, hclose⟩ := isHeaderChar_cases hc
    have hstep : s.step c (word ++ after) = .ok { s.push c with atStart := false, region := .key false } := by
      cases s
      cases hregion
      cases hmark
      cases hcomment
      cases hstart
      simp [Layout.step, Layout.plainStep, Layout.bracket, Layout.keep, Layout.push, Region.isHeader, hcmark, hnewline,
        hspace, htab, hhash, hequals, hopen, hclose]
    rw [List.nil_append, Layout.runBefore, hstep]
    exact exists_runBefore_of_name (s := { s.push c with atStart := false, region := .key false }) rfl hmark hcomment
      hr after
  | cons b bs ih =>
    obtain ⟨hb, hbs⟩ := List.forall_mem_cons.1 hblanks
    have hstep : s.step b (bs ++ c :: word ++ after) = .ok (s.push b) := by
      cases s
      cases hregion
      cases hmark
      cases hcomment
      rcases hb with rfl | rfl <;>
        simp [Layout.step, Layout.plainStep, Layout.bracket, Layout.keep, Layout.push, isMark, singleMark, doubleMark]
    rw [List.cons_append, Layout.runBefore, hstep]
    exact ih (s := s.push b) hregion hmark hcomment hstart hbs

/-- A document that begins with a word on a line of its own is no valid document. -/
theorem breaksOff_of_word {blanks word : List Char} (hblanks : ∀ c ∈ blanks, c = ' ' ∨ c = '\t') (hne : word ≠ [])
    (hword : ∀ c ∈ word, isHeaderChar c = true) (rest : List Char) :
    BreaksOff (blanks ++ word ++ '\n' :: rest) .invalid := by
  obtain ⟨c, word, rfl⟩ := List.exists_cons_of_ne_nil hne
  obtain ⟨l, hl, hregion⟩ := exists_runBefore_of_word (s := .empty) rfl rfl rfl rfl hblanks hword ('\n' :: rest)
  exact .character rfl hl (.newlineInKey ⟨false, .inl hregion⟩)

end Endpoint.Toml
