import Endpoint.Proofs.SettingsFile

/-!
# Where each setting comes from

Each setting has a variable in the environment and a place in the file, and no two settings share either.

* (sources) A setting is what its variable says, if that counts, or else what its place in the file holds, or else its
  default.
* (independence) After a change of one variable, of one place in the file, or of a section that settings are not looked
  for in, all other settings are the same.
* (ranges) Both hold of the files whose range of ports has a text: `load_resolves_fields_iff`. A range without one keeps
  all settings from being loaded, also if a variable names another range: `load_fails_on_offset`.
-/

namespace Endpoint

/-- The environment with a variable set to a text, or taken out. -/
def Environment.change (e : Environment) (name : String) : Option String → Environment
  | some s => e.set name s
  | none => e.unset name

private theorem Environment.get?_change (e : Environment) (name other : String) (x : Option String) :
    (e.change name x).get? other = if other = name then x else e.get? other := by
  cases x with
  | some s => exact e.get?_set name s other
  | none => exact e.get?_unset name other

namespace Value

/-- The entries of a table with a value under a key, or with none. -/
def changeEntry (es : List (String × Value)) (key : String) : Option Value → List (String × Value)
  | some v => (key, v) :: es.filter (·.1 ≠ key)
  | none => es.filter (·.1 ≠ key)

private theorem entry?_eq_lookup (es : List (String × Value)) (key : String) : entry? es key = es.lookup key := by
  induction es with
  | nil => rfl
  | cons e r ih =>
    obtain ⟨k, v⟩ := e
    by_cases hk : key = k
    · subst hk
      simp [Value.entry?]
    · have hkey : (key == k) = false := by simpa using hk
      have hk' : (k == key) = false := by simpa using Ne.symm hk
      rw [List.lookup_cons, hkey, ← ih]
      simp only [Value.entry?, List.find?_cons, hk']

private theorem entry?_changeEntry (es : List (String × Value)) (key other : String) (x : Option Value) :
    entry? (changeEntry es key x) other = if other = key then x else entry? es other := by
  simp only [Value.entry?_eq_lookup]
  by_cases h : other = key
  · subst h
    rw [if_pos rfl]
    cases x with
    | some v => exact List.lookup_cons_self
    | none => exact lookup_filter_self other es
  · rw [if_neg h]
    cases x with
    | some v =>
      have hne : (other == key) = false := by simpa using h
      rw [changeEntry, List.lookup_cons, hne]
      exact lookup_filter_of_ne h es
    | none => exact lookup_filter_of_ne h es

end Value

namespace Config

open Value (changeEntry entry?_changeEntry)

/-- The fields of the settings. -/
inductive Field where
  | range
  | backlog
  | bindHost
  | preferV6
  | logLevel
  deriving DecidableEq, Repr

namespace Field

def get : Field → Config → Value
  | .range, c => c.range
  | .backlog, c => c.backlog
  | .bindHost, c => c.bindHost
  | .preferV6, c => c.preferV6
  | .logLevel, c => c.logLevel

def variableName : Field → String
  | .range => "HOSTPORT_PORT_RANGE"
  | .backlog => "HOSTPORT_BACKLOG"
  | .bindHost => "HOSTPORT_BIND_HOST"
  | .preferV6 => "HOSTPORT_PREFER_IPV6"
  | .logLevel => "HOSTPORT_LOG_LEVEL"

def place : Field → String × String
  | .range => ("ports", "range")
  | .backlog => ("ports", "backlog")
  | .bindHost => ("network", "bind_host")
  | .preferV6 => ("network", "prefer_ipv6")
  | .logLevel => ("logging", "log_level")

/-- What the text of a variable says about a field, if it counts. The preference takes every text, also an empty one;
the backlog takes what reads as an integer; the others take every text that is not empty. -/
def said? : Field → String → Option Value
  | .preferV6, s => some (.bool (s.toLower ∈ ["1", "true", "yes", "on"]))
  | .backlog, s => (Text.integer? s).map .int
  | _, s => if s = "" then none else some (.text s)

/-- How a field takes a value of the file: a range as the text of the value, if it has one, the others as it is. -/
def taken? : Field → Value → Option Value
  | .range, v => v.display.toOption.map .text
  | _, v => some v

/-- What a field is, by its variable and by the value in its place in the file. -/
def resolved (f : Field) (text : Option String) (written : Option Value) : Value :=
  ((text.bind f.said?).or (written.bind f.taken?)).getD (f.get defaults)

private theorem variableName_injective {f g : Field} (h : f.variableName = g.variableName) : f = g := by
  revert h
  cases f <;> cases g <;> decide

private theorem place_injective {f g : Field} (h : f.place = g.place) : f = g := by
  revert h
  cases f <;> cases g <;> decide

end Field

def written? (file : Toml.Entries) (f : Field) : Option Value :=
  (table? file f.place.1).bind fun es => Value.entry? es f.place.2

/-- The settings that the table of a file and the environment give. -/
def settle (e : Environment) (file : Toml.Entries) : Except LoadError Config :=
  (ofFile file).map fun c => c.withEnvironment e

/-- The table of a file with a value under a key of a section, or with none. -/
def changePlace (file : Toml.Entries) (part key : String) (x : Option Value) : Toml.Entries :=
  changeEntry file part (some (.table (changeEntry ((table? file part).getD []) key x)))

/-! ### Sources -/

private theorem isYes_eq (s : String) : isYes s = decide (s.toLower ∈ ["1", "true", "yes", "on"]) := by
  have hlower : String.ofList (s.toList.map Char.toLower) = s.toLower := by
    rw [← String.toList_inj, String.toList_ofList]
    exact String.toList_map.symm
  rw [isYes, hlower, List.contains_eq_mem]

private theorem get_withEnvironment (f : Field) (c : Config) (e : Environment) :
    f.get (c.withEnvironment e) = ((e.get? f.variableName).bind f.said?).getD (f.get c) := by
  have htext : ∀ name soFar, textOver e name soFar =
      ((e.get? name).bind fun s => if s = "" then none else some (.text s)).getD soFar := by
    intro name soFar
    unfold textOver
    cases e.get? name with
    | none => rfl
    | some s => by_cases hs : s = "" <;> simp [hs]
  cases f with
  | range => exact htext _ _
  | bindHost => exact htext _ _
  | logLevel => exact htext _ _
  | backlog =>
    simp only [Field.get, withEnvironment, integerOver, Field.variableName]
    cases e.get? "HOSTPORT_BACKLOG" with
    | none => rfl
    | some s => cases h : Text.integer? s <;> simp [Field.said?, h]
  | preferV6 =>
    simp only [Field.get, withEnvironment, booleanOver, Field.variableName]
    cases e.get? "HOSTPORT_PREFER_IPV6" with
    | none => rfl
    | some s => simp only [Option.bind_some, Field.said?, Option.getD_some, isYes_eq]

private theorem field_place (f : Field) (h : f ≠ .range) (file : Toml.Entries) (soFar : Value) :
    field (table? file f.place.1) f.place.2 soFar = ((written? file f).bind f.taken?).getD soFar := by
  have htaken : f.taken? = some := by
    cases f with
    | range => exact absurd rfl h
    | _ => rfl
  rw [htaken, Option.bind_fun_some, field, written?]

private theorem withPorts_eq {c d : Config} {es : Option Toml.Entries} (h : c.withPorts es = .ok d) :
    d = { c with
      range := ((es.bind fun es => Value.entry? es "range").bind Field.range.taken?).getD c.range
      backlog := field es "backlog" c.backlog } := by
  unfold withPorts at h
  split at h
  · next v hv =>
    split at h
    · next s hs =>
      obtain rfl := Except.ok.inj h
      rw [hv, Option.bind_some, Field.taken?, hs]
      rfl
    · cases h
  · next hnone =>
    obtain rfl := Except.ok.inj h
    rw [hnone]
    rfl

private theorem get_withFile (f : Field) {c c' : Config} {file : Toml.Entries} (h : c.withFile file = .ok c') :
    f.get c' = ((written? file f).bind f.taken?).getD (f.get c) := by
  obtain ⟨-, d, hd, rfl⟩ := withFile_eq_ok_iff.1 h
  obtain rfl := withPorts_eq hd
  cases f with
  | range => rfl
  | backlog => exact field_place .backlog (by decide) file c.backlog
  | bindHost => exact field_place .bindHost (by decide) file c.bindHost
  | preferV6 => exact field_place .preferV6 (by decide) file c.preferV6
  | logLevel => exact field_place .logLevel (by decide) file c.logLevel

theorem exists_settle_eq_ok (e : Environment) {file : Toml.Entries} (hsections : HasSections file)
    (hrange : HasRange file) :
    ∃ c, settle e file = .ok c ∧ ∀ f : Field, f.get c = f.resolved (e.get? f.variableName) (written? file f) := by
  obtain ⟨c, hc⟩ := exists_withFile_eq_ok_iff (c := defaults) |>.2 ⟨hsections, hrange⟩
  refine ⟨c.withEnvironment e, ?_, ?_⟩
  · rw [settle, ofFile, hc]
    rfl
  · intro f
    rw [get_withEnvironment, get_withFile f hc, Field.resolved, Option.getD_or]

/-- A range without a text is met before the environment is. -/
private theorem exists_settle_eq_unwritable {file : Toml.Entries} (hsections : HasSections file)
    (hrange : ¬HasRange file) : ∃ f, ∀ e, settle e file = .error (.unwritable f) := by
  have htable := hsections "ports" (by decide)
  have hports : section? file "ports" = .ok (table? file "ports") := section?_eq_ok_iff.2 ⟨rfl, htable⟩
  have hnone : ¬∃ d, defaults.withPorts (table? file "ports") = .ok d := fun h => hrange (exists_withPorts_eq_ok_iff.1 h)
  cases hd : defaults.withPorts (table? file "ports") with
  | ok d => exact absurd ⟨d, hd⟩ hnone
  | error err =>
    have herr : ∃ f, err = .unwritable f := by
      unfold withPorts at hd
      split at hd
      · split at hd
        · cases hd
        · next f _ => exact ⟨f, (Except.error.inj hd).symm⟩
      · cases hd
    obtain ⟨f, rfl⟩ := herr
    refine ⟨f, ?_⟩
    intro e
    rw [settle, ofFile, withFile, hports, Except.bind, hd]
    rfl

theorem load_of_fileTable {e : Environment} {t : FileTree} {file : Toml.Entries} (h : fileTable e t = .ok file) :
    load e t = settle e file := by
  rw [load, h]
  rfl

/-! ### Independence -/

/-- Where the file is does not depend on the variables for the fields. -/
private theorem fileTable_change (e : Environment) (f : Field) (x : Option String) (t : FileTree) :
    fileTable (e.change f.variableName x) t = fileTable e t := by
  have hother : ∀ name ∈ ["HOSTPORT_DATA_DIR", "HOME", "APPDATA"],
      (e.change f.variableName x).get? name = e.get? name := by
    intro name hname
    rw [e.get?_change, if_neg]
    rintro rfl
    revert hname
    cases f <;> decide
  have hsame : (e.change f.variableName x).account = e.account ∧ (e.change f.variableName x).memory = e.memory := by
    cases x with
    | some s => exact ⟨rfl, rfl⟩
    | none => exact ⟨rfl, rfl⟩
  have hpath : path? (e.change f.variableName x) = path? e := by
    simp only [path?, directory?, directory?.standard, home?, hother "HOSTPORT_DATA_DIR" (by decide),
      hother "HOME" (by decide), hsame.1]
  rw [fileTable, hpath, hsame.2, fileTable]

private theorem table?_changePlace (file : Toml.Entries) (part key : String) (x : Option Value) (name : String) :
    table? (changePlace file part key x) name =
      if name = part then some (changeEntry ((table? file part).getD []) key x) else table? file name := by
  rw [changePlace, table?, entry?_changeEntry]
  by_cases h : name = part
  · simp only [if_pos h]
  · simp only [if_neg h]
    rfl

private theorem written?_changePlace {file : Toml.Entries} {part key : String} {f : Field} (h : f.place ≠ (part, key))
    (x : Option Value) : written? (changePlace file part key x) f = written? file f := by
  rw [written?, table?_changePlace]
  by_cases hpart : f.place.1 = part
  · have hkey : f.place.2 ≠ key := fun hkey => h (Prod.ext hpart hkey)
    subst hpart
    rw [if_pos rfl, Option.bind_some, entry?_changeEntry, if_neg hkey, written?]
    cases table? file f.place.1 with
    | none => rfl
    | some es => rfl
  · rw [if_neg hpart, written?]

private theorem HasSections.changePlace {file : Toml.Entries} (h : HasSections file) (part key : String)
    (x : Option Value) :
    HasSections (changePlace file part key x) := by
  intro name hname v hv
  rw [Config.changePlace, entry?_changeEntry] at hv
  by_cases hpart : name = part
  · rw [if_pos hpart] at hv
    exact ⟨_, (Option.some.inj hv).symm⟩
  · rw [if_neg hpart] at hv
    exact h name hname v hv

private theorem HasRange.changePlace {file : Toml.Entries} (h : HasRange file) {part key : String} {x : Option Value}
    (hx : (part, key) = ("ports", "range") → ∀ v ∈ x, v.HasText) : HasRange (changePlace file part key x) := by
  intro v hv
  by_cases hplace : Field.range.place = (part, key)
  · obtain ⟨rfl, rfl⟩ := Prod.mk.inj hplace
    rw [table?_changePlace, if_pos rfl, Option.bind_some, entry?_changeEntry, if_pos rfl] at hv
    exact hx rfl v hv
  · exact h v ((written?_changePlace (f := .range) hplace x).symm.trans hv)

private theorem ofFile_changeEntry {part : String} (h : part ∉ sections) (file : Toml.Entries) (x : Option Value) :
    ofFile (changeEntry file part x) = ofFile file := by
  have hsection : ∀ name ∈ sections, section? (changeEntry file part x) name = section? file name := by
    intro name hname
    have hne : name ≠ part := by
      rintro rfl
      exact h hname
    rw [section?, entry?_changeEntry, if_neg hne, section?]
  rw [ofFile, withFile, hsection "ports" (by decide), hsection "network" (by decide), hsection "logging" (by decide),
    ofFile, withFile]

/-- The table of a file whose sections are tables gives settings if and only if its range of ports, where it has one, has
a text; without one it gives none whatever the variables are. If it does, each field of the settings is what its variable
says, if that counts, or else what is in its place in the file, or else its default; and if one variable, one place in
the file, or a section that settings are not looked for in changes, the other fields stay the same. -/
theorem load_resolves_fields_iff (e : Environment) (file : Toml.Entries) (h : HasSections file) :
    ((∃ c, settle e file = .ok c) ↔ HasRange file) ∧
    (¬HasRange file → ∃ f, ∀ e', settle e' file = .error (.unwritable f) ∧
      ∀ t, fileTable e' t = .ok file → load e' t = .error (.unwritable f)) ∧
    ∀ c, settle e file = .ok c →
      (∀ t, fileTable e t = .ok file → load e t = .ok c) ∧
      (∀ f : Field, f.get c = f.resolved (e.get? f.variableName) (written? file f)) ∧
      (∀ (g : Field) (x : Option String), ∃ c', settle (e.change g.variableName x) file = .ok c' ∧
        (∀ t, fileTable e t = .ok file → load (e.change g.variableName x) t = .ok c') ∧
        ∀ f ≠ g, f.get c' = f.get c) ∧
      (∀ part key x, ((part, key) = ("ports", "range") → ∀ v ∈ x, v.HasText) →
        ∃ c', settle e (changePlace file part key x) = .ok c' ∧
          (∀ f : Field, f.place ≠ (part, key) → f.get c' = f.get c) ∧
          ∀ g : Field, g.place = (part, key) → ∀ f ≠ g, f.get c' = f.get c) ∧
      ∀ part ∉ sections, ∀ x, settle e (changeEntry file part x) = .ok c := by
  have hsettle : (∃ c, settle e file = .ok c) ↔ HasRange file := by
    constructor
    · rintro ⟨c, hc⟩
      by_contra hrange
      obtain ⟨f, hf⟩ := exists_settle_eq_unwritable h hrange
      cases hc.symm.trans (hf e)
    · intro hrange
      obtain ⟨c, hc, -⟩ := exists_settle_eq_ok e h hrange
      exact ⟨c, hc⟩
  refine ⟨hsettle, ?_, ?_⟩
  · intro hrange
    obtain ⟨f, hf⟩ := exists_settle_eq_unwritable h hrange
    exact ⟨f, fun e' => ⟨hf e', fun t ht => (load_of_fileTable ht).trans (hf e')⟩⟩
  intro c hc
  have hrange := hsettle.1 ⟨c, hc⟩
  have hfields : ∀ f : Field, f.get c = f.resolved (e.get? f.variableName) (written? file f) := by
    obtain ⟨d, hd, hfields⟩ := exists_settle_eq_ok e h hrange
    obtain rfl : d = c := Except.ok.inj (hd.symm.trans hc)
    exact hfields
  refine ⟨fun t ht => (load_of_fileTable ht).trans hc, hfields, ?_, ?_, ?_⟩
  · intro g x
    obtain ⟨c', hc', hfields'⟩ := exists_settle_eq_ok (e.change g.variableName x) h hrange
    refine ⟨c', hc', ?_, ?_⟩
    · intro t ht
      rw [load_of_fileTable ((fileTable_change e g x t).trans ht), hc']
    · intro f hf
      have hname : f.variableName ≠ g.variableName := fun hname => hf (Field.variableName_injective hname)
      rw [hfields', hfields, e.get?_change, if_neg hname]
  · intro part key x hx
    obtain ⟨c', hc', hfields'⟩ := exists_settle_eq_ok e (h.changePlace part key x) (hrange.changePlace hx)
    have hother : ∀ f : Field, f.place ≠ (part, key) → f.get c' = f.get c := by
      intro f hf
      rw [hfields', hfields, written?_changePlace hf]
    refine ⟨c', hc', hother, ?_⟩
    intro g hg f hf
    apply hother
    intro hplace
    exact hf (Field.place_injective (hplace.trans hg.symm))
  · intro part hpart x
    rw [settle, ofFile_changeEntry hpart, ← settle, hc]

/-- A range that is a number is taken as text, a backlog in a variable that is no integer does not count, and a
preference in a variable counts also when it is empty. -/
theorem load_resolves_fields_mixed :
    let e : Environment := .ofVars [("HOSTPORT_BACKLOG", "many"), ("HOSTPORT_PREFER_IPV6", "")]
    let file : Toml.Entries := [("ports", .table [("range", .int 6000), ("backlog", .text "8")]),
      ("network", .table [("prefer_ipv6", .bool true)])]
    HasSections file ∧ ∃ c, settle e file = .ok c ∧ c.range = .text "6000" ∧ c.backlog = .text "8" ∧
      c.bindHost = .text "127.0.0.1" ∧ c.preferV6 = .bool false := by
  intro e file
  have hsections : HasSections file := hasSections_iff.2 (by simp [file, Value.entry?])
  have hrange : HasRange file := by
    rintro v ⟨⟩
    exact (Value.exists_display_eq_ok_iff _).1 ⟨"6000", rfl⟩
  obtain ⟨hsettle, -, hresolves⟩ := load_resolves_fields_iff e file hsections
  obtain ⟨c, hc⟩ := hsettle.2 hrange
  have hfields := (hresolves c hc).2.1
  have hprefer : Field.resolved .preferV6 (some "") (some (.bool true)) = .bool false := by
    rw [Field.resolved, Option.bind_some, Field.said?, ← isYes_eq]
    rfl
  exact ⟨hsections, c, hc, hfields .range, hfields .backlog, hfields .bindHost, (hfields .preferV6).trans hprefer⟩

/-- A document of a header and one more line is read in two steps. -/
theorem document_of_header {s header line : List Char} {d d' : Toml.Draft}
    (hlines : Toml.lines s = .ok [header, line, []]) (hheader : Toml.Draft.empty.addLine header = .ok d)
    (hline : d.addLine line = .ok d') (hopened : d'.opened = none) (memory : List Nat → Nat) :
    Toml.document memory s = .ok (Toml.locatedEntries memory 0 d'.entries) := by
  have hblank : d'.addLine [] = .ok d' := by
    unfold Toml.Draft.addLine Toml.Draft.trimmed
    rw [hopened]
    rfl
  apply Toml.document_of_lines hlines
  rw [List.foldlM_cons, hheader]
  change ([line, []] : List (List Char)).foldlM Toml.Draft.addLine d = _
  rw [List.foldlM_cons, hline]
  change ([[]] : List (List Char)).foldlM Toml.Draft.addLine d' = _
  rw [List.foldlM_cons, hblank]
  rfl

private theorem document_offset :
    Toml.document (fun _ => 0) (Text.unifyNewlines "[ports]\nrange = 2020-01-01T00:00:00+99:00\n".toList) =
      .ok [("ports", .table [("range", .moment (.dateTime ⟨2020, 1, 1⟩ ⟨0, 0, 0, 0⟩ (some ⟨5940, 0⟩)))])] := by
  have hunified : Text.unifyNewlines "[ports]\nrange = 2020-01-01T00:00:00+99:00\n".toList =
      "[ports]\nrange = 2020-01-01T00:00:00+99:00\n".toList := rfl
  have hlines : Toml.lines "[ports]\nrange = 2020-01-01T00:00:00+99:00\n".toList =
      .ok ["[ports]".toList, "range = 2020-01-01T00:00:00+99:00".toList, []] := rfl
  have hheader : Toml.Draft.empty.addLine "[ports]".toList =
      .ok ⟨.table [("ports", Toml.emptyTable)], [.key "ports"], [], none⟩ := rfl
  have hparts : Toml.Assignment.ofLine "range = 2020-01-01T00:00:00+99:00".toList =
      .ok ⟨"range".toList, "2020-01-01T00:00:00+99:00".toList, true⟩ := rfl
  have hline : (⟨.table [("ports", Toml.emptyTable)], [.key "ports"], [], none⟩ : Toml.Draft).addLine
      "range = 2020-01-01T00:00:00+99:00".toList =
      .ok ⟨.table [("ports", .table [("range", .moment (.dateTime ⟨2020, 1, 1⟩ ⟨0, 0, 0, 0⟩ (some ⟨5940, 0⟩)))])],
        [.key "ports"], [], none⟩ := by
    have hassign (d : Toml.Draft) : d.opened = none → d.addLine "range = 2020-01-01T00:00:00+99:00".toList =
        (Toml.assign Toml.value d.root d.place "range = 2020-01-01T00:00:00+99:00".toList).map fun r =>
          { d with root := r.1, opened := r.2 } := by
      rintro h
      cases d
      cases h
      rfl
    rw [hassign _ rfl, Toml.assign, hparts]
    simp only [Except.bind]
    rfl
  rw [hunified]
  exact document_of_header hlines hheader hline rfl _

/-- A range of ports that is a moment in a zone of 99 hours keeps the settings from being loaded, although its section
is a table and the variable for the range says `80`. -/
theorem load_fails_on_offset :
    let e : Environment := .ofVars [("HOME", "/r"), ("HOSTPORT_PORT_RANGE", "80")]
    let text := "[ports]\nrange = 2020-01-01T00:00:00+99:00\n"
    let t : FileTree := ⟨[(["r"], .directory), (["r", ".hostport"], .directory),
      (["r", ".hostport", "hostport.toml"], .file (Text.encode text))], []⟩
    (∃ file, fileTable e t = .ok file ∧ HasSections file) ∧
      (e.get? Field.range.variableName).bind Field.range.said? = some (.text "80") ∧
      load e t = .error (.unwritable .offsetTooLarge) := by
  intro e text t
  have hfinds : Finds e t (some (.file (Text.encode text))) :=
    ⟨⟨1, ["r", ".hostport", "hostport.toml"]⟩, by decide +kernel, by decide +kernel⟩
  have htable : fileTable e t =
      .ok [("ports", .table [("range", .moment (.dateTime ⟨2020, 1, 1⟩ ⟨0, 0, 0, 0⟩ (some ⟨5940, 0⟩)))])] := by
    obtain ⟨p, hp, hfind⟩ := hfinds
    rw [fileTable, hp]
    dsimp only
    rw [hfind]
    exact tableOf_eq_ok_iff.2 (.inl ⟨text, rfl, document_offset⟩)
  have hload : load e t = .error (.unwritable .offsetTooLarge) := by
    rw [load_of_fileTable htable]
    rfl
  exact ⟨⟨_, htable, hasSections_iff.2 (by simp [Value.entry?])⟩, rfl, hload⟩

end Config

end Endpoint
