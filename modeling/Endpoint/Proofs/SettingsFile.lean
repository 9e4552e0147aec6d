import Endpoint.Config.Load
import Endpoint.Proofs.BrokenDocuments
import Endpoint.Proofs.Utf8
import Endpoint.Proofs.Writable
import Mathlib.Data.List.TakeWhile

/-!
# Files with settings

Which files with settings are ignored, and which ones keep the settings from being loaded.

* (place) The file can be looked for if something says where it is (`IsPlaced`), and neither its path nor a name in it
  is too long (`FileTree.IsTooLong`): `exists_path?_eq_some_iff`, `FileTree.find?_eq_error_iff`.
* (nothing to read) Without a file, or with a directory in its place, the settings are the defaults with the environment
  over them: `load_of_no_file`.
* (contents) The settings can be loaded if and only if the contents are the text of a document whose sections are tables
  and whose range of ports has a text (`IsSound`), or a text that breaks off as a valid document does not (`IsInvalid`).
  In the latter case they are the settings without a file: `load_ignores_invalid_iff`. Octets that are no text, for one,
  are not ignored: `load_fails_on_octet`.
-/

namespace Endpoint

/-! ### Looking for a path -/

namespace FileTree

/-- Whether a path cannot be looked for: its text is too long, or a name in it that is looked for in a directory. -/
def IsTooLong (t : FileTree) (p : Path) : Prop :=
  maxPath < p.text.utf8ByteSize ∨
    ∃ before name after, p.parts = before ++ name :: after ∧ maxName < name.utf8ByteSize ∧
      t.walk? (t.start p) before = some (some .directory)

private theorem walk?_cons {t : FileTree} {dir ps : List String} {p : String} (h : t.at? dir = some .directory) :
    t.walk? dir (p :: ps) = if p = ".." then t.walk? dir.dropLast ps
      else if maxName < p.utf8ByteSize then none else t.walk? (dir ++ [p]) ps := by
  rw [walk?, h]

private theorem walk?_cons_of_ne {t : FileTree} {dir ps : List String} {p : String} (h : t.at? dir ≠ some .directory) :
    t.walk? dir (p :: ps) = some none := by
  unfold walk?
  split
  · next hdir => exact absurd hdir h
  · rfl

/-- The names of a path are looked for in turn, and the first one that is too long is met. -/
private theorem walk?_eq_none_iff {t : FileTree} {dir parts : List String} : t.walk? dir parts = none ↔
    ∃ before name after, parts = before ++ name :: after ∧ maxName < name.utf8ByteSize ∧
      t.walk? dir before = some (some .directory) := by
  induction parts generalizing dir with
  | nil => simp [walk?]
  | cons p ps ih =>
    rw [Toml.exists_split_cons_iff]
    by_cases hdir : t.at? dir = some .directory
    · have hhere : t.walk? dir [] = some (some .directory) := by rw [walk?, hdir]
      simp only [walk?_cons hdir, hhere, and_true]
      split_ifs with hup hlong
      · have hshort : ¬maxName < p.utf8ByteSize := by
          rw [hup]
          decide
        rw [or_iff_right hshort, ih]
      · exact iff_of_true rfl (Or.inl hlong)
      · rw [or_iff_right hlong, ih]
    · have hhere : t.walk? dir [] ≠ some (some .directory) := by
        rw [walk?]
        exact fun h => hdir (Option.some.inj h)
      simp [walk?_cons_of_ne hdir, hhere]

/-- A path cannot be looked for just if it or a name in it is too long. -/
private theorem find?_eq_error_iff {t : FileTree} {p : Path} {f : TooLong} :
    t.find? p = .error f ↔ f = ⟨p.text⟩ ∧ t.IsTooLong p := by
  unfold find? IsTooLong
  rw [← walk?_eq_none_iff]
  split
  · next h => simp [h, @eq_comm _ f]
  · next h =>
    split
    · next node hnode => simp [h, hnode]
    · next hnone => simp [h, hnone, @eq_comm _ f]

end FileTree

namespace Config

/-- Whether something says where the file with settings is: a variable names its directory, or there is a home directory
that does not begin with a tilde. -/
def IsPlaced (e : Environment) : Prop :=
  (∃ s, e.get? "HOSTPORT_DATA_DIR" = some s ∧ s ≠ "") ∨
    ∃ home, (e.get? "HOME").or e.account = some home ∧ home.toList.head? ≠ some '~'

/-- Whether something, or nothing, is where the file with settings should be, and it can be looked for. -/
def Finds (e : Environment) (t : FileTree) (node : Option FileNode) : Prop :=
  ∃ p, path? e = some p ∧ t.find? p = .ok node

/-- What is left of a text without the slashes at its end begins as the text does. -/
private theorem head?_trimmed {s : List Char} :
    (s.reverse.dropWhile (· == '/')).reverse.head? = some '~' ↔ s.head? = some '~' := by
  have hprefix : (s.reverse.dropWhile (· == '/')).reverse <+: s := by
    have hsuffix := List.dropWhile_suffix (l := s.reverse) (· == '/')
    simpa using List.reverse_prefix.2 hsuffix
  obtain ⟨r, hr⟩ := hprefix
  cases htrimmed : (s.reverse.dropWhile (· == '/')).reverse with
  | nil =>
    have hall : ∀ c ∈ s.reverse, (c == '/') = true := List.dropWhile_eq_nil_iff.1 (List.reverse_eq_nil_iff.1 htrimmed)
    refine iff_of_false (by simp) ?_
    intro h
    have hmem : '~' ∈ s.reverse := List.mem_reverse.2 (List.mem_of_mem_head? h)
    exact absurd (hall _ hmem) (by decide)
  | cons c t =>
    rw [htrimmed] at hr
    rw [← hr]
    simp

private theorem exists_home?_eq_some_iff {e : Environment} : (∃ home, home? e = some home) ↔
    ∃ home, (e.get? "HOME").or e.account = some home ∧ home.toList.head? ≠ some '~' := by
  unfold home?
  cases (e.get? "HOME").or e.account with
  | none => simp
  | some home =>
    have htrimmed := head?_trimmed (s := home.toList)
    simp only [Option.some.injEq, exists_eq_left', ne_eq]
    split_ifs with htilde hempty
    · exact iff_of_false (by simp) fun h => h (htrimmed.1 htilde)
    · exact iff_of_true ⟨_, rfl⟩ fun h => htilde (htrimmed.2 h)
    · exact iff_of_true ⟨_, rfl⟩ fun h => htilde (htrimmed.2 h)

/-- Something says where the file is just if its path is known. -/
private theorem exists_path?_eq_some_iff {e : Environment} : (∃ p, path? e = some p) ↔ IsPlaced e := by
  have hstandard : (directory?.standard .other e).isSome = (home? e).isSome := Option.isSome_map
  rw [IsPlaced, ← exists_home?_eq_some_iff, ← Option.isSome_iff_exists, ← Option.isSome_iff_exists, path?,
    Option.isSome_map, ← hstandard]
  unfold directory?
  cases e.get? "HOSTPORT_DATA_DIR" with
  | none => simp
  | some s => by_cases hs : s = "" <;> simp [hs]

/-- The sections that settings are looked for in. -/
def sections : List String :=
  ["ports", "network", "logging"]

/-- Whether the sections that a table has are tables themselves. -/
def HasSections (file : Toml.Entries) : Prop :=
  ∀ name ∈ sections, ∀ v, Value.entry? file name = some v → ∃ es, v = .table es

/-- The entries of a section, if there is one and it is a table. -/
def table? (file : Toml.Entries) (name : String) : Option Toml.Entries :=
  match Value.entry? file name with
  | some (.table es) => some es
  | _ => none

/-- Whether the range of ports that a table has, if it has one, has a text. -/
def HasRange (file : Toml.Entries) : Prop :=
  ∀ v, ((table? file "ports").bind fun es => Value.entry? es "range") = some v → v.HasText

/-- Whether octets are the text of a document whose sections are tables and whose range of ports has a text. -/
def IsSound (memory : List Nat → Nat) (bytes : List Nat) : Prop :=
  ∃ s file, bytes = Text.encode s ∧ Toml.document memory (Text.unifyNewlines s.toList) = .ok file ∧ HasSections file ∧
    HasRange file

/-- Whether octets are a text that breaks off as a valid document does not. -/
def IsInvalid (bytes : List Nat) : Prop :=
  ∃ s, bytes = Text.encode s ∧ Toml.BreaksOff (Text.unifyNewlines s.toList) .invalid

/-! ### Sections -/

theorem section?_eq_ok_iff {file : Toml.Entries} {name : String} {r : Option Toml.Entries} : section? file name = .ok r ↔
    r = table? file name ∧ ∀ v, Value.entry? file name = some v → ∃ es, v = .table es := by
  unfold section? table?
  split
  · next h => simp [h, eq_comm]
  · next es h => simp [h, eq_comm]
  · next v hne h =>
    simp only [h, Option.some.injEq, forall_eq', reduceCtorEq, false_iff, not_and]
    rintro - ⟨es, rfl⟩
    exact hne es rfl

theorem hasSections_iff {file : Toml.Entries} :
    HasSections file ↔ (∀ v, Value.entry? file "ports" = some v → ∃ es, v = .table es) ∧
      (∀ v, Value.entry? file "network" = some v → ∃ es, v = .table es) ∧
      ∀ v, Value.entry? file "logging" = some v → ∃ es, v = .table es := by
  simp only [HasSections, sections, List.mem_cons, List.not_mem_nil, or_false, forall_eq_or_imp, forall_eq]

/-- A file goes over settings just if its sections are tables and the ports in it do. -/
theorem withFile_eq_ok_iff {c c' : Config} {file : Toml.Entries} : c.withFile file = .ok c' ↔
    HasSections file ∧ ∃ d, c.withPorts (table? file "ports") = .ok d ∧
      c' = (d.withNetwork (table? file "network")).withLog (table? file "logging") := by
  rw [hasSections_iff]
  constructor
  · intro h
    unfold withFile at h
    cases hports : section? file "ports" with
    | error e =>
      rw [hports] at h
      cases h
    | ok ports =>
      cases hd : c.withPorts ports with
      | error e =>
        rw [hports, Except.bind, hd] at h
        cases h
      | ok d =>
        cases hnetwork : section? file "network" with
        | error e =>
          rw [hports, Except.bind, hd, Except.bind, hnetwork] at h
          cases h
        | ok network =>
          cases hlog : section? file "logging" with
          | error e =>
            rw [hports, Except.bind, hd, Except.bind, hnetwork, hlog] at h
            cases h
          | ok log =>
            rw [hports, Except.bind, hd, Except.bind, hnetwork, hlog] at h
            obtain ⟨rfl, hp⟩ := section?_eq_ok_iff.1 hports
            obtain ⟨rfl, hn⟩ := section?_eq_ok_iff.1 hnetwork
            obtain ⟨rfl, hl⟩ := section?_eq_ok_iff.1 hlog
            exact ⟨⟨hp, hn, hl⟩, d, hd, (Except.ok.inj h).symm⟩
  · rintro ⟨⟨hp, hn, hl⟩, d, hd, rfl⟩
    rw [withFile, section?_eq_ok_iff.2 ⟨rfl, hp⟩, section?_eq_ok_iff.2 ⟨rfl, hn⟩, section?_eq_ok_iff.2 ⟨rfl, hl⟩,
      Except.bind, hd]
    rfl

theorem exists_withPorts_eq_ok_iff {c : Config} {es : Option Toml.Entries} : (∃ d, c.withPorts es = .ok d) ↔
    ∀ v, (es.bind fun es => Value.entry? es "range") = some v → v.HasText := by
  unfold withPorts
  cases es.bind fun es => Value.entry? es "range" with
  | none => exact iff_of_true ⟨_, rfl⟩ nofun
  | some v =>
    simp only [Option.some.injEq, forall_eq', ← Value.exists_display_eq_ok_iff]
    cases v.display with
    | error f => exact iff_of_false (by simp) (by simp)
    | ok s => exact iff_of_true ⟨_, rfl⟩ ⟨s, rfl⟩

theorem exists_withFile_eq_ok_iff {c : Config} {file : Toml.Entries} :
    (∃ c', c.withFile file = .ok c') ↔ HasSections file ∧ HasRange file := by
  rw [HasRange, ← exists_withPorts_eq_ok_iff (c := c)]
  constructor
  · rintro ⟨c', h⟩
    obtain ⟨hsections, d, hd, -⟩ := withFile_eq_ok_iff.1 h
    exact ⟨hsections, d, hd⟩
  · rintro ⟨hsections, d, hd⟩
    exact ⟨_, withFile_eq_ok_iff.2 ⟨hsections, d, hd, rfl⟩⟩

/-! ### The file -/

theorem load_of_file {e : Environment} {t : FileTree} {bytes : List Nat} (h : Finds e t (some (.file bytes))) :
    load e t = (tableOf e.memory bytes).bind fun file => (ofFile file).map fun c => c.withEnvironment e := by
  obtain ⟨p, hp, hfind⟩ := h
  rw [load, fileTable, hp]
  dsimp only
  rw [hfind]

theorem load_of_no_file {e : Environment} {t : FileTree} {node : Option FileNode} (h : Finds e t node)
    (hnode : ∀ bytes, node ≠ some (.file bytes)) : load e t = .ok (defaults.withEnvironment e) := by
  obtain ⟨p, hp, hfind⟩ := h
  have htable : fileTable e t = .ok [] := by
    rw [fileTable, hp]
    dsimp only
    rw [hfind]
    split
    · next h => cases h
    · next bytes h => exact absurd (Except.ok.inj h) (hnode bytes)
    · rfl
  rw [load, htable]
  rfl

/-- The file can be looked for just if something says where it is, and neither its path nor a name in it is too long. -/
private theorem exists_finds_iff {e : Environment} {t : FileTree} :
    (∃ node, Finds e t node) ↔ IsPlaced e ∧ ∀ p, path? e = some p → ¬t.IsTooLong p := by
  rw [← exists_path?_eq_some_iff]
  constructor
  · rintro ⟨node, p, hp, hfind⟩
    refine ⟨⟨p, hp⟩, ?_⟩
    intro q hq hlong
    obtain rfl : p = q := Option.some.inj (hp.symm.trans hq)
    cases hfind.symm.trans (FileTree.find?_eq_error_iff.2 ⟨rfl, hlong⟩)
  · rintro ⟨⟨p, hp⟩, hlong⟩
    cases hfind : t.find? p with
    | error f => exact absurd (FileTree.find?_eq_error_iff.1 hfind).2 (hlong p hp)
    | ok node => exact ⟨node, p, hp, hfind⟩

/-- Contents give a table just if they are a document or no valid one, where the latter gives an empty table. -/
theorem tableOf_eq_ok_iff {memory : List Nat → Nat} {bytes : List Nat} {file : Toml.Entries} :
    tableOf memory bytes = .ok file ↔
      (∃ s, bytes = Text.encode s ∧ Toml.document memory (Text.unifyNewlines s.toList) = .ok file) ∨
        IsInvalid bytes ∧ file = [] := by
  constructor
  · intro h
    unfold tableOf at h
    split at h
    · cases h
    · next s hs =>
      have hbytes := Text.decode_eq_ok_iff.1 hs
      split at h
      · next es hes =>
        obtain rfl := Except.ok.inj h
        exact Or.inl ⟨_, hbytes, by rwa [String.toList_ofList]⟩
      · next hinvalid =>
        obtain rfl := Except.ok.inj h
        exact Or.inr ⟨⟨_, hbytes, by rw [String.toList_ofList]; exact Toml.document_eq_error_iff.1 hinvalid⟩, rfl⟩
      · cases h
  · have hdecode : ∀ s, bytes = Text.encode s → Text.decode bytes = .ok s.toList := by
      intro s hs
      exact Text.decode_eq_ok_iff.2 (by rw [hs, String.ofList_toList])
    rintro (⟨s, hs, hdocument⟩ | ⟨⟨s, hs, hbreaks⟩, rfl⟩)
    · rw [tableOf, hdecode s hs]
      dsimp only
      rw [hdocument]
    · rw [tableOf, hdecode s hs]
      dsimp only
      rw [Toml.document_eq_error_iff.2 hbreaks]

private theorem exists_load_of_file_iff {e : Environment} {t : FileTree} {bytes : List Nat}
    (h : Finds e t (some (.file bytes))) : (∃ c, load e t = .ok c) ↔ IsSound e.memory bytes ∨ IsInvalid bytes := by
  have hload : (∃ c, load e t = .ok c) ↔
      ∃ file, tableOf e.memory bytes = .ok file ∧ HasSections file ∧ HasRange file := by
    rw [load_of_file h]
    cases htable : tableOf e.memory bytes with
    | error err => simp [Except.bind]
    | ok file =>
      have hok : (∃ c, defaults.withFile file = .ok c) ↔ HasSections file ∧ HasRange file := exists_withFile_eq_ok_iff
      cases hfile : defaults.withFile file with
      | error err => simp_all [Except.bind, Except.map, ofFile]
      | ok c => simp_all [Except.bind, Except.map, ofFile]
  rw [hload]
  constructor
  · rintro ⟨file, htable, hsections, hrange⟩
    rcases tableOf_eq_ok_iff.1 htable with ⟨s, hs, hdocument⟩ | ⟨hinvalid, -⟩
    · exact Or.inl ⟨s, file, hs, hdocument, hsections, hrange⟩
    · exact Or.inr hinvalid
  · rintro (⟨s, file, hs, hdocument, hsections, hrange⟩ | hinvalid)
    · exact ⟨file, tableOf_eq_ok_iff.2 (Or.inl ⟨s, hs, hdocument⟩), hsections, hrange⟩
    · have hsections : HasSections [] := by
        intro name _ v hv
        cases hv
      have hrange : HasRange [] := by
        intro v hv
        cases hv
      exact ⟨[], tableOf_eq_ok_iff.2 (Or.inr ⟨hinvalid, rfl⟩), hsections, hrange⟩

private theorem load_of_isInvalid {e : Environment} {t : FileTree} {bytes : List Nat}
    (h : Finds e t (some (.file bytes))) (hinvalid : IsInvalid bytes) :
    load e t = .ok (defaults.withEnvironment e) := by
  rw [load_of_file h, tableOf_eq_ok_iff.2 (Or.inr ⟨hinvalid, rfl⟩)]
  rfl

private theorem exists_finds_of_load_eq_ok {e : Environment} {t : FileTree} {c : Config} (h : load e t = .ok c) :
    ∃ node, Finds e t node := by
  unfold load fileTable at h
  split at h
  · cases h
  · next p hp =>
    cases hfind : t.find? p with
    | error f =>
      rw [hfind] at h
      cases h
    | ok node => exact ⟨node, p, hp, hfind⟩

end Config

end Endpoint
