import Endpoint.Proofs.HostPort
import Endpoint.Proofs.LogSetup

/-!
# Ports that are listed or counted

The command `ports` lists the ports of a specification, or with `--count` says how many they are. Both ways the
specification is checked as a whole before anything is written: `Command.ports_listed_or_counted`. The output has no
escape characters, so nothing is taken out of it where no terminal shows it (`Command.plain_runPorts`).
-/

namespace Endpoint.Command

open Text

/-- The lines that show some ports, one on each. -/
def portLines (ports : List Int) : List String :=
  ports.map fun p => toString p ++ "\n"

private theorem runSubcommand_ports {spec : String} (h : spec.toList.head? ≠ some '-') (m : Machine) :
    runSubcommand m .ports [spec] = runPorts m spec false ∧
      runSubcommand m .ports [spec, "--count"] = runPorts m spec true := by
  have hlist : parse (Scope.command .ports).specs true [spec] = .ok ⟨[], [spec]⟩ := by
    rw [parse_cons_argument h]
    rfl
  have hoption : parse (Scope.command .ports).specs true ["--count"] = .ok ⟨[("--count", none)], []⟩ := by
    rw [parse]
    rfl
  have hcount : parse (Scope.command .ports).specs true [spec, "--count"] = .ok ⟨[("--count", none)], [spec]⟩ := by
    rw [parse_cons_argument h, hoption]
    rfl
  exact ⟨runSubcommand_of_makes ⟨_, hlist, rfl, rfl⟩ m, runSubcommand_of_makes ⟨_, hcount, rfl, rfl⟩ m⟩

/-! ### Output -/

private theorem escapeChar_not_mem_decimal (n : Nat) : escapeChar ∉ (toString n ++ "\n").toList := by
  have hdigits : escapeChar ∉ decimal n := not_mem_decimal (by decide) n
  rw [Nat.toString_eq_ofList_toDigits, String.toList_append, String.toList_ofList, List.mem_append, not_or]
  exact ⟨hdigits, by decide⟩

/-- The ports of a specification are natural numbers, so there is no hyphen before their digits. -/
private theorem portLines_ofRanges (rs : List PortRange) :
    portLines (Candidates.ofRanges rs).toList = (PortSpec.expand rs).map fun p => toString p ++ "\n" := by
  rw [portLines, Candidates.toList_ofRanges, List.map_map]
  rfl

private theorem escapeChar_not_mem_join {lines : List String} (h : ∀ l ∈ lines, escapeChar ∉ l.toList) :
    escapeChar ∉ (String.join lines).toList := by
  induction lines with
  | nil => simp
  | cons l ls ih =>
    rw [String.join_cons, String.toList_append, List.mem_append, not_or]
    exact ⟨h l List.mem_cons_self, ih fun l' hl => h l' (List.mem_cons_of_mem l hl)⟩

/-- What is written of a specification: its ports on a line each, or how many they are, or why it is refused. -/
private theorem plain_runPorts (m : Machine) (spec : String) (countOnly : Bool) :
    let f := (runPorts m spec countOnly).plain
    match Candidates.ofSpec (some spec) with
    | .ok c => f.status = .ok 0 ∧ f.stderr = "" ∧
        f.stdout = if countOnly then toString (portLines c.toList).length ++ "\n" else String.join (portLines c.toList)
    | .error e => f.status = .ok 1 ∧ f.stderr = withoutSequences ("Error: " ++ e.message ++ "\n") ∧ f.stdout = "" := by
  rw [Candidates.ofSpec, PortSpec.parse?]
  unfold runPorts
  cases PortSpec.parse spec with
  | error e => exact ⟨rfl, String.empty_append, rfl⟩
  | ok rs =>
    have hlength : (portLines (Candidates.ofRanges rs).toList).length = PortSpec.size rs := by
      rw [portLines_ofRanges, List.length_map, PortSpec.length_expand]
    cases countOnly with
    | true =>
      refine ⟨rfl, rfl, ?_⟩
      rw [if_pos rfl, hlength]
      exact withoutSequences_of_not_mem (escapeChar_not_mem_decimal _)
    | false =>
      refine ⟨rfl, rfl, ?_⟩
      rw [if_neg Bool.false_ne_true, portLines_ofRanges]
      apply withoutSequences_of_not_mem
      apply escapeChar_not_mem_join
      intro l hl
      obtain ⟨p, -, rfl⟩ := List.mem_map.1 hl
      exact escapeChar_not_mem_decimal p

/-! ### The command -/

/-- Where the settings can be had and their level can be one, listing the ports of a specification and counting them end
with the same status and the same complaint. With status 0 the ports are written on a line each, in the order of the
specification, and the count is the number of these lines; with status 1 neither writes anything to standard output. -/
theorem ports_listed_or_counted (m : Machine) {k : Nat} {config : Config} (hget : m.getConfig.1 = .ok (k, config))
    (hlevel : Log.IsLevel config.logLevel) (spec : String) (hspec : spec.toList.head? ≠ some '-') :
    let listed := run m ["ports", spec]
    let counted := run m ["ports", spec, "--count"]
    counted.status = listed.status ∧ counted.stderr = listed.stderr ∧
      match Candidates.ofSpec (some spec) with
      | .ok c => listed.status = .ok 0 ∧ listed.stdout = String.join (portLines c.toList) ∧
          counted.stdout = toString (portLines c.toList).length ++ "\n"
      | .error e => listed.status = .ok 1 ∧ listed.stdout = "" ∧ counted.stdout = "" ∧
          listed.stderr = withoutSequences ("Error: " ++ e.message ++ "\n") := by
  intro listed counted
  obtain ⟨logging, hlisted⟩ : ∃ l, listed = _ := exists_run_name_eq hget hlevel .ports [spec]
  obtain ⟨logging', hcounted⟩ : ∃ l, counted = _ := exists_run_name_eq hget hlevel .ports [spec, "--count"]
  rw [(runSubcommand_ports hspec _).1] at hlisted
  rw [(runSubcommand_ports hspec _).2] at hcounted
  have hlist := plain_runPorts { m.getConfig.2 with logging := logging } spec false
  have hcount := plain_runPorts { m.getConfig.2 with logging := logging' } spec true
  dsimp only at hlist hcount
  rw [← hlisted] at hlist
  rw [← hcounted] at hcount
  cases hspec : Candidates.ofSpec (some spec) with
  | ok c =>
    rw [hspec] at hlist hcount
    obtain ⟨hstatus, hstderr, hstdout⟩ := hlist
    obtain ⟨hstatus', hstderr', hstdout'⟩ := hcount
    exact ⟨hstatus'.trans hstatus.symm, hstderr'.trans hstderr.symm, hstatus, hstdout, hstdout'⟩
  | error e =>
    rw [hspec] at hlist hcount
    obtain ⟨hstatus, hstderr, hstdout⟩ := hlist
    obtain ⟨hstatus', hstderr', hstdout'⟩ := hcount
    exact ⟨hstatus'.trans hstatus.symm, hstderr'.trans hstderr.symm, hstatus, hstdout, hstdout', hstderr⟩

/-- Ports are listed as often as they are named, and a token that is refused takes back the ones before it. -/
theorem ports_listed_or_counted_twice :
    let m := Machine.withoutFiles .idle
    m.getConfig.1 = .ok (0, Config.defaults) ∧ Log.IsLevel Config.defaults.logLevel ∧
      "5,2-3,2".toList.head? ≠ some '-' ∧ (run m ["ports", "5,2-3,2"]).stdout = "5\n2\n3\n2\n" ∧
      (run m ["ports", "5,2-3,2", "--count"]).stdout = "4\n" ∧
      "5,2-3,".toList.head? ≠ some '-' ∧ (run m ["ports", "5,2-3,"]).stdout = "" ∧
      (run m ["ports", "5,2-3,"]).status = .ok 1 := by
  intro m
  have hget := Machine.getConfig_withoutFiles .idle
  have hports := ports_listed_or_counted m hget Config.isLevel_defaults
  obtain ⟨-, -, htwice⟩ := hports "5,2-3,2" (by decide)
  obtain ⟨-, -, hrefused⟩ := hports "5,2-3," (by decide)
  have hspec : Candidates.ofSpec (some "5,2-3,2") = .ok ⟨[⟨5, 1⟩, ⟨2, 2⟩, ⟨2, 1⟩]⟩ := rfl
  have herror : Candidates.ofSpec (some "5,2-3,") = .error (.token "" "5,2-3,") := rfl
  rw [hspec] at htwice
  rw [herror] at hrefused
  obtain ⟨-, hlisted, hcounted⟩ := htwice
  obtain ⟨hstatus, hstdout, -⟩ := hrefused
  refine ⟨hget, Config.isLevel_defaults, by decide, hlisted, hcounted, by decide, hstdout, hstatus⟩

end Endpoint.Command
