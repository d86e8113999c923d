import Mathlib.Data.List.Nodup
import PlanetServer.Build.Runner
import PlanetServer.Proofs.Build.DiagnosticLine

/-!
# The problems that a build reports

The search of a whole output for the pattern of a diagnostic finds what matching each line finds, and
the groups by path hold each of the problems once.

* `reported` lists the problems that the lines of an output report.
* `IsGrouping` holds of groups that divide a list of problems by path, in the order of the list.
* `IsGrouping.addFinding` is the step, one problem more, and `groupByPath_isGrouping` the run.
-/

namespace PlanetServer.Build

/-- The problems that an output reports: each line that matches the pattern of a diagnostic reports
one, unless a number in it is too large. -/
def reported (output : List Char) : List Finding :=
  (lines output).filterMap fun line => (diagnosticLine.groups? line).bind Finding.ofGroups?

/-- The groups divide the problems by path, and keep their order. -/
structure IsGrouping (found : List Finding) (files : List FileDiagnostics) : Prop where
  /-- No two groups have the same path. -/
  distinct : (files.map FileDiagnostics.path).Nodup
  /-- The paths stand in the order in which they first occur. -/
  paths : files.map FileDiagnostics.path = (found.map Finding.path).eraseDups
  /-- No group is empty. -/
  nonempty : ∀ file ∈ files, file.diagnostics ≠ []
  /-- A group holds the problems with its path. -/
  diagnostics : ∀ file ∈ files,
    file.diagnostics = (found.filter (·.path = file.path)).map Finding.diagnostic
  /-- There are as many problems in the groups as in the list. -/
  count : (files.flatMap FileDiagnostics.diagnostics).length = found.length

/-! ### One problem more -/

theorem map_path_addFinding (files : List FileDiagnostics) (f : Finding) :
  (addFinding files f).map FileDiagnostics.path
    = if f.path ∈ files.map FileDiagnostics.path then files.map FileDiagnostics.path
      else files.map FileDiagnostics.path ++ [f.path]
  := by
  induction files with
  | nil => simp [addFinding]
  | cons file files ih =>
    by_cases same : file.path = f.path
    · simp [addFinding, same]
    · simp only [addFinding, if_neg same, List.map_cons, ih, List.mem_cons, Ne.symm same, false_or]
      split
      · rfl
      · rfl

theorem length_addFinding (files : List FileDiagnostics) (f : Finding) :
  ((addFinding files f).flatMap FileDiagnostics.diagnostics).length
    = (files.flatMap FileDiagnostics.diagnostics).length + 1
  := by
  induction files with
  | nil => rfl
  | cons file files ih =>
    by_cases same : file.path = f.path
    · simp only [addFinding, if_pos same, List.flatMap_cons, List.length_append, List.length_singleton]
      omega
    · simp only [addFinding, if_neg same, List.flatMap_cons, List.length_append, ih, Nat.add_assoc]

/-- A group with another path stays, and the group of the path of the problem gains it at the end. -/
theorem mem_addFinding {files : List FileDiagnostics} {f : Finding} {file : FileDiagnostics}
    (distinct : (files.map FileDiagnostics.path).Nodup) (member : file ∈ addFinding files f) :
  (file ∈ files ∧ file.path ≠ f.path)
    ∨ (∃ old ∈ files, old.path = f.path ∧ file = ⟨f.path, old.diagnostics ++ [f.diagnostic]⟩)
    ∨ (f.path ∉ files.map FileDiagnostics.path ∧ file = ⟨f.path, [f.diagnostic]⟩)
  := by
  induction files with
  | nil =>
    obtain rfl := List.mem_singleton.mp member
    apply Or.inr (Or.inr ⟨List.not_mem_nil, rfl⟩)
  | cons first files ih =>
    obtain ⟨new, distinct⟩ := List.nodup_cons.mp distinct
    by_cases same : first.path = f.path
    · rw [addFinding, if_pos same] at member
      rcases List.mem_cons.mp member with rfl | later
      · apply Or.inr (Or.inl ⟨first, List.mem_cons_self, same, same ▸ rfl⟩)
      · refine Or.inl ⟨List.mem_cons_of_mem _ later, ?_⟩
        -- the path of the first group occurs in no later one
        rintro again
        apply new
        rw [same, ← again]
        apply List.mem_map_of_mem later
    · rw [addFinding, if_neg same] at member
      rcases List.mem_cons.mp member with rfl | later
      · apply Or.inl ⟨List.mem_cons_self, same⟩
      · rcases ih distinct later with ⟨known, other⟩ | ⟨old, known, gains⟩ | ⟨fresh, alone⟩
        · apply Or.inl ⟨List.mem_cons_of_mem _ known, other⟩
        · apply Or.inr (Or.inl ⟨old, List.mem_cons_of_mem _ known, gains⟩)
        · refine Or.inr (Or.inr ⟨?_, alone⟩)
          simp [fresh, Ne.symm same]

theorem eraseDups_append_singleton (paths : List String) (path : String) :
  (paths ++ [path]).eraseDups
    = if path ∈ paths.eraseDups then paths.eraseDups else paths.eraseDups ++ [path]
  := by
  rw [List.eraseDups_append]
  by_cases known : path ∈ paths
  · simp [List.removeAll, List.mem_eraseDups, known]
  · simp [List.removeAll, List.mem_eraseDups, known, List.eraseDups_cons]

theorem filter_append_singleton (found : List Finding) (f : Finding) (path : String) :
  ((found ++ [f]).filter (·.path = path)).map Finding.diagnostic
    = (found.filter (·.path = path)).map Finding.diagnostic
        ++ if f.path = path then [f.diagnostic] else []
  := by
  by_cases same : f.path = path
  · simp [same]
  · simp [same]

/-- One problem more, and the groups divide the longer list. -/
theorem IsGrouping.addFinding {found : List Finding} {files : List FileDiagnostics}
    (grouping : IsGrouping found files) (f : Finding) :
  IsGrouping (found ++ [f]) (addFinding files f) where
  distinct := by
    rw [map_path_addFinding]
    split
    · apply grouping.distinct
    · rename_i fresh
      apply List.Nodup.append grouping.distinct (List.nodup_singleton _)
      simpa using fresh
  paths := by
    rw [map_path_addFinding, grouping.paths, List.map_append, List.map_singleton,
      eraseDups_append_singleton]
  nonempty file member := by
    rcases mem_addFinding grouping.distinct member with
      ⟨known, -⟩ | ⟨old, -, -, rfl⟩ | ⟨-, rfl⟩
    · apply grouping.nonempty file known
    · simp
    · simp
  diagnostics file member := by
    rw [filter_append_singleton]
    rcases mem_addFinding grouping.distinct member with
      ⟨known, other⟩ | ⟨old, known, same, rfl⟩ | ⟨fresh, rfl⟩
    · rw [if_neg (Ne.symm other), List.append_nil, grouping.diagnostics file known]
    · rw [if_pos rfl, grouping.diagnostics old known, same]
    · have none : found.filter (·.path = f.path) = [] := by
        rw [grouping.paths, List.mem_eraseDups] at fresh
        simpa using fresh
      rw [if_pos rfl, none]
      rfl
  count := by
    rw [length_addFinding, grouping.count, List.length_append, List.length_singleton]

/-! ### All problems -/

theorem IsGrouping.foldl_addFinding {found : List Finding} {files : List FileDiagnostics}
    (grouping : IsGrouping found files) (more : List Finding) :
  IsGrouping (found ++ more) (more.foldl Build.addFinding files)
  := by
  induction more generalizing found files with
  | nil => rwa [List.append_nil]
  | cons f more ih =>
    have later := ih (grouping.addFinding f)
    rwa [List.append_assoc] at later

theorem groupByPath_isGrouping (found : List Finding) :
  IsGrouping found (groupByPath found)
  := by
  have start : IsGrouping [] [] := by
    constructor <;> simp
  apply start.foldl_addFinding found

/-! ### The problems of an output -/

theorem inside_of_mem_lines {output line : List Char} (member : line ∈ lines output) :
  '\n' ∉ line
  := by
  induction output generalizing line with
  | nil =>
    obtain rfl := List.mem_singleton.mp member
    apply List.not_mem_nil
  | cons c output ih =>
    obtain ⟨first, rest, divided⟩ := List.exists_cons_of_ne_nil (lines_ne_nil output)
    rw [divided] at ih
    rw [lines, divided] at member
    split at member
    · rcases List.mem_cons.mp member with rfl | later
      · apply List.not_mem_nil
      · apply ih later
    · rename_i other
      rcases List.mem_cons.mp member with rfl | later
      · simp [ih List.mem_cons_self, Ne.symm other]
      · apply ih (List.mem_cons_of_mem _ later)

theorem findings_eq_reported (output : List Char) :
  findings output = reported output
  := by
  apply List.filterMap_congr
  intro line member
  rw [diagnosticLine_reads (inside_of_mem_lines member)]

/-- The search of the whole output for the pattern finds what the lines report. -/
theorem scan_eq_reported (output : List Char) :
  (diagnosticLine.scan output).filterMap Finding.ofGroups? = reported output
  := by
  rw [diagnosticLine_lineBound.scan_lines, List.filterMap_filterMap, reported]

theorem reported_append (out err : List Char) :
  reported (out ++ '\n' :: err) = reported out ++ reported err
  := by
  rw [reported, lines_append, List.filterMap_append, reported, reported]

/-- The groups of an output divide by path what its lines report, which is also what the search of
the whole output finds, and of what a process printed they divide first what its output and then what
its errors report. -/
theorem extract_groups_reported (output : List Char) :
  (diagnosticLine.scan output).filterMap Finding.ofGroups? = reported output
    ∧ IsGrouping (reported output) (extract output)
    ∧ ∀ o : Output,
        IsGrouping (reported (Utf8.decodeLossy o.stdout) ++ reported (Utf8.decodeLossy o.stderr))
          (extract (printed o))
  := by
  have grouping (output : List Char) : IsGrouping (reported output) (extract output) := by
    rw [extract, findings_eq_reported]
    apply groupByPath_isGrouping
  refine ⟨scan_eq_reported output, grouping output, ?_⟩
  intro o
  rw [← reported_append]
  apply grouping

end PlanetServer.Build
