import Mathlib.Data.List.Nodup
import PlanetServer.Proofs.Build.Extraction
import PlanetServer.Proofs.Protocol.Editor
import PlanetServer.Proofs.Workspace.FileNames
import PlanetServer.Session.Compile

/-!
# What an editor shows of a build

An editor shows for each document what was published for it last. The problems of a build are grouped by
the paths that the compiler prints, and published under the names of the files. Two spellings of one
path are two groups with one name, and of these groups only the last one is shown.

* `Editor.shows` is what an editor shows after it has received messages.
* `Uri.ofReported?_eq_iff` says which paths have the same name.
* `Compile.announce_shows` says what is shown of a report, and when nothing of it is lost.
-/

namespace PlanetServer

/-! ### Editors -/

namespace Editor

/-- What is shown for each document after one more message: what is published replaces everything that
was shown for its document. -/
def receive (shown : String → List Diagnostic) (frame : Json) : String → List Diagnostic :=
  match update? frame with
  | some update => fun uri => if update.uri = uri then update.diagnostics else shown uri
  | none => shown

/-- What is shown for each document after messages. -/
def shows (shown : String → List Diagnostic) (frames : List Json) : String → List Diagnostic :=
  frames.foldl receive shown

end Editor

/-! ### Names of reported files -/

theorem Uri.isAbsolute_of_ofPath? {p : Path} {uri : String} (named : ofPath? p = some uri) :
  p.isAbsolute = true
  := by
  unfold ofPath? at named
  split at named
  · assumption
  · cases named

/-- Which reported paths have the name of a given one: those that lead through the same components. -/
theorem Uri.ofReported?_eq_iff {root : Path} {path uri : String}
    (named : ofReported? root path = some uri) (other : String) :
  ofReported? root other = some uri
    ↔ (reportedPath root other).isAbsolute = true
      ∧ (reportedPath root other).components = (reportedPath root path).components
  := by
  have absolute := isAbsolute_of_ofPath? named
  constructor
  · intro named'
    have absolute' := isAbsolute_of_ofPath? named'
    exact ⟨absolute', (ofPath?_eq_iff absolute' absolute).mp (named'.trans named.symm)⟩
  · rintro ⟨absolute', same⟩
    exact ((ofPath?_eq_iff absolute' absolute).mpr same).trans named

/-! ### Reports -/

namespace Compile

/-- The groups that are published under a name. -/
def named (root : Path) (files : List Build.FileDiagnostics) (uri : String) :
    List Build.FileDiagnostics :=
  files.filter fun file => Uri.ofReported? root file.path = some uri

/-- What is shown for a document is the last group that was published under its name. -/
theorem shows_publish? (root : Path) (files : List Build.FileDiagnostics)
    (shown : String → List Diagnostic) (uri : String) :
  Editor.shows shown (files.filterMap (publish? root)) uri
    = ((named root files uri).getLast?.map Build.FileDiagnostics.diagnostics).getD (shown uri)
  := by
  induction files generalizing shown with
  | nil => rfl
  | cons file files ih =>
    cases found : Uri.ofReported? root file.path with
    | none =>
      have skipped : publish? root file = none := by rw [publish?, found, Option.map_none]
      have others : named root (file :: files) uri = named root files uri := by
        simp [named, found]
      rw [List.filterMap_cons_none skipped, others, ih]
    | some name =>
      have sent : publish? root file = some (Payload.publish name none file.diagnostics) := by
        rw [publish?, found, Option.map_some]
      have first : Editor.shows shown ((file :: files).filterMap (publish? root))
          = Editor.shows (Editor.receive shown (Payload.publish name none file.diagnostics))
            (files.filterMap (publish? root)) := by
        rw [List.filterMap_cons_some sent]
        rfl
      rw [first, ih, Editor.receive, Editor.update?_publish]
      by_cases same : name = uri
      · have more : named root (file :: files) uri = file :: named root files uri := by
          simp [named, found, same]
        rw [more, List.getLast?_cons]
        cases (named root files uri).getLast? with
        | none => simp [same]
        | some _ => rfl
      · have others : named root (file :: files) uri = named root files uri := by
          simp [named, found, same]
        simp [others, same]

/-- The summary of a report shows nothing for any document. -/
theorem shows_announce (root : Path) (report : Build.Report) (shown : String → List Diagnostic) :
  Editor.shows shown (announce root report)
    = Editor.shows shown (report.files.filterMap (publish? root))
  := by
  rw [Editor.shows, announce, List.foldl_append]
  rfl

/-- What an editor shows after a build. For each document it is the last of the groups that have its
name, or what was shown before if there is none. So a group that has its name to itself is shown whole,
and two groups share a name exactly if their paths lead through the same components. -/
theorem announce_shows (root : Path) (exitCode : Int) (output : List Char)
    (shown : String → List Diagnostic) :
  let report := Build.Report.ofOutput exitCode output
  let after := Editor.shows shown (announce root report)
  (∀ uri, after uri
      = ((named root report.files uri).getLast?.map Build.FileDiagnostics.diagnostics).getD (shown uri))
    ∧ (∀ file ∈ report.files, ∀ uri, Uri.ofReported? root file.path = some uri →
        (∀ other ∈ report.files, Uri.ofReported? root other.path = some uri → other.path = file.path) →
        after uri = file.diagnostics)
    ∧ ∀ path uri, Uri.ofReported? root path = some uri → ∀ other,
        Uri.ofReported? root other = some uri
          ↔ (Uri.reportedPath root other).isAbsolute = true
            ∧ (Uri.reportedPath root other).components = (Uri.reportedPath root path).components
  := by
  intro report after
  have last : ∀ uri, after uri
      = ((named root report.files uri).getLast?.map Build.FileDiagnostics.diagnostics).getD
          (shown uri) := by
    intro uri
    rw [show after = _ from shows_announce root report shown, shows_publish?]
  refine ⟨last, ?_, ?_⟩
  · intro file member uri found alone
    have groups := Build.groupByPath_isGrouping (Build.findings output)
    have only : ∀ other ∈ named root report.files uri, other = file := by
      intro other known
      obtain ⟨inside, same⟩ := List.mem_filter.mp known
      have path := alone other inside (of_decide_eq_true same)
      apply List.inj_on_of_nodup_map groups.distinct inside member path
    have holds : file ∈ named root report.files uri :=
      List.mem_filter.mpr ⟨member, decide_eq_true found⟩
    obtain ⟨final, found'⟩ : ∃ final, (named root report.files uri).getLast? = some final := by
      apply Option.isSome_iff_exists.mp
      simpa using List.ne_nil_of_mem holds
    rw [last uri, found', only final (List.mem_of_getLast? found')]
    rfl
  · intro path uri found other
    apply Uri.ofReported?_eq_iff found

/-- A file that is spelled in two ways: what is reported under the first spelling is not shown. -/
theorem announce_loses :
  let root := Path.ofString "/w"
  let report := Build.Report.ofOutput 1 "./a:1:1: error: x\na:2:1: error: y".toList
  ∃ file ∈ report.files, ∃ uri, Uri.ofReported? root file.path = some uri
    ∧ ∃ d ∈ file.diagnostics, d ∉ Editor.shows (fun _ => []) (announce root report) uri
  := by
  intro root report
  let lost : Diagnostic := ⟨.error, "x", .singleColumn ⟨0, 0⟩, .build⟩
  let kept : Diagnostic := ⟨.error, "y", .singleColumn ⟨1, 0⟩, .build⟩
  have files : report.files = [⟨"./a", [lost]⟩, ⟨"a", [kept]⟩] := by decide +kernel
  have both : named root report.files "file:///w/a" = report.files := by decide +kernel
  refine ⟨⟨"./a", [lost]⟩, by simp [files], "file:///w/a", by decide +kernel, lost, by simp, ?_⟩
  rw [shows_announce, shows_publish?, both, files]
  intro member
  have same : lost = kept := List.mem_singleton.mp member
  apply absurd (congrArg Diagnostic.message same) (by decide : "x" ≠ "y")

end Compile

end PlanetServer
