import Mathlib.Data.List.Forall2
import PlanetServer.Diagnostic.Analysis
import PlanetServer.Proofs.Rule.SourceOrder
import PlanetServer.Proofs.Token.Columns

/-!
# Ranges of diagnostics

The diagnostics of a document stand where its failures are: each covers exactly the token at fault, or one
column at the end of the document.

* `Range.ofMark_of_fits` is the range of a failure where no coordinate reaches its limit.
* `Highlights` says how a diagnostic stands to a failure, and `analyze_highlights` that the diagnostics of
  a document do so one by one.
-/

namespace PlanetServer

open Lexeme

/-- A range of columns that are far enough from the limit: as many as the length says, and one if there is
no length. -/
theorem Range.ofMark_of_fits {mark : Mark} {length : Option Nat} (positive : ∀ n ∈ length, 0 < n)
    (fits : mark.column + length.getD 1 ≤ maxCoordinate) :
  ofMark mark length
    = ⟨⟨mark.line - 1, mark.column⟩, ⟨mark.line - 1, mark.column + length.getD 1⟩⟩
  := by
  have least : 1 ≤ length.getD 1 := by
    cases length with
    | none => apply Nat.le_refl
    | some n => apply positive n rfl
  have column : max (addCoordinate mark.column (length.getD 1)) (addCoordinate mark.column 1)
      = mark.column + length.getD 1 := by
    unfold addCoordinate
    omega
  have forward : Position.isBefore ⟨mark.line - 1, mark.column + length.getD 1⟩
      ⟨mark.line - 1, mark.column⟩ = false := by
    simp [Position.isBefore]
  simp only [ofMark, column, between, forward]
  rfl

/-- The diagnostic of a failure in a document stands where the failure is. -/
structure Highlights (source : String) (f : Failure) (d : Diagnostic) : Prop where
  /-- It is an error. -/
  severity : d.severity = .error
  /-- The parser found it. -/
  origin : d.origin = .parser
  /-- It starts in the line of the failure. -/
  line : d.range.start.line + 1 = f.mark.line
  /-- It starts at the column of the failure. -/
  column : d.range.start.column = f.mark.column
  /-- It ends in the line in which it starts. -/
  sameLine : d.range.finish.line = d.range.start.line
  /-- It covers some columns. -/
  nonempty : d.range.start.column < d.range.finish.column
  /-- It covers as many columns as the token at fault has units, and one where there is no token. -/
  length : d.range.finish.column = d.range.start.column + f.offending.elim 1 Token.units
  /-- Its end is a column. -/
  fits : d.range.finish.column ≤ maxCoordinate
  /-- What it covers of its line is the token at fault. -/
  token : ∀ t, f.offending = some t →
    ∃ line, (lines source.toList)[d.range.start.line]? = some line
      ∧ Text.cut? d.range.start.column d.range.finish.column line = some t.text.toList
  /-- Where there is no token, it is one column at the end of the document. -/
  finish : f.offending = none →
    d.range.start = ⟨lineEnds source.toList, Text.units (lastLine source.toList)⟩

namespace Failure

variable {source : String} {f : Failure} (member : f ∈ (Program.ofText source).failures)

include member

/-- A failure is in one of the lines, which are counted from one. -/
theorem line_pos_of_mem :
  1 ≤ f.mark.line
  := by
  have placed := Program.isPlaced_of_mem member
  cases fault : f.offending with
  | none =>
    rw [placed, fault, Option.elim_none, Stream.finish_ofText]
    apply Nat.le_add_right
  | some t =>
    obtain ⟨before, after, surrounds⟩ :=
      Stream.surrounds_of_mem (Program.mem_tokens_of_mem member fault)
    rw [placed, fault, Option.elim_some, surrounds.mark]
    apply Nat.le_add_right

theorem units_pos_of_mem :
  ∀ n ∈ f.offending.map Token.units, 0 < n
  := by
  intro n found
  obtain ⟨t, fault, rfl⟩ := Option.map_eq_some_iff.mp found
  apply Stream.units_pos_of_mem (Program.mem_tokens_of_mem member fault)

/-- The columns of a failure do not go past the document by more than the one at its end. -/
theorem column_le_of_mem :
  f.mark.column + (f.offending.map Token.units).getD 1 ≤ Text.units source.toList + 1
  := by
  have placed := Program.isPlaced_of_mem member
  cases fault : f.offending with
  | none =>
    have last := Text.units_le_of_suffix (lastLine_suffix source.toList)
    rw [placed, fault, Option.elim_none, Stream.finish_ofText]
    apply Nat.succ_le_succ last
  | some t =>
    obtain ⟨before, after, surrounds⟩ :=
      Stream.surrounds_of_mem (Program.mem_tokens_of_mem member fault)
    rw [placed, fault]
    apply Nat.le_succ_of_le surrounds.column_le

/-- The diagnostic of a failure stands where the failure is, if the columns of the document can be
counted. -/
theorem diagnostic_highlights (short : Text.units source.toList < maxCoordinate) (locale : Locale) :
  Highlights source f (f.diagnostic (.ofText source) locale)
  := by
  have placed := Program.isPlaced_of_mem member
  have line := line_pos_of_mem member
  have positive := units_pos_of_mem member
  have column := column_le_of_mem member
  have fits : f.mark.column + (f.offending.map Token.units).getD 1 ≤ maxCoordinate := by omega
  have length : (f.offending.map Token.units).getD 1 = f.offending.elim 1 Token.units := by
    cases f.offending <;> rfl
  have range : (f.diagnostic (.ofText source) locale).range
      = ⟨⟨f.mark.line - 1, f.mark.column⟩,
          ⟨f.mark.line - 1, f.mark.column + f.offending.elim 1 Token.units⟩⟩ := by
    rw [← length]
    apply Range.ofMark_of_fits positive fits
  constructor
  case severity => rfl
  case origin => rfl
  case line =>
    rw [range]
    apply Nat.sub_add_cancel line
  case column => rw [range]
  case sameLine => rw [range]
  case nonempty =>
    rw [range, ← length]
    apply Nat.lt_add_of_pos_right
    cases fault : f.offending with
    | none => decide
    | some t => exact positive _ (by rw [fault]; rfl)
  case length => rw [range]
  case fits =>
    rw [range, ← length]
    apply fits
  case token =>
    intro t fault
    obtain ⟨before, after, surrounds⟩ :=
      Stream.surrounds_of_mem (Program.mem_tokens_of_mem member fault)
    have mark : f.mark = t.mark := by rw [placed, fault, Option.elim_some]
    rw [range, mark, fault]
    apply surrounds.cut?_line
  case finish =>
    intro fault
    have mark : f.mark = .after source.toList := by
      rw [placed, fault, Option.elim_none, Stream.finish_ofText]
    rw [range, mark, Mark.after]
    dsimp only
    rw [Nat.add_sub_cancel_left]

end Failure

/-- The diagnostics of a document are those of its failures, one by one: each is an error of the parser, in
one line, and covers exactly the token at fault, or one column at the end of the document. No coordinate is
at its limit. In every language there are as many of them, in the same order and at the same places. -/
theorem analyze_highlights (source : String) (locale : Locale)
    (short : Text.units source.toList < maxCoordinate) :
  List.Forall₂ (Highlights source) (Program.ofText source).failures (analyze locale source)
    ∧ ∀ other, (analyze other source).map Diagnostic.range = (analyze locale source).map Diagnostic.range
  := by
  constructor
  · apply List.forall₂_map_right_iff.mpr
    apply List.forall₂_same.mpr
    intro f member
    apply Failure.diagnostic_highlights member short locale
  · intro other
    simp only [analyze, List.map_map]
    rfl

/-- A string with a pair of surrogates, a line end of two characters and the end of the document are at
fault, and are covered as a whole. -/
theorem analyze_highlights_mixed :
  let source := "x \"😀\"\r\nvar\r\nwhile x \x7b"
  Text.units source.toList < maxCoordinate
    ∧ List.Forall₂ (Highlights source) (Program.ofText source).failures (analyze .ko source)
    ∧ (analyze .en source).map Diagnostic.range = (analyze .ko source).map Diagnostic.range
    ∧ (analyze .ko source).map Diagnostic.range
      = [⟨⟨0, 2⟩, ⟨0, 6⟩⟩, ⟨⟨1, 3⟩, ⟨1, 5⟩⟩, ⟨⟨2, 9⟩, ⟨2, 10⟩⟩]
  := by
  intro source
  have short : Text.units source.toList < maxCoordinate := by decide
  obtain ⟨highlights, same⟩ := analyze_highlights source .ko short
  exact ⟨short, highlights, same .en, by decide +kernel⟩

end PlanetServer
