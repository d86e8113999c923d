import Mathlib.Data.List.TakeWhile
import PlanetServer.Proofs.Token.Places

/-!
# Columns of tokens

An editor shows a document line by line and counts the columns of a line in UTF-16 units. Cutting the
columns of a token out of its line gives the text of the token.

* `Text.cut?` is the part of a text between two columns.
* `Lexeme.lines` divides a text into its lines, and `Lexeme.getElem?_lines` finds the line in which the
  place just past a text is.
* `Stream.Surrounds` divides a document at one of its tokens, and `Stream.Surrounds.cut?_line` cuts the
  token out of its line.
-/

namespace PlanetServer

/-! ### Columns -/

namespace Text

/-- Divides a text after some UTF-16 units; none if it is too short, or if a character would be divided. -/
def divide? : Nat → List Char → Option (List Char × List Char)
  | 0, cs => some ([], cs)
  | _ + 1, [] => none
  | n + 1, c :: cs =>
    if unitsOfChar c ≤ n + 1 then
      (divide? (n + 1 - unitsOfChar c) cs).map fun (before, after) => (c :: before, after)
    else none

/-- The part of a text from one column up to another one; none if a column is past the end of the text or
within a character. -/
def cut? (low high : Nat) (cs : List Char) : Option (List Char) := do
  let (_, rest) ← divide? low cs
  let (part, _) ← divide? (high - low) rest
  return part

theorem divide?_append (cs ds : List Char) :
  divide? (units cs) (cs ++ ds) = some (cs, ds)
  := by
  induction cs with
  | nil => simp [units, divide?]
  | cons c cs ih =>
    obtain ⟨n, succ⟩ : ∃ n, units (c :: cs) = n + 1 :=
      Nat.exists_eq_add_one.mpr (units_pos (List.cons_ne_nil c cs))
    have rest : n + 1 - unitsOfChar c = units cs := by
      rw [← succ, units, Nat.add_sub_cancel_left]
    rw [succ, List.cons_append, divide?, if_pos, rest, ih]
    · rfl
    · rw [← succ]
      apply Nat.le_add_right

/-- The part between the columns before and behind it. -/
theorem cut?_append (cs ds es : List Char) :
  cut? (units cs) (units cs + units ds) (cs ++ (ds ++ es)) = some ds
  := by
  rw [cut?, divide?_append, Nat.add_sub_cancel_left]
  simp only [Option.bind_eq_bind, Option.bind_some, divide?_append]
  rfl

/-- A text has no fewer units than its last part. -/
theorem units_le_of_suffix {cs ds : List Char} (suffix : cs <:+ ds) :
  units cs ≤ units ds
  := by
  obtain ⟨before, rfl⟩ := suffix
  rw [units_append]
  apply Nat.le_add_left

end Text

/-! ### Lines -/

namespace Lexeme

/-- The lines of a text, each with its line end. What comes after the last line end is a line too, and may
be empty. -/
def lines : List Char → List (List Char)
  | [] => [[]]
  | '\r' :: '\n' :: cs => ['\r', '\n'] :: lines cs
  | c :: cs =>
    if endsLine c then [c] :: lines cs else (c :: (lines cs).headD []) :: (lines cs).tail

theorem lines_ne_nil (cs : List Char) :
  lines cs ≠ []
  := by
  fun_cases lines cs <;> simp

theorem lines_cons_of_endsLine {c : Char} (ends : endsLine c = true) {cs : List Char}
    (alone : c = '\r' → ∀ ds, cs ≠ '\n' :: ds) :
  lines (c :: cs) = [c] :: lines cs
  := by
  rw [lines, if_pos ends]
  rintro ds rfl rfl
  apply alone rfl ds rfl

theorem lines_cons_of_inside {c : Char} (inside : endsLine c = false) (cs : List Char) :
  lines (c :: cs) = (c :: (lines cs).headD []) :: (lines cs).tail
  := by
  rw [lines, if_neg (by simp [inside])]
  rintro ds rfl
  cases inside

/-- A part of a line stands at the start of the first line. -/
theorem head_lines_of_inLine {cs : List Char} (inLine : InLine cs) (ds : List Char) :
  (lines (cs ++ ds)).headD [] = cs ++ (lines ds).headD []
  := by
  induction cs with
  | nil => rfl
  | cons c cs ih =>
    obtain ⟨inside, later⟩ := List.forall_mem_cons.mp inLine
    rw [List.cons_append, lines_cons_of_inside inside, List.headD_cons, ih later]
    rfl

/-- A line end stands at the start of the first line, too. -/
theorem head_lines_of_lineEnd {cs : List Char} (whole : cs ∈ lineEndTexts) (ds : List Char) :
  ∃ more, (lines (cs ++ ds)).headD [] = cs ++ more
  := by
  simp only [lineEndTexts, List.mem_cons, List.not_mem_nil, or_false] at whole
  rcases whole with rfl | rfl | rfl
  · use []
    rw [List.singleton_append, lines_cons_of_endsLine (by decide) (by simp)]
    rfl
  · by_cases feed : ∃ es, ds = '\n' :: es
    · obtain ⟨es, rfl⟩ := feed
      use ['\n']
      rfl
    · use []
      rw [List.singleton_append, lines_cons_of_endsLine (by decide) fun _ => not_exists.mp feed]
      rfl
  · use []
    rfl

theorem lineEnds_eq_zero_iff (cs : List Char) :
  lineEnds cs = 0 ↔ InLine cs
  := by
  unfold InLine
  fun_induction lineEnds cs with
  | case1 => simp
  | case2 cs ih => simp [endsLine]
  | case3 c cs pair ends ih => simp [ends]
  | case4 c cs pair inside ih => simp [ih, inside]

theorem lastLine_cons_of_endsLine {c : Char} (ends : endsLine c = true) (cs : List Char) :
  lastLine (c :: cs) = lastLine cs
  := by
  simp only [lastLine, List.reverse_cons, List.takeWhile_append, List.takeWhile_cons, ends]
  split
  · rename_i whole
    simp [(List.takeWhile_prefix _).eq_of_length whole]
  · rfl

theorem lastLine_of_inLine {cs : List Char} (inLine : InLine cs) :
  lastLine cs = cs
  := by
  have whole := lastLine_append_of_inLine [] inLine
  rwa [List.nil_append] at whole

theorem lastLine_cons_of_lineEnds {cs : List Char} (ends : lineEnds cs ≠ 0) (c : Char) :
  lastLine (c :: cs) = lastLine cs
  := by
  simp only [lastLine, List.reverse_cons, List.takeWhile_append]
  rw [if_neg]
  intro whole
  apply ends
  apply (lineEnds_eq_zero_iff cs).mpr
  intro d member
  have kept := (List.takeWhile_prefix _).eq_of_length whole
  have passes := List.takeWhile_eq_self_iff.mp kept d (List.mem_reverse.mpr member)
  simpa using passes

theorem lastLine_suffix (cs : List Char) :
  lastLine cs <:+ cs
  := by
  rw [← List.reverse_prefix, lastLine, List.reverse_reverse]
  apply List.takeWhile_prefix

/-- The line in which the place just past a text is: it starts with the last line of the text, and goes on
with the first line of what follows. -/
theorem getElem?_lines {cs ds : List Char} (apart : Apart cs ds) :
  (lines (cs ++ ds))[lineEnds cs]? = some (lastLine cs ++ (lines ds).headD [])
  := by
  fun_induction lineEnds cs with
  | case1 =>
    obtain ⟨line, rest, divided⟩ := List.exists_cons_of_ne_nil (lines_ne_nil ds)
    rw [List.nil_append, divided]
    rfl
  | case2 cs ih =>
    rw [lastLine_cons_of_endsLine (by decide), lastLine_cons_of_endsLine (by decide), List.cons_append,
      List.cons_append, lines, List.getElem?_cons_succ]
    apply ih apart.of_cons.of_cons
  | case3 c cs pair ends ih =>
    have alone : c = '\r' → ∀ es, cs ++ ds ≠ '\n' :: es := by
      rintro rfl es joined
      rcases cs with _ | ⟨d, cs⟩
      · apply apart rfl
        simp_all
      · obtain ⟨rfl, -⟩ := List.cons_eq_cons.mp joined
        apply pair cs rfl rfl
    rw [lastLine_cons_of_endsLine ends, List.cons_append, lines_cons_of_endsLine ends alone,
      List.getElem?_cons_succ]
    apply ih apart.of_cons
  | case4 c cs pair inside ih =>
    have later := ih apart.of_cons
    rw [List.cons_append, lines_cons_of_inside (by simpa using inside)]
    cases count : lineEnds cs with
    | zero =>
      have inLine := (lineEnds_eq_zero_iff cs).mp count
      have whole : InLine (c :: cs) := .cons (by simpa using inside) inLine
      rw [lastLine_of_inLine whole, head_lines_of_inLine inLine]
      rfl
    | succ n =>
      rw [count] at later
      rw [lastLine_cons_of_lineEnds (by omega), List.getElem?_cons_succ, List.getElem?_tail, later]

/-- The lexemes before and behind one of the lexemes of a text do not share a line end with it. -/
theorem apart_of_split {before cs : List Char} (apart : Apart before cs) {ls ls' : List Lexeme}
    {l : Lexeme} (divided : split cs = ls ++ l :: ls') :
  Apart (before ++ ls.flatMap text) (l.text ++ ls'.flatMap text)
  := by
  fun_induction split cs generalizing before ls with
  | case1 => simp at divided
  | case2 c cs ih =>
    rcases ls with _ | ⟨l₁, ls⟩
    · obtain ⟨rfl, rfl⟩ := List.cons_eq_cons.mp divided
      rwa [flatMap_text_split, first_append, List.flatMap_nil, List.append_nil]
    · obtain ⟨rfl, later⟩ := List.cons_eq_cons.mp divided
      rw [List.flatMap_cons, ← List.append_assoc]
      apply ih ((first_cut c cs).apart before) later

end Lexeme

/-! ### Tokens -/

open Lexeme

namespace Stream

/-- A document divided at a token: the text before it, its own, and the text behind it. -/
structure Surrounds (source : List Char) (t : Token) (before after : List Char) : Prop where
  /-- The three parts make up the document. -/
  whole : source = before ++ (t.text.toList ++ after)
  /-- The token does not start within a line end. -/
  apart : Apart before (t.text.toList ++ after)
  /-- The place of the token is just past the text before it. -/
  mark : t.mark = .after before
  /-- The token is a part of a line, or a line end. -/
  text : InLine t.text.toList ∨ t.text.toList ∈ lineEndTexts

/-- A document can be divided at each of its tokens. -/
theorem surrounds_of_mem {source : String} {t : Token} (member : t ∈ (ofText source).tokens) :
  ∃ before after, Surrounds source.toList t before after
  := by
  obtain ⟨ts, ts', divided⟩ := List.append_of_mem member
  have apart : Apart [] source.toList := nofun
  obtain ⟨placed, -⟩ := place_split 0 apart
  obtain ⟨-, mark⟩ := placed ts t ts' divided
  have lexemes := lexemes_ofText source
  rw [divided, List.map_append, List.map_cons] at lexemes
  have texts (us : List Token) :
      us.flatMap (fun u => u.text.toList) = (us.map Token.lexeme).flatMap Lexeme.text := by
    rw [List.flatMap_map]
    rfl
  use ts.flatMap (fun u => u.text.toList), ts'.flatMap fun u => u.text.toList
  constructor
  · rw [← flatMap_text_split source.toList, ← lexemes, List.flatMap_append, List.flatMap_cons, texts,
      texts]
    rfl
  · rw [texts, texts]
    apply apart_of_split apart lexemes.symm
  · apply mark
  · obtain ⟨rest, cut⟩ := cut_of_mem_ofText member
    cases cut with
    | inside _ _ inLine => exact .inl inLine
    | lineEnd _ whole => exact .inr whole

/-- A token has at least one column. -/
theorem units_pos_of_mem {source : String} {t : Token} (member : t ∈ (ofText source).tokens) :
  0 < t.units
  := by
  obtain ⟨rest, cut⟩ := cut_of_mem_ofText member
  apply Text.units_pos cut.text_ne_nil

/-- The place where a document ends is just past all of it. -/
theorem finish_ofText (source : String) :
  (ofText source).finish = .after source.toList
  := by
  have apart : Apart [] source.toList := nofun
  apply (place_split 0 apart).2

namespace Surrounds

variable {source before after : List Char} {t : Token} (surrounds : Surrounds source t before after)

include surrounds

/-- The columns of a token in its line are those of its text. -/
theorem cut?_line :
  ∃ line, (lines source)[t.mark.line - 1]? = some line
    ∧ Text.cut? t.mark.column (t.mark.column + t.units) line = some t.text.toList
  := by
  have index : t.mark.line - 1 = lineEnds before := by
    rw [surrounds.mark, Mark.after, Nat.add_sub_cancel_left]
  have column : t.mark.column = Text.units (lastLine before) := by
    rw [surrounds.mark, Mark.after]
  have start : ∃ more, (lines (t.text.toList ++ after)).headD [] = t.text.toList ++ more := by
    rcases surrounds.text with inLine | whole
    · exact ⟨_, head_lines_of_inLine inLine after⟩
    · exact head_lines_of_lineEnd whole after
  obtain ⟨more, start⟩ := start
  use lastLine before ++ (t.text.toList ++ more)
  constructor
  · rw [index, surrounds.whole, getElem?_lines surrounds.apart, start]
  · rw [column]
    apply Text.cut?_append

/-- A token ends at a column that is not past the end of the document. -/
theorem column_le :
  t.mark.column + t.units ≤ Text.units source
  := by
  have last := Text.units_le_of_suffix (lastLine_suffix before)
  rw [surrounds.mark, surrounds.whole, Text.units_append, Text.units_append, Token.units, Mark.after]
  dsimp only
  omega

end Surrounds

end Stream

end PlanetServer
