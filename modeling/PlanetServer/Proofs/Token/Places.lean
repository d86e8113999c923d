import Mathlib.Data.List.Basic
import PlanetServer.Diagnostic.Range
import PlanetServer.Proofs.Token.Lines

/-!
# Places of tokens

The tokens of a document cover it without a gap, and the place of each of them is told by the text
before it: its line by the line ends in that text, its column by the UTF-16 units after the last of
them.

* `Lexeme.Cut` says what a lexeme looks like before the text that follows it.
* `Mark.after` is the place just past a text, and `Lexeme.finish_after` says that a lexeme moves from
  the place past one text to the place past a longer one.
* `Stream.ofText?` counts lines and columns character by character in 32 bits, and has no result
  where a counter overflows.
-/

namespace PlanetServer

namespace Lexeme

/-! ### Lexemes and the line ends between them -/

/-- The texts that end a line. -/
def lineEndTexts : List (List Char) :=
  [['\n'], ['\r'], ['\r', '\n']]

/-- The end of a first text and the start of a second one do not make up one line end. -/
def Apart (cs ds : List Char) : Prop :=
  cs.getLast? = some '\r' → ds.head? ≠ some '\n'

/-- A lexeme before the text that follows it: a part of a line, or exactly one line end. -/
inductive Cut (l : Lexeme) (rest : List Char) : Prop where
  /-- It is a part of a line. -/
  | inside (other : l.kind ≠ .newline) (holds : l.text ≠ []) (inLine : InLine l.text)
  /-- It is a line end, of which the text after it holds no part. -/
  | lineEnd (found : l.kind = .newline) (whole : l.text ∈ lineEndTexts) (apart : Apart l.text rest)

theorem lineEnd_cut {c : Char} (h : endsLine c = true) (cs : List Char) :
  (lineEnd c cs).1.Cut (lineEnd c cs).2
  := by
  unfold lineEnd
  split
  · apply Cut.lineEnd rfl (by simp [lineEndTexts])
    simp [Apart]
  · rename_i other
    simp only [endsLine, Bool.or_eq_true, beq_iff_eq] at h
    apply Cut.lineEnd rfl
    · rcases h with rfl | rfl <;> simp [lineEndTexts]
    · intro last
      obtain rfl : c = '\r' := by simpa using last
      rcases cs with _ | ⟨d, cs⟩
      · simp
      · rintro ⟨⟩
        apply other cs rfl rfl

/-- The first lexeme of a text, before the rest of it. -/
theorem first_cut (c : Char) (cs : List Char) :
  (first c cs).1.Cut (first c cs).2
  := by
  cases ends : endsLine c with
  | true =>
    rw [first, if_pos ends]
    apply lineEnd_cut ends
  | false =>
    obtain ⟨other, inLine⟩ := first_inLine ends cs
    apply Cut.inside other (first_text_ne_nil c cs) inLine

/-- Every lexeme of a text is a part of a line or a line end. -/
theorem cut_of_mem_split {cs : List Char} {l : Lexeme} (member : l ∈ split cs) :
  ∃ rest, l.Cut rest
  := by
  fun_induction split cs with
  | case1 => cases member
  | case2 c cs ih =>
    rcases List.mem_cons.mp member with rfl | later
    · use (first c cs).2
      apply first_cut
    · apply ih later

/-- The lexemes of a text make it up. -/
theorem flatMap_text_split (cs : List Char) :
  (split cs).flatMap text = cs
  := by
  fun_induction split cs with
  | case1 => rfl
  | case2 c cs ih => rw [List.flatMap_cons, ih, first_append]

theorem Apart.of_cons {c : Char} {cs ds : List Char} (apart : Apart (c :: cs) ds) :
  Apart cs ds
  := by
  intro last
  apply apart
  simp [List.getLast?_cons, last]

/-- Line ends in two texts count apart where the texts do not share one. -/
theorem lineEnds_append_of_apart {cs ds : List Char} (apart : Apart cs ds) :
  lineEnds (cs ++ ds) = lineEnds cs + lineEnds ds
  := by
  fun_induction lineEnds cs with
  | case1 => simp
  | case2 cs ih =>
    simp only [List.cons_append, lineEnds, ih apart.of_cons.of_cons]
    omega
  | case3 c cs pair ends ih =>
    have single : ∀ es, c = '\r' → cs ++ ds ≠ '\n' :: es := by
      rintro es rfl joined
      rcases cs with _ | ⟨d, cs⟩
      · apply apart rfl
        simp_all
      · obtain ⟨rfl, -⟩ := List.cons_eq_cons.mp joined
        apply pair cs rfl rfl
    rw [List.cons_append, lineEnds, if_pos ends, ih apart.of_cons]
    · omega
    · apply single
  | case4 c cs pair inside ih =>
    have other : c ≠ '\r' := by
      rintro rfl
      apply inside rfl
    rw [List.cons_append, lineEnds, if_neg inside, ih apart.of_cons]
    simp [other]

/-- The part of a text after its last line end. -/
def lastLine (cs : List Char) : List Char :=
  (cs.reverse.takeWhile fun c => !endsLine c).reverse

theorem lastLine_append_of_inLine (cs : List Char) {ds : List Char} (inLine : InLine ds) :
  lastLine (cs ++ ds) = lastLine cs ++ ds
  := by
  have kept : ∀ c ∈ ds.reverse, (!endsLine c) = true := by
    intro c member
    simp [inLine c (List.mem_reverse.mp member)]
  rw [lastLine, List.reverse_append, List.takeWhile_append_of_pos kept]
  simp [lastLine]

theorem lastLine_append_of_lineEnd (cs : List Char) {ds : List Char} (whole : ds ∈ lineEndTexts) :
  lastLine (cs ++ ds) = []
  := by
  simp only [lineEndTexts, List.mem_cons, List.not_mem_nil, or_false] at whole
  rcases whole with rfl | rfl | rfl <;> simp [lastLine, endsLine]

end Lexeme

/-! ### The place past a text -/

open Lexeme

/-- The place just past a text at the start of a document. -/
def Mark.after (cs : List Char) : Mark :=
  ⟨1 + lineEnds cs, Text.units (lastLine cs)⟩

/-- A token without its place. -/
def Token.lexeme (t : Token) : Lexeme :=
  ⟨t.kind, t.text.toList⟩

namespace Lexeme

variable {l : Lexeme} {rest : List Char}

theorem Cut.text_ne_nil (cut : l.Cut rest) :
  l.text ≠ []
  := by
  cases cut with
  | inside _ holds => apply holds
  | lineEnd _ whole =>
    intro empty
    simp [empty, lineEndTexts] at whole

/-- What precedes the rest of a text, up to and with the last lexeme, stays apart from it. -/
theorem Cut.apart (cut : l.Cut rest) (before : List Char) :
  Apart (before ++ l.text) rest
  := by
  rw [Apart, List.getLast?_append_of_ne_nil _ cut.text_ne_nil]
  cases cut with
  | inside _ _ inLine =>
    intro last
    apply absurd (inLine _ (List.mem_of_getLast? last))
    decide
  | lineEnd _ _ apart => apply apart

/-- A lexeme leads from the place past the text before it to the place past that text and itself. -/
theorem Cut.finish_after (cut : l.Cut rest) {before : List Char} (apart : Apart before l.text) :
  l.finish (.after before) = .after (before ++ l.text)
  := by
  rw [Mark.after, Mark.after, lineEnds_append_of_apart apart]
  cases cut with
  | inside other _ inLine =>
    have none := lineEnds_append inLine []
    simp only [List.append_nil] at none
    rw [finish, if_neg other, none, lastLine_append_of_inLine _ inLine, Text.units_append]
    rfl
  | lineEnd found whole =>
    have one : lineEnds l.text = 1 := by
      simp only [lineEndTexts, List.mem_cons, List.not_mem_nil, or_false] at whole
      rcases whole with text | text | text <;> simp [text, lineEnds, endsLine]
    rw [finish, if_pos found, one, lastLine_append_of_lineEnd _ whole]
    rfl

theorem Apart.of_append {cs ds es : List Char} (apart : Apart cs (ds ++ es)) (holds : ds ≠ []) :
  Apart cs ds
  := by
  intro last
  rw [← List.head?_append_of_ne_nil ds holds]
  apply apart last

/-- The lexemes of what follows a text are placed by the text before each of them. -/
theorem place_split (index : Nat) {before cs : List Char} (apart : Apart before cs) :
  (∀ ts t ts', (place index (.after before) (split cs)).tokens = ts ++ t :: ts' →
      t.index = index + ts.length
        ∧ t.mark = .after (before ++ ts.flatMap fun t => t.text.toList))
    ∧ (place index (.after before) (split cs)).finish = .after (before ++ cs)
  := by
  fun_induction split cs generalizing index before with
  | case1 =>
    constructor
    · intro ts t ts' divided
      simp [place] at divided
    · rw [List.append_nil]
      rfl
  | case2 c cs ih =>
    have whole := first_append c cs
    have cut := first_cut c cs
    rw [← whole] at apart
    have finish := cut.finish_after (apart.of_append (first_text_ne_nil c cs))
    obtain ⟨tokens, last⟩ := ih (index + 1) (cut.apart before)
    simp only [place, finish]
    constructor
    · intro ts t ts' divided
      rcases ts with _ | ⟨t', ts⟩
      · obtain ⟨rfl, -⟩ := List.cons_eq_cons.mp divided
        simp
      · obtain ⟨rfl, later⟩ := List.cons_eq_cons.mp divided
        obtain ⟨count, mark⟩ := tokens ts t ts' later
        constructor
        · rw [count, List.length_cons]
          omega
        · rw [mark, List.flatMap_cons, String.toList_ofList, List.append_assoc]
    · rw [last, List.append_assoc, whole]

/-- Placing lexemes keeps them as they are. -/
theorem lexemes_place (index : Nat) (start : Mark) (ls : List Lexeme) :
  (place index start ls).tokens.map Token.lexeme = ls
  := by
  induction ls generalizing index start with
  | nil => rfl
  | cons l ls ih => simp [place, Token.lexeme, ih]

end Lexeme

/-! ### Counters of 32 bits -/

/-- The sum of two counters, none if it does not fit in 32 bits. -/
def addWithin? (a b : Nat) : Option Nat :=
  if a + b ≤ maxCoordinate then some (a + b) else none

/-- Moves a place past one character. The column does not count line feeds. -/
def Mark.pass? (m : Mark) (c : Char) : Option Mark :=
  if c = '\n' then some m
  else (addWithin? m.column (Text.unitsOfChar c)).map fun column => { m with column }

/-- Moves a place to the start of the next line. -/
def Mark.nextLine? (m : Mark) : Option Mark :=
  (addWithin? m.line 1).map fun line => ⟨line, 0⟩

/-- The place just past a lexeme, counted character by character. -/
def Lexeme.finish? (l : Lexeme) (start : Mark) : Option Mark := do
  let finish ← l.text.foldlM Mark.pass? start
  if l.kind = .newline then finish.nextLine? else some finish

/-- The lexemes as tokens, counted character by character. -/
def Lexeme.place? : Nat → Mark → List Lexeme → Option Stream
  | _, start, [] => some ⟨[], start⟩
  | index, start, l :: ls => do
    let rest ← place? (index + 1) (← l.finish? start) ls
    return ⟨⟨l.kind, String.ofList l.text, index, start⟩ :: rest.tokens, rest.finish⟩

/-- The token stream of a document, none if a line or a column does not fit in 32 bits. -/
def Stream.ofText? (source : String) : Option Stream :=
  Lexeme.place? 0 .start (Lexeme.split source.toList)

/-- The column goes up by the units of the characters that are no line feeds. -/
theorem Mark.foldlM_pass? {m : Mark} {cs : List Char}
    (fits : m.column + Text.units cs ≤ maxCoordinate) :
  cs.foldlM pass? m = some { m with column := m.column + Text.units (cs.filter (· ≠ '\n')) }
  := by
  induction cs generalizing m with
  | nil => rfl
  | cons c cs ih =>
    simp only [Text.units] at fits
    rw [List.foldlM_cons, pass?]
    by_cases feed : c = '\n'
    · have later : m.column + Text.units cs ≤ maxCoordinate := by omega
      simp [feed, ih later]
    · have next : m.column + Text.unitsOfChar c ≤ maxCoordinate := by omega
      have later : m.column + Text.unitsOfChar c + Text.units cs ≤ maxCoordinate := by omega
      simp only [feed, ↓reduceIte, addWithin?, next, Option.map_some, Option.bind_eq_bind,
        Option.bind_some]
      rw [ih later]
      simp [feed, Text.units, Nat.add_assoc]

theorem Text.units_pos {cs : List Char} (holds : cs ≠ []) :
  0 < units cs
  := by
  obtain ⟨c, cs, rfl⟩ := List.exists_cons_of_ne_nil holds
  simp only [units, unitsOfChar]
  split <;> omega

namespace Lexeme

/-- A lexeme can be counted in 32 bits where the line and the column are far enough from the end. -/
theorem Cut.finish?_eq {l : Lexeme} {rest : List Char} (cut : l.Cut rest) {start : Mark}
    (line : start.line + Text.units l.text ≤ maxCoordinate)
    (column : start.column + Text.units l.text ≤ maxCoordinate) :
  l.finish? start = some (l.finish start)
  := by
  have holds := Text.units_pos cut.text_ne_nil
  rw [finish?, Mark.foldlM_pass? column]
  cases cut with
  | inside other _ inLine =>
    have noFeed : l.text.filter (· ≠ '\n') = l.text := by
      apply List.filter_eq_self.mpr
      rintro c member
      have inside := inLine c member
      simp only [decide_not, Bool.not_eq_eq_eq_not, Bool.not_true, decide_eq_false_iff_not]
      rintro rfl
      cases inside
    rw [noFeed]
    simp [other, finish]
  | lineEnd found =>
    have next : start.line + 1 ≤ maxCoordinate := by omega
    simp only [Option.bind_eq_bind, Option.bind_some, found, ↓reduceIte, finish, Mark.nextLine?,
      addWithin?, next, Option.map_some]

/-- A lexeme moves the line and the column by no more than its length. -/
theorem Cut.finish_le {l : Lexeme} {rest : List Char} (cut : l.Cut rest) (start : Mark) :
  (l.finish start).line ≤ start.line + Text.units l.text
    ∧ (l.finish start).column ≤ start.column + Text.units l.text
  := by
  have holds := Text.units_pos cut.text_ne_nil
  unfold finish
  split
  · constructor <;> dsimp only <;> omega
  · constructor <;> dsimp only <;> omega

/-- Lexemes can be counted in 32 bits where the line and the column are far enough from the end. -/
theorem place?_eq {ls : List Lexeme} (cuts : ∀ l ∈ ls, ∃ rest, l.Cut rest) (index : Nat)
    {start : Mark} (line : start.line + Text.units (ls.flatMap text) ≤ maxCoordinate)
    (column : start.column + Text.units (ls.flatMap text) ≤ maxCoordinate) :
  place? index start ls = some (place index start ls)
  := by
  induction ls generalizing index start with
  | nil => rfl
  | cons l ls ih =>
    obtain ⟨rest, cut⟩ := cuts l (List.mem_cons_self ..)
    rw [List.flatMap_cons, Text.units_append] at line column
    have here : l.finish? start = some (l.finish start) := cut.finish?_eq (by omega) (by omega)
    obtain ⟨lineLe, columnLe⟩ := cut.finish_le start
    have later : place? (index + 1) (l.finish start) ls
        = some (place (index + 1) (l.finish start) ls) := by
      apply ih fun l member => cuts l (List.mem_cons_of_mem _ member)
      · omega
      · omega
    simp only [place?, here, later, place, Option.bind_eq_bind, Option.bind_some]
    rfl

end Lexeme

/-! ### Whole documents -/

theorem Stream.lexemes_ofText (source : String) :
  (ofText source).tokens.map Token.lexeme = split source.toList
  := lexemes_place 0 .start (split source.toList)

/-- The texts of tokens join to those of their lexemes. -/
theorem Stream.toList_join_text (ts : List Token) :
  (String.join (ts.map Token.text)).toList = (ts.map Token.lexeme).flatMap text
  := by
  rw [String.toList_join, List.flatMap_map, List.flatMap_map]
  rfl

/-- The texts of the tokens join to the document. -/
theorem Stream.join_ofText (source : String) :
  String.join ((ofText source).tokens.map Token.text) = source
  := by
  apply String.toList_inj.mp
  rw [toList_join_text, lexemes_ofText, flatMap_text_split]

/-- Every token of a document is a part of a line or a line end. -/
theorem Stream.cut_of_mem_ofText {source : String} {t : Token} (member : t ∈ (ofText source).tokens) :
  ∃ rest, t.lexeme.Cut rest
  := by
  have known : t.lexeme ∈ split source.toList := by
    rw [← lexemes_ofText]
    apply List.mem_map_of_mem member
  apply cut_of_mem_split known

/-- A document that is not too long can be counted in 32 bits. -/
theorem Stream.ofText?_eq {source : String} (short : Text.units source.toList < maxCoordinate) :
  ofText? source = some (ofText source)
  := by
  have room : 1 + Text.units source.toList ≤ maxCoordinate := by omega
  apply place?_eq fun l member => cut_of_mem_split member
  · rw [flatMap_text_split]
    apply room
  · rw [flatMap_text_split]
    apply Nat.le_trans _ room
    apply Nat.add_le_add_right (Nat.zero_le 1)

/-- The tokens of a document join to it, and none of them is empty. The index of a token is the number
of tokens before it, its line is told by the line ends before it, and its column by the UTF-16 units
after the last of them; so it is with the place where the document ends. A token with a character that
ends a line is exactly one line end. Counting all this in 32 bits is possible. -/
theorem Stream.ofText_places (source : String)
    (short : Text.units source.toList < maxCoordinate) :
  String.join ((ofText source).tokens.map Token.text) = source
    ∧ (∀ t ∈ (ofText source).tokens, t.text ≠ "")
    ∧ (∀ ts t ts', (ofText source).tokens = ts ++ t :: ts' →
      t.index = ts.length
        ∧ t.mark.line = 1 + lineEnds (String.join (ts.map Token.text)).toList
        ∧ t.mark.column = Text.units (lastLine (String.join (ts.map Token.text)).toList))
    ∧ (ofText source).finish.line = 1 + lineEnds source.toList
    ∧ (ofText source).finish.column = Text.units (lastLine source.toList)
    ∧ (∀ t ∈ (ofText source).tokens, (∃ c ∈ t.text.toList, endsLine c) → t.kind = .newline)
    ∧ (∀ t ∈ (ofText source).tokens, t.kind = .newline → t.text.toList ∈ lineEndTexts)
    ∧ ofText? source = some (ofText source)
  := by
  have apart : Apart [] source.toList := nofun
  obtain ⟨placed, finish⟩ := place_split 0 apart
  refine ⟨join_ofText source, fun t member => ?_, fun ts t ts' divided => ?_, ?_, ?_,
    fun t member ends => ?_, fun t member found => ?_, ofText?_eq short⟩
  · obtain ⟨rest, cut⟩ := cut_of_mem_ofText member
    intro empty
    apply cut.text_ne_nil
    rw [Token.lexeme, empty]
    rfl
  · obtain ⟨index, mark⟩ := placed ts t ts' divided
    rw [String.toList_join, List.flatMap_map, index, mark]
    simp [Mark.after]
  · apply congrArg Mark.line finish
  · apply congrArg Mark.column finish
  · obtain ⟨c, held, ends⟩ := ends
    obtain ⟨rest, cut⟩ := cut_of_mem_ofText member
    cases cut with
    | inside _ _ inLine =>
      apply absurd ends
      simp [inLine c held]
    | lineEnd found => apply found
  · obtain ⟨rest, cut⟩ := cut_of_mem_ofText member
    cases cut with
    | inside other => apply absurd found other
    | lineEnd _ whole => apply whole

/-- The places in a document with a pair of surrogates and all three line ends. -/
theorem Stream.ofText_places_mixed :
  Text.units "\"😀\" x\r\n\ry\n z".toList < maxCoordinate
    ∧ (ofText "\"😀\" x\r\n\ry\n z").tokens.map (fun t => (t.mark.line, t.mark.column))
      = [(1, 0), (1, 4), (1, 5), (1, 6), (2, 0), (3, 0), (3, 1), (4, 0), (4, 1)]
    ∧ (ofText "\"😀\" x\r\n\ry\n z").finish.line = 4
    ∧ (ofText "\"😀\" x\r\n\ry\n z").finish.column = 2
    ∧ ofText? "\"😀\" x\r\n\ry\n z" = some (ofText "\"😀\" x\r\n\ry\n z")
  := by
  have short : Text.units "\"😀\" x\r\n\ry\n z".toList < maxCoordinate := by decide
  obtain ⟨-, -, -, line, column, -, -, counted⟩ := ofText_places _ short
  refine ⟨short, by decide +kernel, ?_, ?_, counted⟩
  · rw [line]
    decide
  · rw [column]
    decide

end PlanetServer
