import Mathlib.Tactic.Common
import PlanetServer.Token.Lexeme

/-!
# Lines of a document

No lexeme reaches over the end of a line, so a text that ends with a line feed is divided into lexemes
apart from what follows it. The tokens of what follows are those that it has on its own, with their
indices and lines shifted.
-/

namespace PlanetServer

namespace Lexeme

/-! ### The first lexeme before other text -/

section

variable {p : Char → Bool} {c : Char} {cs : List Char}

theorem takeWhile_append_of_mem (member : c ∈ cs) (stops : p c = false) (b : List Char) :
  (cs ++ b).takeWhile p = cs.takeWhile p
  := by
  induction cs with
  | nil => cases member
  | cons d cs ih =>
    cases found : p d with
    | false => simp [found]
    | true =>
      have later : c ∈ cs := by
        rcases List.mem_cons.mp member with rfl | later
        · simp [stops] at found
        · apply later
      simp [found, ih later]

theorem dropWhile_append_of_mem (member : c ∈ cs) (stops : p c = false) (b : List Char) :
  (cs ++ b).dropWhile p = cs.dropWhile p ++ b
  := by
  induction cs with
  | nil => cases member
  | cons d cs ih =>
    cases found : p d with
    | false => simp [found]
    | true =>
      have later : c ∈ cs := by
        rcases List.mem_cons.mp member with rfl | later
        · simp [stops] at found
        · apply later
      simp [found, ih later]

theorem mem_dropWhile_of_mem (member : c ∈ cs) (stops : p c = false) :
  c ∈ cs.dropWhile p
  := by
  rw [← List.takeWhile_append_dropWhile (p := p) (l := cs)] at member
  rcases List.mem_append.mp member with early | late
  · have kept := List.all_eq_true.mp List.all_takeWhile c early
    simp [stops] at kept
  · apply late

end

section

variable {c : Char} {cs : List Char} (h : '\n' ∈ cs) (b : List Char)

include h

theorem run_append (kind : Kind) (before : List Char) {p : Char → Bool} (stops : p '\n' = false) :
  run kind before p (cs ++ b) = ((run kind before p cs).1, (run kind before p cs).2 ++ b)
  := by
  simp [run, takeWhile_append_of_mem h stops, dropWhile_append_of_mem h stops]

theorem quoted_append_right :
  quoted (cs ++ b) = ((quoted cs).1, (quoted cs).2.1, (quoted cs).2.2 ++ b)
  := by
  fun_induction quoted cs with
  | case1 => cases h
  | case2 cs => simp [quoted]
  | case3 => simp at h
  | case4 c cs ends => simp [quoted, ends]
  | case5 c cs inside text closed rest eq ih =>
    have later : '\n' ∈ cs := by
      rcases List.mem_cons.mp h with found | found
      · apply absurd found (by decide)
      · rcases List.mem_cons.mp found with rfl | later
        · apply absurd rfl inside
        · apply later
    simp [quoted, inside, ih later, eq]
  | case6 c cs quote slash slash' ends =>
    have other : c ≠ '\\' := by
      rintro rfl
      apply absurd ends (by decide)
    simp [quoted, ends, other]
  | case7 c cs quote slash slash' inside text closed rest eq ih =>
    have later : '\n' ∈ cs := by
      rcases List.mem_cons.mp h with rfl | later
      · apply absurd rfl inside
      · apply later
    have other : c ≠ '\\' := by
      rintro rfl
      cases cs with
      | nil => apply slash rfl rfl
      | cons d cs => apply slash' d cs rfl rfl
    simp [quoted, inside, other, ih later, eq]

theorem digits_append_right :
  digits (cs ++ b) = ((digits cs).1, (digits cs).2 ++ b)
  := by
  have stops : isDigit '\n' = false := by decide
  have more : '\n' ∈ cs.dropWhile isDigit := mem_dropWhile_of_mem h stops
  unfold digits
  rw [takeWhile_append_of_mem h stops, dropWhile_append_of_mem h stops]
  generalize cs.dropWhile isDigit = tail at more ⊢
  rcases tail with _ | ⟨x, _ | ⟨d, rest⟩⟩
  · cases more
  · obtain rfl := List.mem_singleton.mp more
    simp
  · by_cases point : x = '.'
    · subst point
      cases found : isDigit d with
      | false => simp [found]
      | true =>
        have later : '\n' ∈ rest := by
          rcases List.mem_cons.mp more with bad | more
          · apply absurd bad (by decide)
          · rcases List.mem_cons.mp more with rfl | later
            · apply absurd found (by decide)
            · apply later
        simp [found, takeWhile_append_of_mem later stops, dropWhile_append_of_mem later stops]
    · simp [point]

theorem mark_append_right (c : Char) :
  mark c (cs ++ b) = ((mark c cs).1, (mark c cs).2 ++ b)
  := by
  cases cs with
  | nil => cases h
  | cons d cs =>
    cases found : pair? c d with
    | none => simp [mark, found]
    | some kind => simp [mark, found]

theorem word_append_right (c : Char) :
  word c (cs ++ b) = ((word c cs).1, (word c cs).2 ++ b)
  := by
  have stops : continuesWord '\n' = false := by decide
  simp [word, takeWhile_append_of_mem h stops, dropWhile_append_of_mem h stops]

theorem string_append_right :
  string (cs ++ b) = ((string cs).1, (string cs).2 ++ b)
  := by
  simp [string, quoted_append_right h b]

end

theorem lineEnd_append_right {c : Char} {cs : List Char} (h : c = '\n' ∨ '\n' ∈ cs) (b : List Char) :
  lineEnd c (cs ++ b) = ((lineEnd c cs).1, (lineEnd c cs).2 ++ b)
  := by
  rcases h with rfl | h
  · simp [lineEnd]
  · cases cs with
    | nil => cases h
    | cons d cs =>
      by_cases feed : d = '\n'
      · by_cases ret : c = '\r'
        · simp [lineEnd, feed, ret]
        · simp [lineEnd, ret]
      · simp [lineEnd, feed]

/-- The first lexeme of a text with a line feed does not depend on what follows the text. -/
theorem first_append_right {c : Char} {cs : List Char} (h : c = '\n' ∨ '\n' ∈ cs) (b : List Char) :
  first c (cs ++ b) = ((first c cs).1, (first c cs).2 ++ b)
  := by
  unfold first
  split
  · apply lineEnd_append_right h
  have h : '\n' ∈ cs := by
    rcases h with rfl | h
    · apply absurd rfl ‹_›
    · apply h
  have head : (cs ++ b).head? = cs.head? := by
    cases cs with
    | nil => cases h
    | cons d cs => rfl
  rw [head]
  split
  · apply run_append h b _ _ (by decide)
  split
  · apply run_append h b _ _ (by decide)
  split
  · apply run_append h b _ _ (by decide)
  split
  · apply string_append_right h
  split
  · simp [digits_append_right h]
  split
  · apply word_append_right h
  · apply mark_append_right h

/-- A text that ends with a line feed is divided apart from what follows it. -/
theorem split_append {a : List Char} (h : ∀ c ∈ a.getLast?, c = '\n') (b : List Char) :
  split (a ++ b) = split a ++ split b
  := by
  fun_induction split a with
  | case1 => rfl
  | case2 c cs ih =>
    have feed : c = '\n' ∨ '\n' ∈ cs := by
      have last := h _ (List.getLast?_eq_some_getLast (List.cons_ne_nil c cs))
      have member := List.getLast_mem (List.cons_ne_nil c cs)
      rw [last] at member
      apply (List.mem_cons.mp member).imp_left Eq.symm
    have rest : ∀ x ∈ (first c cs).2.getLast?, x = '\n' := by
      intro x member
      apply h
      rw [← first_append c cs, List.getLast?_append, member, Option.some_or]
      rfl
    rw [List.cons_append, split, first_append_right feed, ih rest, List.cons_append]

/-! ### Line ends -/

/-- The number of line ends in a text: `\n`, `\r\n` and `\r` on its own. -/
def lineEnds : List Char → Nat
  | [] => 0
  | '\r' :: '\n' :: cs => lineEnds cs + 1
  | c :: cs => if endsLine c then lineEnds cs + 1 else lineEnds cs

/-- No character ends a line. -/
def InLine (cs : List Char) : Prop :=
  ∀ c ∈ cs, endsLine c = false

theorem lineEnds_append {cs : List Char} (h : InLine cs) (rest : List Char) :
  lineEnds (cs ++ rest) = lineEnds rest
  := by
  induction cs with
  | nil => rfl
  | cons c cs ih =>
    have inside := h c (by simp)
    have other : c ≠ '\r' := by
      rintro rfl
      cases inside
    rw [List.cons_append, lineEnds]
    · rw [if_neg (by simp [inside]), ih fun d member => h d (by simp [member])]
    · simp [other]

theorem inLine_takeWhile {p : Char → Bool} (h : ∀ c, p c → endsLine c = false) (cs : List Char) :
  InLine (cs.takeWhile p)
  := fun c member => h c (List.all_eq_true.mp List.all_takeWhile c member)

theorem InLine.nil : InLine [] := by
  simp [InLine]

theorem InLine.cons {c : Char} {cs : List Char} (h : endsLine c = false) (h' : InLine cs) :
  InLine (c :: cs)
  := List.forall_mem_cons.mpr ⟨h, h'⟩

theorem inLine_quoted (cs : List Char) :
  InLine (quoted cs).1
  := by
  fun_induction quoted cs with
  | case1 => exact .nil
  | case2 => exact .cons (by decide) .nil
  | case3 => exact .cons (by decide) .nil
  | case4 => exact .cons (by decide) .nil
  | case5 c cs inside text closed rest eq ih =>
    rw [eq] at ih
    exact .cons (by decide) (.cons (by simpa using inside) ih)
  | case6 => exact .nil
  | case7 c cs _ _ _ inside text closed rest eq ih =>
    rw [eq] at ih
    exact .cons (by simpa using inside) ih

theorem not_endsLine {p : Char → Bool} (feed : p '\n' = false) (ret : p '\r' = false) {c : Char}
    (h : p c = true) :
  endsLine c = false
  := by
  cases ends : endsLine c with
  | false => rfl
  | true =>
    simp only [endsLine, Bool.or_eq_true, beq_iff_eq] at ends
    rcases ends with rfl | rfl
    · simp [feed] at h
    · simp [ret] at h

theorem inLine_digits (cs : List Char) :
  InLine (digits cs).1
  := by
  have digit : ∀ {c}, isDigit c = true → endsLine c = false :=
    not_endsLine (by decide) (by decide)
  have whole := fun cs => inLine_takeWhile (fun c => digit) cs
  unfold digits
  split
  · split
    · rintro c member
      rcases List.mem_append.mp member with member | member
      · apply whole cs c member
      · apply InLine.cons (by decide) (.cons (digit ‹_›) (whole _)) c member
    · apply whole cs
  · apply whole cs

theorem pair?_spec {c d : Char} {k : Kind} (h : pair? c d = some k) :
  endsLine d = false ∧ k ≠ .newline
  := by
  unfold pair? at h
  split at h
  all_goals first
    | exact ⟨by decide, by cases h; decide⟩
    | cases h

theorem single_ne_newline (c : Char) :
  single c ≠ .newline
  := by
  unfold single
  split <;> decide

theorem keyword?_ne_newline (text : String) :
  (Kind.keyword? text).getD .identifier ≠ .newline
  := by
  unfold Kind.keyword?
  split <;> decide

/-- The first lexeme of a text that does not start with the end of a line is inside its line. -/
theorem first_inLine {c : Char} (h : endsLine c = false) (cs : List Char) :
  (first c cs).1.kind ≠ .newline ∧ InLine (first c cs).1.text
  := by
  unfold first
  rw [if_neg (by simp [h])]
  split
  · exact ⟨by simp [run], .cons h (inLine_takeWhile (by simp) cs)⟩
  split
  · exact ⟨by simp [run], .cons h (inLine_takeWhile (by simp) cs)⟩
  split
  · exact ⟨by simp [run], .cons h (inLine_takeWhile (by simp) cs)⟩
  split
  · refine ⟨?_, .cons (by decide) (inLine_quoted cs)⟩
    simp only [string]
    split <;> decide
  split
  · exact ⟨by simp, .cons h (inLine_digits cs)⟩
  split
  · exact ⟨keyword?_ne_newline _,
      .cons h (inLine_takeWhile (fun _ => not_endsLine (by decide) (by decide)) cs)⟩
  unfold mark
  split
  · exact ⟨single_ne_newline c, .cons h .nil⟩
  split
  · obtain ⟨inside, other⟩ := pair?_spec ‹_›
    exact ⟨other, .cons h (.cons inside .nil)⟩
  · exact ⟨single_ne_newline c, .cons h .nil⟩

/-- The first lexeme of a text that starts with the end of a line is that end. -/
theorem first_of_endsLine {c : Char} (h : endsLine c = true) (cs : List Char) :
  (first c cs).1.kind = .newline ∧ lineEnds (c :: cs) = lineEnds (first c cs).2 + 1
  := by
  unfold first
  rw [if_pos h]
  unfold lineEnd
  split
  · exact ⟨rfl, by rw [lineEnds]⟩
  · rename_i other
    refine ⟨rfl, ?_⟩
    rw [lineEnds, if_pos h]
    rintro cs rfl rfl
    apply other cs rfl rfl

/-- The lexemes that end lines are as many as the line ends of the text. -/
theorem countP_newline_split (cs : List Char) :
  (split cs).countP (fun l => l.kind = .newline) = lineEnds cs
  := by
  fun_induction split cs with
  | case1 => rfl
  | case2 c cs ih =>
    rw [List.countP_cons, ih]
    cases ends : endsLine c with
    | true =>
      obtain ⟨found, count⟩ := first_of_endsLine ends cs
      simp [found, count]
    | false =>
      obtain ⟨other, inside⟩ := first_inLine ends cs
      rw [← first_append c cs, lineEnds_append inside]
      simp [other]

/-- The last lexeme of a text that ends with a line feed is the end of a line. -/
theorem getLast?_split {cs : List Char} (h : ∀ c ∈ cs.getLast?, c = '\n') :
  ∀ l ∈ (split cs).getLast?, l.kind = .newline
  := by
  fun_induction split cs with
  | case1 => nofun
  | case2 c cs ih =>
    have whole := first_append c cs
    rcases rest : (first c cs).2 with _ | ⟨d, ds⟩
    · rw [split, List.getLast?_singleton]
      rintro _ ⟨⟩
      rw [rest, List.append_nil] at whole
      cases ends : endsLine c with
      | true => apply (first_of_endsLine ends cs).1
      | false =>
        -- the lexeme is the whole text, so it holds the line feed
        have last := h _ (List.getLast?_eq_some_getLast (List.cons_ne_nil c cs))
        have member := List.getLast_mem (List.cons_ne_nil c cs)
        rw [last, ← whole] at member
        have inside := (first_inLine ends cs).2 _ member
        cases inside
    · rw [rest] at ih whole
      have more : split (d :: ds) ≠ [] := by simp [split]
      rw [List.getLast?_cons_of_ne_nil more]
      apply ih
      intro x member
      apply h
      rw [← whole, List.getLast?_append, member]
      rfl

theorem split_ends {cs : List Char} (h : cs.getLast? = some '\n') :
  ∃ l, (split cs).getLast? = some l ∧ l.kind = .newline
  := by
  have feed : ∀ c ∈ cs.getLast?, c = '\n' := by simp [h]
  rcases cs with _ | ⟨c, cs⟩
  · cases h
  · have some : split (c :: cs) ≠ [] := by simp [split]
    have last := List.getLast?_eq_some_getLast some
    exact ⟨_, last, getLast?_split feed _ last⟩

end Lexeme

/-! ### Shifted places -/

/-- The place some lines further down. -/
def Mark.down (lines : Nat) (m : Mark) : Mark :=
  ⟨m.line + lines, m.column⟩

theorem Mark.eq_of {m m' : Mark} (line : m.line = m'.line) (column : m.column = m'.column) :
  m = m'
  := by
  obtain ⟨_, _⟩ := m
  obtain ⟨_, _⟩ := m'
  simp_all

/-- The token in a document that has some more tokens and lines before it. -/
def Token.shift (count lines : Nat) (t : Token) : Token :=
  ⟨t.kind, t.text, t.index + count, t.mark.down lines⟩

@[simp] theorem Token.shift_kind (count lines : Nat) (t : Token) :
  (t.shift count lines).kind = t.kind
  := rfl

@[simp] theorem Token.shift_text (count lines : Nat) (t : Token) :
  (t.shift count lines).text = t.text
  := rfl

@[simp] theorem Token.shift_mark (count lines : Nat) (t : Token) :
  (t.shift count lines).mark = t.mark.down lines
  := rfl

@[simp] theorem Token.shift_isHidden (count lines : Nat) (t : Token) :
  (t.shift count lines).isHidden = t.isHidden
  := rfl

namespace Lexeme

theorem place_append (index : Nat) (start : Mark) (ls ls' : List Lexeme) :
  place index start (ls ++ ls')
    = ⟨(place index start ls).tokens
        ++ (place (index + ls.length) (place index start ls).finish ls').tokens,
      (place (index + ls.length) (place index start ls).finish ls').finish⟩
  := by
  induction ls generalizing index start with
  | nil => rfl
  | cons l ls ih =>
    have next : index + 1 + ls.length = index + (l :: ls).length := by simp; omega
    simp only [List.cons_append, place, ih, next]

theorem place_shift (index count lines : Nat) (start : Mark) (ls : List Lexeme) :
  place (index + count) (start.down lines) ls
    = ⟨(place index start ls).tokens.map (Token.shift count lines),
      (place index start ls).finish.down lines⟩
  := by
  induction ls generalizing index start with
  | nil => rfl
  | cons l ls ih =>
    have index' : index + count + 1 = index + 1 + count := by omega
    have start' : l.finish (start.down lines) = (l.finish start).down lines := by
      unfold finish
      split
      · simp only [Mark.down]
        congr 1
        omega
      · rfl
    simp only [place, index', start', ih, List.map_cons]
    rfl

theorem place_length (index : Nat) (start : Mark) (ls : List Lexeme) :
  (place index start ls).tokens.length = ls.length
  := by
  induction ls generalizing index start with
  | nil => rfl
  | cons l ls ih => simp [place, ih]

/-- The line where a document ends is told by the lexemes that end lines. -/
theorem place_finish_line (index : Nat) (start : Mark) (ls : List Lexeme) :
  (place index start ls).finish.line = start.line + ls.countP fun l => l.kind = .newline
  := by
  induction ls generalizing index start with
  | nil => rfl
  | cons l ls ih =>
    simp only [place, ih, List.countP_cons, finish]
    split
    · simp [*]
      omega
    · simp [*]

theorem place_finish_column (index : Nat) (start : Mark) {ls : List Lexeme} {l : Lexeme}
    (h : ls.getLast? = some l) (found : l.kind = .newline) :
  (place index start ls).finish.column = 0
  := by
  induction ls generalizing index start with
  | nil => cases h
  | cons l' ls ih =>
    rcases ls with _ | ⟨l'', ls⟩
    · obtain rfl : l' = l := by simpa using h
      simp [place, finish, found]
    · apply ih (index + 1) (l'.finish start) (by simpa using h)

end Lexeme

/-- The stream of a document whose first part ends with a line feed. -/
theorem Stream.ofText_append {a : String} (h : a.toList.getLast? = some '\n') (b : String) :
  Stream.ofText (a ++ b)
    = ⟨(ofText a).tokens ++ (ofText b).tokens.map
        (Token.shift (ofText a).tokens.length (Lexeme.lineEnds a.toList)),
      (ofText b).finish.down (Lexeme.lineEnds a.toList)⟩
  := by
  have feed : ∀ c ∈ a.toList.getLast?, c = '\n' := by simp [h]
  have finish : (ofText a).finish = Mark.start.down (Lexeme.lineEnds a.toList) := by
    obtain ⟨l, last, found⟩ := Lexeme.split_ends h
    have line := Lexeme.place_finish_line 0 .start (Lexeme.split a.toList)
    rw [Lexeme.countP_newline_split] at line
    apply Mark.eq_of line (Lexeme.place_finish_column 0 .start last found)
  rw [ofText, String.toList_append, Lexeme.split_append feed, Lexeme.place_append]
  change Stream.mk (_ ++ (Lexeme.place _ (ofText a).finish _).tokens)
    (Lexeme.place _ (ofText a).finish _).finish = _
  rw [finish, ← Lexeme.place_length 0 .start, Lexeme.place_shift]
  rfl

/-- A document whose first part ends with a line feed has the tokens of that part, and after them those
of the second part, with the same kinds, texts and columns. As many tokens and lines stand before them
as the first part has. The document ends where its second part ends, that many lines further down. -/
theorem Stream.parts_apart {a : String} (h : a.toList.getLast? = some '\n') (b : String) :
  (ofText (a ++ b)).tokens
      = (ofText a).tokens ++ (ofText b).tokens.map (fun t =>
        { t with
          index := t.index + (ofText a).tokens.length
          mark := ⟨t.mark.line + Lexeme.lineEnds a.toList, t.mark.column⟩ })
    ∧ (ofText (a ++ b)).finish
      = ⟨(ofText b).finish.line + Lexeme.lineEnds a.toList, (ofText b).finish.column⟩
  := by
  rw [ofText_append h b]
  exact ⟨rfl, rfl⟩

/-- A string that a backslash leaves open at the end of a line, and a line end of two characters before a
part that starts with a line feed. -/
theorem Stream.parts_apart_open :
  "x = \"a\\\n\r\n".toList.getLast? = some '\n'
    ∧ (ofText ("x = \"a\\\n\r\n" ++ "\n\" 3.")).tokens.map (fun t => (t.kind, t.index, t.mark))
      = [(.identifier, 0, ⟨1, 0⟩), (.whitespace, 1, ⟨1, 1⟩), (.assign, 2, ⟨1, 2⟩),
        (.whitespace, 3, ⟨1, 3⟩), (.unknown, 4, ⟨1, 4⟩), (.newline, 5, ⟨1, 7⟩), (.newline, 6, ⟨2, 0⟩),
        (.newline, 7, ⟨3, 0⟩), (.unknown, 8, ⟨4, 0⟩)]
    ∧ (ofText ("x = \"a\\\n\r\n" ++ "\n\" 3.")).finish = ⟨4, 4⟩
  := by
  have ends : "x = \"a\\\n\r\n".toList.getLast? = some '\n' := by decide
  obtain ⟨tokens, finish⟩ := parts_apart ends "\n\" 3."
  refine ⟨ends, ?_, ?_⟩
  · rw [tokens]
    decide +kernel
  · rw [finish]
    decide +kernel

end PlanetServer
