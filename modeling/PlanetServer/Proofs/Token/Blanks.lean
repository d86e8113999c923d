import Mathlib.Data.List.TakeWhile
import PlanetServer.Proofs.Token.Places

/-!
# Blanks between tokens

A space or a tab between two lexemes, or at either end of a text, leaves the significant lexemes as
they are. A lexeme that is significant ends before the blank as it ended before what follows the
blank, and a hidden one may take the blank along.

* `Lexeme.scanner` tells in which way the first lexeme of a text is found, from its first two
  characters.
* `Lexeme.Follows` says which texts may take the place of the one behind a lexeme, and
  `Lexeme.first_of_follows` that the lexeme then stays the same.
* `Lexeme.first_hidden_insert` says what becomes of a hidden lexeme right before the blank.
-/

namespace PlanetServer.Lexeme

/-- A space or a tab. -/
def IsSpace (c : Char) : Prop :=
  c = ' ' ∨ c = '\t'

/-- The lexemes that are not hidden. -/
def significant (ls : List Lexeme) : List Lexeme :=
  ls.filter fun l => !l.kind.isHidden

theorem significant_of_hidden {l : Lexeme} (hidden : l.kind.isHidden = true) (ls : List Lexeme) :
  significant (l :: ls) = significant ls
  := by
  simp [significant, hidden]

section

variable {p : Char → Bool} {body rest : List Char}

/-- Where a run of characters ends. -/
theorem run_spec (h : (body ++ rest).dropWhile p = rest) :
  (∀ c ∈ body, p c = true) ∧ ∀ c ∈ rest.head?, p c = false
  := by
  have whole := List.takeWhile_append_dropWhile (p := p) (l := body ++ rest)
  rw [h] at whole
  have taken : (body ++ rest).takeWhile p = body := List.append_cancel_right whole
  constructor
  · intro c member
    rw [← taken] at member
    apply List.mem_takeWhile_imp member
  · intro c found
    have stops := List.head?_dropWhile_not p (body ++ rest)
    rw [h, found] at stops
    simpa using stops

/-- A run of characters before a character that ends it. -/
theorem run_of_spec (inside : ∀ c ∈ body, p c = true) (stops : ∀ c ∈ rest.head?, p c = false) :
  (body ++ rest).takeWhile p = body ∧ (body ++ rest).dropWhile p = rest
  := by
  rw [List.takeWhile_append_of_pos inside, List.dropWhile_append_of_pos inside]
  rcases rest with _ | ⟨c, rest⟩
  · simp
  · have stop := stops c rfl
    simp [stop]

end

/-! ### Quoted strings -/

section

variable {cs : List Char}

/-- A character that is no backslash, neither at the end of a text nor before another character. -/
theorem ne_backslash {c : Char} (single : c = '\\' → cs = [] → False)
    (pair : ∀ d ds, c = '\\' → cs = d :: ds → False) :
  c ≠ '\\'
  := by
  intro backslash
  cases cs with
  | nil => apply single backslash rfl
  | cons d ds => apply pair d ds backslash rfl

/-- A string with a closing quote does not depend on what follows it. -/
theorem quoted_of_closed (closed : (quoted cs).2.1 = true) (rest : List Char) :
  quoted ((quoted cs).1 ++ rest) = ((quoted cs).1, true, rest)
  := by
  fun_induction quoted cs with
  | case1 => cases closed
  | case2 cs => simp [quoted]
  | case3 => cases closed
  | case4 c cs ends => cases closed
  | case5 c cs inside text closed' rest' eq ih =>
    rw [eq] at ih
    simp [quoted, inside, ih closed]
  | case6 c cs quote slash slash' ends => cases closed
  | case7 c cs quote slash slash' inside text closed' rest' eq ih =>
    rw [eq] at ih
    have other := ne_backslash slash slash'
    simp [quoted, inside, other, ih closed]

/-- A string without a closing quote ends with its line. -/
theorem quoted_stops (unclosed : (quoted cs).2.1 = false) :
  ∀ c ∈ (quoted cs).2.2.head?, endsLine c = true
  := by
  fun_induction quoted cs with
  | case1 => simp
  | case2 cs => cases unclosed
  | case3 => simp
  | case4 c cs ends => simpa using ends
  | case5 c cs inside text closed' rest' eq ih =>
    rw [eq] at ih
    apply ih unclosed
  | case6 c cs quote slash slash' ends => simpa using ends
  | case7 c cs quote slash slash' inside text closed' rest' eq ih =>
    rw [eq] at ih
    apply ih unclosed

/-- A quoted string before what follows it. -/
theorem quoted_spec {body rest : List Char} (left : (quoted (body ++ rest)).2.2 = rest) :
  (quoted (body ++ rest)).1 = body
    ∧ ((quoted (body ++ rest)).2.1 = false → ∀ c ∈ rest.head?, endsLine c = true)
  := by
  have whole := quoted_append (body ++ rest)
  rw [left] at whole
  constructor
  · apply List.append_cancel_right whole
  · intro unclosed
    have stops := quoted_stops unclosed
    rwa [left] at stops

/-- Blanks at the end of a line hold no closing quote. -/
theorem quoted_gap {gap rest : List Char} (spaces : ∀ c ∈ gap, IsSpace c)
    (ends : ∀ c ∈ rest.head?, endsLine c = true) :
  quoted (gap ++ rest) = (gap, false, rest)
  := by
  induction gap with
  | nil =>
    rcases rest with _ | ⟨c, rest⟩
    · rfl
    · have ends := ends c rfl
      have other : c ≠ '"' ∧ c ≠ '\\' := by
        constructor
        · rintro rfl
          cases ends
        · rintro rfl
          cases ends
      simp [quoted, ends, other]
  | cons c gap ih =>
    have later := ih fun d member => spaces d (List.mem_cons_of_mem c member)
    rcases spaces c (List.mem_cons_self ..) with rfl | rfl
    · simp [quoted, endsLine, later]
    · simp [quoted, endsLine, later]

/-- A backslash at the end of a line takes a blank along. -/
theorem quoted_slash_gap {gap rest : List Char} (spaces : ∀ c ∈ gap, IsSpace c)
    (ends : ∀ c ∈ rest.head?, endsLine c = true) :
  quoted ('\\' :: (gap ++ rest)) = ('\\' :: gap, false, rest)
  := by
  rcases gap with _ | ⟨c, gap⟩
  · rcases rest with _ | ⟨d, rest⟩
    · rfl
    · simp [quoted, ends d rfl]
  · have later := quoted_gap (fun d member => spaces d (List.mem_cons_of_mem c member)) ends
    rcases spaces c (List.mem_cons_self ..) with rfl | rfl
    · simp [quoted, endsLine, later]
    · simp [quoted, endsLine, later]

/-- A string without a closing quote takes the blanks before the end of its line along. -/
theorem quoted_of_unclosed (unclosed : (quoted cs).2.1 = false) {rest : List Char}
    (gap : List Char) (spaces : ∀ c ∈ gap, IsSpace c)
    (ends : ∀ c ∈ rest.head?, endsLine c = true) :
  quoted ((quoted cs).1 ++ (gap ++ rest)) = ((quoted cs).1 ++ gap, false, rest)
  := by
  fun_induction quoted cs with
  | case1 => apply quoted_gap spaces ends
  | case2 cs => cases unclosed
  | case3 => apply quoted_slash_gap spaces ends
  | case4 c cs => apply quoted_slash_gap spaces ends
  | case5 c cs inside text closed rest' eq ih =>
    rw [eq] at ih
    simp [quoted, inside, ih unclosed]
  | case6 c cs => apply quoted_gap spaces ends
  | case7 c cs quote slash slash' inside text closed rest' eq ih =>
    rw [eq] at ih
    have other := ne_backslash slash slash'
    simp [quoted, inside, other, ih unclosed]

end

/-! ### Numbers -/

section

variable {body rest : List Char}

theorem digits_of_whole (inside : ∀ c ∈ body, isDigit c = true)
    (stops : ∀ c ∈ rest.head?, isDigit c = false)
    (point : ∀ d more, rest = '.' :: d :: more → isDigit d = false) :
  digits (body ++ rest) = (body, rest)
  := by
  obtain ⟨taken, left⟩ := run_of_spec inside stops
  unfold digits
  rw [taken, left]
  dsimp only
  split
  · rw [if_neg (by simp [point _ _ rfl])]
  · rfl

theorem digits_of_fraction {fraction : List Char} {d : Char}
    (inside : ∀ c ∈ body, isDigit c = true) (digit : isDigit d = true)
    (inside' : ∀ c ∈ fraction, isDigit c = true) (stops : ∀ c ∈ rest.head?, isDigit c = false) :
  digits (body ++ '.' :: d :: (fraction ++ rest)) = (body ++ '.' :: d :: fraction, rest)
  := by
  have point : ∀ c ∈ ('.' :: d :: (fraction ++ rest)).head?, isDigit c = false := by
    rintro c ⟨⟩
    decide
  obtain ⟨taken, left⟩ := run_of_spec inside point
  obtain ⟨taken', left'⟩ := run_of_spec inside' stops
  simp [digits, taken, left, digit, taken', left']

/-- The digits of a number are a whole number that no fraction follows, or a whole number with a
fraction. -/
theorem digits_cases (scan : digits (body ++ rest) = (body, rest)) :
  ((∀ c ∈ body, isDigit c = true) ∧ (∀ c ∈ rest.head?, isDigit c = false)
      ∧ ∀ d more, rest = '.' :: d :: more → isDigit d = false)
    ∨ ∃ whole d fraction, body = whole ++ '.' :: d :: fraction ∧ (∀ c ∈ whole, isDigit c = true)
      ∧ isDigit d = true ∧ (∀ c ∈ fraction, isDigit c = true) ∧ ∀ c ∈ rest.head?, isDigit c = false
  := by
  have digits' : ∀ c ∈ (body ++ rest).takeWhile isDigit, isDigit c = true :=
    fun c => List.mem_takeWhile_imp
  unfold digits at scan
  split at scan
  · rename_i d more eq
    split at scan
    · rename_i digit
      obtain ⟨taken, left⟩ := Prod.mk.inj scan
      have fraction : (more.takeWhile isDigit ++ rest).dropWhile isDigit = rest := by
        rw [← left, List.takeWhile_append_dropWhile]
      obtain ⟨-, stops⟩ := run_spec fraction
      right
      exact ⟨_, d, _, taken.symm, digits', digit, fun c => List.mem_takeWhile_imp, stops⟩
    · rename_i other
      obtain ⟨taken, left⟩ := Prod.mk.inj scan
      left
      obtain ⟨inside, stops⟩ := run_spec (eq.trans left)
      refine ⟨inside, stops, ?_⟩
      rintro d' more' rfl
      obtain ⟨-, rfl, -⟩ : '.' = '.' ∧ d = d' ∧ more = more' := by simpa using left
      simpa using other
  · rename_i other
    obtain ⟨taken, left⟩ := Prod.mk.inj scan
    left
    obtain ⟨inside, stops⟩ := run_spec left
    refine ⟨inside, stops, ?_⟩
    intro d more eq
    apply absurd (left.trans eq) (other d more)

end

/-! ### Operators and marks -/

theorem mark_alone {c : Char} {rest : List Char} (alone : ∀ d ∈ rest.head?, pair? c d = none) :
  mark c rest = (⟨single c, [c]⟩, rest)
  := by
  rcases rest with _ | ⟨d, rest⟩
  · rfl
  · simp [mark, alone d rfl]

/-- A mark is a pair of characters, or it is alone before a character that makes no pair with it. -/
theorem mark_cases {c : Char} {body rest : List Char} {l : Lexeme}
    (scan : mark c (body ++ rest) = (l, rest)) :
  (∃ d kind, body = [d] ∧ pair? c d = some kind ∧ l = ⟨kind, [c, d]⟩)
    ∨ (body = [] ∧ l = ⟨single c, [c]⟩ ∧ ∀ d ∈ rest.head?, pair? c d = none)
  := by
  unfold mark at scan
  split at scan
  · rename_i empty
    obtain ⟨rfl, rfl⟩ := List.append_eq_nil_iff.mp empty
    obtain ⟨rfl, -⟩ := Prod.mk.inj scan
    right
    simp
  · rename_i d more eq
    split at scan
    · rename_i kind pair
      obtain ⟨rfl, rfl⟩ := Prod.mk.inj scan
      left
      exact ⟨d, kind, List.append_cancel_right eq, pair, rfl⟩
    · rename_i none
      obtain ⟨rfl, rfl⟩ := Prod.mk.inj scan
      right
      refine ⟨by simpa using eq, rfl, ?_⟩
      rintro _ ⟨⟩
      apply none

/-! ### The first lexeme before a blank -/

/-- A text that may take the place of another one behind a lexeme that takes no blank along. -/
structure Follows (rest rest' : List Char) : Prop where
  /-- What ends a run of characters still does, or a blank does. -/
  stops : ∀ p : Char → Bool, p ' ' = false → p '\t' = false →
    (∀ c ∈ rest.head?, p c = false) → ∀ c ∈ rest'.head?, p c = false
  /-- It starts with a point and a digit only if the other one does. -/
  point : ∀ d more, rest' = '.' :: d :: more → isDigit d = true →
    ∃ more', rest = '.' :: d :: more'

/-- A blank may be put anywhere into the text behind a lexeme. -/
theorem Follows.insert {blank : Char} (space : IsSpace blank) (xs ys : List Char) :
  Follows (xs ++ ys) (xs ++ blank :: ys)
  where
  stops p atSpace atTab stops := by
    rcases xs with _ | ⟨x, xs⟩
    · rintro c ⟨⟩
      rcases space with rfl | rfl
      · apply atSpace
      · apply atTab
    · apply stops
  point d more eq digit := by
    rcases xs with _ | ⟨x, _ | ⟨y, xs⟩⟩
    · obtain ⟨rfl, -⟩ := List.cons_eq_cons.mp eq
      rcases space with h | h <;> cases h
    · simp only [List.cons_append, List.nil_append, List.cons.injEq] at eq
      obtain ⟨-, rfl, -⟩ := eq
      rcases space with rfl | rfl <;> cases digit
    · simp only [List.cons_append, List.cons.injEq] at eq
      obtain ⟨rfl, rfl, -⟩ := eq
      exact ⟨_, rfl⟩

section

variable {c : Char} {body rest rest' : List Char} {l : Lexeme} (follows : Follows rest rest')

include follows

theorem lineEnd_of_follows (scan : lineEnd c (body ++ rest) = (l, rest)) :
  lineEnd c (body ++ rest') = (l, rest')
  := by
  unfold lineEnd at scan
  split at scan
  · rename_i tail eq
    obtain ⟨rfl, rfl⟩ := Prod.mk.inj scan
    obtain rfl : body = ['\n'] := List.append_cancel_right eq
    simp [lineEnd]
  · rename_i other
    obtain ⟨rfl, eq⟩ := Prod.mk.inj scan
    obtain rfl : body = [] := by simpa using eq
    unfold lineEnd
    split
    · rename_i tail eq'
      have feed : ∀ d ∈ rest.head?, (d == '\n') = false := by
        intro d found
        rcases rest with _ | ⟨e, rest⟩
        · cases found
        · obtain rfl : e = d := by simpa using found
          simp only [beq_eq_false_iff_ne]
          rintro rfl
          apply other rest rfl rfl
      have no := follows.stops (· == '\n') rfl rfl feed '\n'
      simp at eq'
      simp [eq'] at no
    · rfl

theorem word_of_follows (scan : word c (body ++ rest) = (l, rest)) :
  word c (body ++ rest') = (l, rest')
  := by
  obtain ⟨rfl, eq⟩ := Prod.mk.inj scan
  obtain ⟨inside, stops⟩ := run_spec eq
  obtain ⟨taken, -⟩ := run_of_spec inside stops
  obtain ⟨taken', left⟩ := run_of_spec inside
    (follows.stops continuesWord (by decide) (by decide) stops)
  simp [word, taken, taken', left]

theorem digits_of_follows (scan : digits (body ++ rest) = (body, rest)) :
  digits (body ++ rest') = (body, rest')
  := by
  have stops' := follows.stops isDigit (by decide) (by decide)
  rcases digits_cases scan with ⟨inside, stops, point⟩ | ⟨whole, d, fraction, rfl, inside, digit,
    inside', stops⟩
  · apply digits_of_whole inside (stops' stops)
    intro d more eq
    cases digit : isDigit d with
    | false => rfl
    | true =>
      obtain ⟨more', eq'⟩ := follows.point d more eq digit
      rw [point d more' eq'] at digit
      cases digit
  · simpa using digits_of_fraction inside digit inside' (stops' stops)

theorem mark_of_follows (scan : mark c (body ++ rest) = (l, rest)) :
  mark c (body ++ rest') = (l, rest')
  := by
  rcases mark_cases scan with ⟨d, kind, rfl, pair, rfl⟩ | ⟨rfl, rfl, alone⟩
  · simp [mark, pair]
  · apply mark_alone
    have stops := follows.stops (fun d => (pair? c d).isSome) (by simp [pair?]) (by simp [pair?])
    simpa using stops (by simpa using alone)

end

/-- A lexeme that may take blanks along stays the same before a text that is empty or starts in the same
way. -/
theorem run_of_head {kind : Kind} {before body rest rest' : List Char} {p : Char → Bool} {l : Lexeme}
    (scan : run kind before p (body ++ rest) = (l, rest)) (head : ∀ c ∈ rest'.head?, c ∈ rest.head?) :
  run kind before p (body ++ rest') = (l, rest')
  := by
  obtain ⟨rfl, left⟩ := Prod.mk.inj scan
  obtain ⟨inside, stops⟩ := run_spec left
  obtain ⟨taken, -⟩ := run_of_spec inside stops
  obtain ⟨taken', left'⟩ := run_of_spec inside fun c found => stops c (head c found)
  simp [run, taken, taken', left']

theorem string_of_head {body rest rest' : List Char} {l : Lexeme}
    (scan : string (body ++ rest) = (l, rest))
    (head : l.kind.isHidden = true → ∀ c ∈ rest'.head?, c ∈ rest.head?) :
  string (body ++ rest') = (l, rest')
  := by
  obtain ⟨rfl, left⟩ := Prod.mk.inj scan
  obtain ⟨text, stops⟩ := quoted_spec left
  cases closed : (quoted (body ++ rest)).2.1 with
  | true =>
    have same := quoted_of_closed closed rest'
    rw [text] at same
    simp [string, same, text]
  | false =>
    have kept := head (by simp [closed, Kind.isHidden])
    have same := quoted_of_unclosed closed [] (by simp) fun c found => stops closed c (kept c found)
    rw [text, List.nil_append, List.append_nil] at same
    simp [string, same, text]

/-! ### Ways to find a lexeme -/

/-- The ways in which the first lexeme of a text is found. -/
inductive Scanner where
  | lineEnd | blanks | comment | string | number | word | mark

/-- Blanks inside a line. -/
def isGap (c : Char) : Bool :=
  Text.isBlank c && !endsLine c

/-- The way in which a lexeme that starts with `c` is found. -/
def scanner (c : Char) (next : Option Char) : Scanner :=
  if endsLine c then .lineEnd
  else if Text.isBlank c then .blanks
  else if c == '#' then .comment
  else if c == '/' && next == some '/' then .comment
  else if c == '"' then .string
  else if isDigit c then .number
  else if startsWord c then .word
  else .mark

/-- Finds a lexeme in one of the ways. -/
def Scanner.scan (c : Char) (cs : List Char) : Scanner → Lexeme × List Char
  | .lineEnd => Lexeme.lineEnd c cs
  | .blanks => run .whitespace [c] isGap cs
  | .comment => run .comment [c] (fun d => !endsLine d) cs
  | .string => Lexeme.string cs
  | .number => (⟨.number, c :: (digits cs).1⟩, (digits cs).2)
  | .word => Lexeme.word c cs
  | .mark => Lexeme.mark c cs

theorem first_eq_scan (c : Char) (cs : List Char) :
  first c cs = (scanner c cs.head?).scan c cs
  := by
  unfold first scanner
  split
  · rfl
  split
  · rfl
  split
  · rfl
  split
  · rfl
  split
  · rfl
  split
  · rfl
  split
  · rfl
  · rfl

/-- A text is its first lexeme, which starts with its first character, and the rest. -/
theorem first_divides (c : Char) (cs : List Char) :
  ∃ body l rest, cs = body ++ rest ∧ first c (body ++ rest) = (l, rest) ∧ l.text = c :: body
  := by
  have whole := first_append c cs
  rcases text : (first c cs).1.text with _ | ⟨d, body⟩
  · apply absurd text (first_text_ne_nil c cs)
  · rw [text] at whole
    obtain ⟨rfl, eq⟩ := List.cons_eq_cons.mp whole
    exact ⟨body, (first d cs).1, (first d cs).2, eq.symm, congrArg (first d) eq, text⟩

/-- The way in which a lexeme is found does not depend on a text that may take the place of the one
behind the lexeme. -/
theorem scanner_of_follows {c : Char} {body rest rest' : List Char} {l : Lexeme}
    (scan : first c (body ++ rest) = (l, rest)) (follows : Follows rest rest') :
  scanner c (body ++ rest').head? = scanner c (body ++ rest).head?
  := by
  rcases body with _ | ⟨d, body⟩
  · have slash : c = '/' → rest.head? ≠ some '/' := by
      -- two strokes start a comment, which is longer than its first stroke
      rintro rfl found
      have comment : scanner '/' rest.head? = .comment := by
        rw [found]
        rfl
      rw [List.nil_append, first_eq_scan, comment] at scan
      have whole : ([] ++ rest).dropWhile (fun d => !endsLine d) = rest := (Prod.mk.inj scan).2
      have stops := (run_spec whole).2 '/' found
      cases stops
    have slash' : c = '/' → rest'.head? ≠ some '/' := by
      intro stroke found
      have other : ∀ d ∈ rest.head?, (d == '/') = false := by
        intro d found
        apply beq_false_of_ne
        rintro rfl
        apply slash stroke found
      have stops := follows.stops (· == '/') rfl rfl other '/' found
      cases stops
    have same : (c == '/' && rest'.head? == some '/') = (c == '/' && rest.head? == some '/') := by
      by_cases stroke : c = '/'
      · rw [beq_false_of_ne (slash stroke), beq_false_of_ne (slash' stroke)]
      · rw [beq_false_of_ne stroke]
        rfl
    simp only [scanner, List.nil_append, same]
  · rfl

/-- The first lexeme of a text stays the same when what follows it is replaced. -/
theorem first_of_follows {c : Char} {body rest rest' : List Char} {l : Lexeme}
    (scan : first c (body ++ rest) = (l, rest)) (follows : Follows rest rest')
    (head : l.kind.isHidden = true → ∀ c ∈ rest'.head?, c ∈ rest.head?) :
  first c (body ++ rest') = (l, rest')
  := by
  have same := scanner_of_follows scan follows
  rw [first_eq_scan] at scan ⊢
  rw [same]
  generalize scanner c (body ++ rest).head? = scanner at scan
  cases scanner with
  | lineEnd => apply lineEnd_of_follows follows scan
  | blanks | comment =>
    apply run_of_head scan (head _)
    rw [← (Prod.mk.inj scan).1]
    rfl
  | string => apply string_of_head scan head
  | number =>
    obtain ⟨rfl, left⟩ := Prod.mk.inj scan
    have whole := digits_append (body ++ rest)
    rw [left] at whole
    have text : (digits (body ++ rest)).1 = body := List.append_cancel_right whole
    simp [Scanner.scan, digits_of_follows follows (Prod.ext text left), text]
  | word => apply word_of_follows follows scan
  | mark => apply mark_of_follows follows scan

/-! ### Hidden lexemes before a blank -/

theorem significant_split_gap {c : Char} (gap : isGap c = true) (cs : List Char) :
  significant (split (c :: cs)) = significant (split (cs.dropWhile isGap))
  := by
  have blanks : scanner c cs.head? = .blanks := by
    simp only [isGap, Bool.and_eq_true, Bool.not_eq_true'] at gap
    simp [scanner, gap]
  rw [split, first_eq_scan, blanks]
  apply significant_of_hidden rfl

theorem significant_dropWhile_isGap (cs : List Char) :
  significant (split (cs.dropWhile isGap)) = significant (split cs)
  := by
  rcases cs with _ | ⟨c, cs⟩
  · rfl
  · cases gap : isGap c with
    | true => rw [List.dropWhile_cons_of_pos gap, significant_split_gap gap]
    | false => rw [List.dropWhile_cons_of_neg (by simp [gap])]

section

variable {blank : Char} (space : IsSpace blank)

include space

/-- A blank at the start of a text is hidden. -/
theorem significant_split_space (cs : List Char) :
  significant (split (blank :: cs)) = significant (split cs)
  := by
  have gap : isGap blank = true := by
    rcases space with rfl | rfl
    · decide
    · decide
  rw [significant_split_gap gap, significant_dropWhile_isGap]

/-- A run that blanks belong to takes a blank behind it along. -/
theorem run_insert {kind : Kind} {before body rest : List Char} {p : Char → Bool} {l : Lexeme}
    (scan : run kind before p (body ++ rest) = (l, rest)) (atSpace : p ' ' = true)
    (atTab : p '\t' = true) :
  (run kind before p (body ++ blank :: rest)).2 = rest
  := by
  obtain ⟨inside, stops⟩ := run_spec (Prod.mk.inj scan).2
  have inside' : ∀ c ∈ body ++ [blank], p c = true := by
    intro c member
    rcases List.mem_append.mp member with member | member
    · apply inside c member
    · obtain rfl := List.mem_singleton.mp member
      rcases space with rfl | rfl
      · apply atSpace
      · apply atTab
  have whole := (run_of_spec inside' stops).2
  rwa [List.append_assoc] at whole

theorem string_insert {body rest : List Char} {l : Lexeme}
    (scan : string (body ++ rest) = (l, rest)) (hidden : l.kind.isHidden = true) :
  (string (body ++ blank :: rest)).1.kind.isHidden = true
    ∧ (string (body ++ blank :: rest)).2 = rest
  := by
  obtain ⟨rfl, left⟩ := Prod.mk.inj scan
  obtain ⟨text, stops⟩ := quoted_spec left
  have unclosed : (quoted (body ++ rest)).2.1 = false := by
    cases closed : (quoted (body ++ rest)).2.1 with
    | false => rfl
    | true => simp [closed, Kind.isHidden] at hidden
  have longer := quoted_of_unclosed unclosed [blank] (by simpa using space)
    (stops unclosed)
  rw [text, List.singleton_append] at longer
  simp [string, longer, Kind.isHidden]

/-- A hidden lexeme takes a blank behind it along, or leaves it to the text that follows. -/
theorem first_hidden_insert {c : Char} {body rest : List Char} {l : Lexeme}
    (scan : first c (body ++ rest) = (l, rest)) (hidden : l.kind.isHidden = true) :
  (first c (body ++ blank :: rest)).1.kind.isHidden = true
    ∧ ((first c (body ++ blank :: rest)).2 = rest
      ∨ (first c (body ++ blank :: rest)).2 = blank :: rest)
  := by
  have follows : Follows rest (blank :: rest) := .insert space [] rest
  have same := scanner_of_follows scan follows
  rw [first_eq_scan] at scan ⊢
  rw [same]
  generalize scanner c (body ++ rest).head? = scanner at scan
  cases scanner with
  | lineEnd =>
    have kept := lineEnd_of_follows follows scan
    rw [Scanner.scan, kept]
    exact ⟨hidden, .inr rfl⟩
  | blanks | comment => exact ⟨rfl, .inl (run_insert space scan (by decide) (by decide))⟩
  | string =>
    obtain ⟨hidden', left⟩ := string_insert space scan hidden
    exact ⟨hidden', .inl left⟩
  | number =>
    obtain ⟨rfl, -⟩ := Prod.mk.inj scan
    cases hidden
  | word =>
    have kept := word_of_follows follows scan
    rw [Scanner.scan, kept]
    exact ⟨hidden, .inr rfl⟩
  | mark =>
    have kept := mark_of_follows follows scan
    rw [Scanner.scan, kept]
    exact ⟨hidden, .inr rfl⟩

/-- A blank between two lexemes, or at either end of a text, leaves the significant lexemes as they
are. -/
theorem significant_insert {cs : List Char} {ls ls' : List Lexeme} (divided : split cs = ls ++ ls') :
  significant (split (ls.flatMap text ++ blank :: ls'.flatMap text)) = significant (split cs)
  := by
  induction ls generalizing cs with
  | nil =>
    have whole := flatMap_text_split cs
    rw [divided] at whole
    rw [← whole]
    apply significant_split_space space
  | cons l ls ih =>
    rcases cs with _ | ⟨c, cs⟩
    · simp [split] at divided
    obtain ⟨body, l', rest, rfl, scan, start⟩ := first_divides c cs
    rw [split, scan] at divided
    obtain ⟨rfl, later⟩ : l' = l ∧ split rest = ls ++ ls' := by simpa using divided
    have whole : rest = ls.flatMap text ++ ls'.flatMap text := by
      rw [← List.flatMap_append, ← later, flatMap_text_split]
    have longer : (l' :: ls).flatMap text ++ blank :: ls'.flatMap text
        = c :: (body ++ (ls.flatMap text ++ blank :: ls'.flatMap text)) := by
      simp [start]
    rw [longer, split, split, scan]
    by_cases before : l'.kind.isHidden = true ∧ ls = []
    · obtain ⟨hidden, rfl⟩ := before
      obtain rfl : rest = ls'.flatMap text := whole
      obtain ⟨hidden', left | left⟩ := first_hidden_insert space scan hidden
      · simp only [List.flatMap_nil, List.nil_append, left, significant_of_hidden hidden',
          significant_of_hidden hidden]
      · simp only [List.flatMap_nil, List.nil_append, left, significant_of_hidden hidden',
          significant_of_hidden hidden, significant_split_space space]
    · have follows : Follows rest (ls.flatMap text ++ blank :: ls'.flatMap text) := by
        rw [whole]
        apply Follows.insert space
      have head : l'.kind.isHidden = true →
          ∀ c ∈ (ls.flatMap text ++ blank :: ls'.flatMap text).head?, c ∈ rest.head? := by
        intro hidden
        rcases ls with _ | ⟨l, ls⟩
        · apply absurd ⟨hidden, rfl⟩ before
        · have member : l ∈ split rest := by simp [later]
          obtain ⟨_, cut⟩ := cut_of_mem_split member
          obtain ⟨d, ds, starts⟩ := List.exists_cons_of_ne_nil cut.text_ne_nil
          simp [whole, starts]
      have kept := first_of_follows scan follows head
      rw [kept]
      simp only [significant, List.filter_cons] at ih ⊢
      rw [ih later]

end

end PlanetServer.Lexeme
