import PlanetServer.Text.Alphabetic
import PlanetServer.Text.Basic
import PlanetServer.Text.Numeric
import PlanetServer.Token.Basic

/-!
# Lexemes

The division of a document into lexemes, and their places.

* `Lexeme.first` takes the first lexeme off a text that is not empty.
* `Lexeme.split` divides a whole text, and `Stream.ofText` places its lexemes as tokens.

Nothing is left out: what is not a token of the language becomes a lexeme of the hidden kind
`unknown`, so the texts of the lexemes join to the text they came from.
-/

namespace PlanetServer

/-- A piece of text and what it is. -/
structure Lexeme where
  /-- What the piece is. -/
  kind : Kind
  /-- The characters of the piece. -/
  text : List Char
deriving DecidableEq, Repr

namespace Lexeme

/-- Whether a character ends a line. -/
def endsLine (c : Char) : Bool :=
  c == '\n' || c == '\r'

/-- Whether a character is one of the digits `0` to `9`. -/
def isDigit (c : Char) : Bool :=
  '0' ≤ c && c ≤ '9'

/-- Whether a word may start with a character. -/
def startsWord (c : Char) : Bool :=
  c == '_' || Text.isAlphabetic c

/-- Whether a word may go on with a character. -/
def continuesWord (c : Char) : Bool :=
  startsWord c || Text.isNumeric c

/-- Divides a text in two, the first part being the longest run of characters with a property
at its start, and puts what was read before in front of that run. -/
def run (kind : Kind) (before : List Char) (p : Char → Bool) (cs : List Char) :
    Lexeme × List Char :=
  (⟨kind, before ++ cs.takeWhile p⟩, cs.dropWhile p)

/-- The part of a quoted string after its opening quote: its characters, whether the closing
quote was found on the line, and what follows. A backslash takes the next character of the
line along. -/
def quoted : List Char → List Char × Bool × List Char
  | [] => ([], false, [])
  | '"' :: cs => (['"'], true, cs)
  | ['\\'] => (['\\'], false, [])
  | '\\' :: c :: cs =>
    if endsLine c then (['\\'], false, c :: cs)
    else
      let (text, closed, rest) := quoted cs
      ('\\' :: c :: text, closed, rest)
  | c :: cs =>
    if endsLine c then ([], false, c :: cs)
    else
      let (text, closed, rest) := quoted cs
      (c :: text, closed, rest)

/-- The digits of a number after its first one: a point belongs to the number only if a digit
follows it. -/
def digits (cs : List Char) : List Char × List Char :=
  let whole := cs.takeWhile isDigit
  match cs.dropWhile isDigit with
  | '.' :: d :: rest =>
    if isDigit d then (whole ++ '.' :: d :: rest.takeWhile isDigit, rest.dropWhile isDigit)
    else (whole, '.' :: d :: rest)
  | rest => (whole, rest)

/-- The operators and marks that are two characters long. -/
def pair? : Char → Char → Option Kind
  | '=', '=' => some .equal
  | '!', '=' => some .notEqual
  | '<', '=' => some .lessEqual
  | '>', '=' => some .greaterEqual
  | '&', '&' => some .and
  | '|', '|' => some .or
  | _, _ => none

/-- The operators and marks that are one character long, and `unknown` for every other
character. -/
def single : Char → Kind
  | '=' => .assign
  | '!' => .bang
  | '<' => .less
  | '>' => .greater
  | ';' => .semicolon
  | '(' => .leftParen
  | ')' => .rightParen
  | '\x7b' => .leftBrace
  | '\x7d' => .rightBrace
  | ',' => .comma
  | '.' => .dot
  | '+' => .plus
  | '-' => .minus
  | '*' => .star
  | '/' => .slash
  | '%' => .percent
  | _ => .unknown

/-- An operator, a mark, or a single unknown character. -/
def mark (c : Char) : List Char → Lexeme × List Char
  | [] => (⟨single c, [c]⟩, [])
  | d :: cs =>
    match pair? c d with
    | some kind => (⟨kind, [c, d]⟩, cs)
    | none => (⟨single c, [c]⟩, d :: cs)

/-- The end of a line that starts with `c`: a carriage return takes a line feed along. -/
def lineEnd (c : Char) (cs : List Char) : Lexeme × List Char :=
  match c, cs with
  | '\r', '\n' :: rest => (⟨.newline, ['\r', '\n']⟩, rest)
  | c, cs => (⟨.newline, [c]⟩, cs)

/-- A word that starts with `c`: a keyword or an identifier. -/
def word (c : Char) (cs : List Char) : Lexeme × List Char :=
  let text := c :: cs.takeWhile continuesWord
  (⟨(Kind.keyword? (String.ofList text)).getD .identifier, text⟩, cs.dropWhile continuesWord)

/-- A quoted string after its opening quote; without a closing quote on its line it is
unknown. -/
def string (cs : List Char) : Lexeme × List Char :=
  let (text, closed, rest) := quoted cs
  (⟨if closed then .string else .unknown, '"' :: text⟩, rest)

/-- The first lexeme of the text that starts with `c` and goes on with `cs`, and what follows
it. -/
def first (c : Char) (cs : List Char) : Lexeme × List Char :=
  if endsLine c then lineEnd c cs
  else if Text.isBlank c then run .whitespace [c] (fun d => Text.isBlank d && !endsLine d) cs
  else if c == '#' then run .comment [c] (fun d => !endsLine d) cs
  else if c == '/' && cs.head? == some '/' then run .comment [c] (fun d => !endsLine d) cs
  else if c == '"' then string cs
  else if isDigit c then
    let (text, rest) := digits cs
    (⟨.number, c :: text⟩, rest)
  else if startsWord c then word c cs
  else mark c cs

/-! ### The first lexeme and the rest make up the text -/

theorem quoted_append (cs : List Char) :
  (quoted cs).1 ++ (quoted cs).2.2 = cs
  := by
  fun_induction quoted cs <;> simp_all

theorem digits_append (cs : List Char) :
  (digits cs).1 ++ (digits cs).2 = cs
  := by
  have whole := List.takeWhile_append_dropWhile (p := isDigit) (l := cs)
  unfold digits
  split
  · rename_i d rest h
    rw [h] at whole
    split
    · simpa using whole
    · exact whole
  · exact whole

theorem mark_append (c : Char) (cs : List Char) :
  (mark c cs).1.text ++ (mark c cs).2 = c :: cs
  := by
  unfold mark
  split
  · rfl
  · split <;> rfl

theorem lineEnd_append (c : Char) (cs : List Char) :
  (lineEnd c cs).1.text ++ (lineEnd c cs).2 = c :: cs
  := by
  unfold lineEnd
  split <;> rfl

/-- A lexeme and what follows it make up the text it was taken from. -/
theorem first_append (c : Char) (cs : List Char) :
  (first c cs).1.text ++ (first c cs).2 = c :: cs
  := by
  unfold first
  split
  · apply lineEnd_append
  split
  · simp [run]
  split
  · simp [run]
  split
  · simp [run]
  split
  · rename_i quote
    simp only [beq_iff_eq] at quote
    simp [string, quoted_append, quote]
  split
  · simp [digits_append]
  split
  · simp [word]
  · apply mark_append

/-- A lexeme is not empty. -/
theorem first_text_ne_nil (c : Char) (cs : List Char) :
  (first c cs).1.text ≠ []
  := by
  unfold first
  split
  · unfold lineEnd
    split <;> simp
  repeat (split; · simp [run, string])
  split
  · simp [word]
  · unfold mark
    split
    · simp
    · split <;> simp

/-- What follows the first lexeme is shorter than the text. -/
theorem first_rest_lt (c : Char) (cs : List Char) :
  (first c cs).2.length < (c :: cs).length
  := by
  have lengths := congrArg List.length (first_append c cs)
  have positive := List.length_pos_iff.mpr (first_text_ne_nil c cs)
  simp only [List.length_append] at lengths
  omega

/-! ### Whole texts -/

/-- The lexemes of a text, in order. -/
def split : List Char → List Lexeme
  | [] => []
  | c :: cs => (first c cs).1 :: split (first c cs).2
termination_by cs => cs.length
decreasing_by exact first_rest_lt c cs

/-- The place just past a lexeme that starts at a given place. -/
def finish (l : Lexeme) (start : Mark) : Mark :=
  if l.kind = .newline then ⟨start.line + 1, 0⟩ else ⟨start.line, start.column + Text.units l.text⟩

/-- The lexemes as tokens, the first of which has the given index and place, and the place just
past the last of them. -/
def place : Nat → Mark → List Lexeme → Stream
  | _, start, [] => ⟨[], start⟩
  | index, start, l :: ls =>
    let rest := place (index + 1) (l.finish start) ls
    ⟨⟨l.kind, String.ofList l.text, index, start⟩ :: rest.tokens, rest.finish⟩

end Lexeme

/-- The token stream of a document. -/
def Stream.ofText (source : String) : Stream :=
  Lexeme.place 0 .start (Lexeme.split source.toList)

end PlanetServer
