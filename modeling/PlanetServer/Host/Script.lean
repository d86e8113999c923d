/-!
# Shell scripts

The scripts that build commands use: simple commands with quoting, parameters and redirections, joined
by `;`, `&&`, `||`, `|` and line ends.

`Script.parse` turns the text of a script into the commands to be run.
-/

namespace PlanetServer.Host

/-- A part of a word. -/
inductive Part where
  /-- Text that stands for itself. -/
  | text (cs : List Char)
  /-- A parameter, and whether it stands between double quotes. -/
  | parameter (name : String) (isQuoted : Bool)
deriving DecidableEq, Repr

/-- A word of a script, before its parameters are replaced. -/
abbrev ScriptWord := List Part

/-- Where a redirection leads. -/
inductive Redirection where
  /-- One stream goes where another one goes. -/
  | duplicate (stream target : Nat)
  /-- A stream goes to a file. -/
  | write (stream : Nat) (isAppending : Bool) (target : ScriptWord)
  /-- The input comes from a file. -/
  | read (source : ScriptWord)
deriving DecidableEq, Repr

/-- When a command is run, by the outcome of what came before. -/
inductive Condition where
  | always | onSuccess | onFailure
deriving DecidableEq, Repr

/-- A simple command. -/
structure SimpleCommand where
  /-- Its words. -/
  words : List ScriptWord
  /-- Its redirections, in order. -/
  redirections : List Redirection
deriving DecidableEq, Repr

/-- Commands joined by pipes, and when they are run. -/
structure Pipeline where
  /-- When they are run. -/
  condition : Condition
  /-- The commands, each reading what the one before wrote. -/
  commands : List SimpleCommand
deriving DecidableEq, Repr

namespace Script

/-- A token of a script. -/
inductive Symbol where
  /-- A word. -/
  | word (parts : ScriptWord)
  /-- The end of a command. -/
  | stop
  /-- `&&`. -/
  | andThen
  /-- `||`. -/
  | orElse
  /-- `|`. -/
  | pipe
  /-- A redirection between streams. -/
  | duplicate (stream target : Nat)
  /-- A redirection to a file, which the next word names. -/
  | writeTo (stream : Nat) (isAppending : Bool)
  /-- A redirection from a file, which the next word names. -/
  | readFrom
deriving DecidableEq, Repr

/-- Whether a character may stand in the name of a variable. -/
def isNameChar (c : Char) : Bool :=
  ('a' ≤ c && c ≤ 'z') || ('A' ≤ c && c ≤ 'Z') || ('0' ≤ c && c ≤ '9') || c == '_'

/-- Whether a character is a parameter of its own. -/
def isSpecial (c : Char) : Bool :=
  "$*@#?!-0123456789".toList.contains c

/-- The parameter after a dollar sign and what follows it, none if there is no parameter. -/
def parameter? : List Char → Option (String × List Char)
  | '\x7b' :: cs =>
    match cs.dropWhile (· ≠ '\x7d') with
    | _ :: rest => some (String.ofList (cs.takeWhile (· ≠ '\x7d')), rest)
    | [] => none
  | c :: cs =>
    if isSpecial c then some (String.singleton c, cs)
    else if isNameChar c then
      some (String.ofList (c :: cs.takeWhile isNameChar), cs.dropWhile isNameChar)
    else none
  | [] => none

/-- A part in front of a word, joined with text that follows it. -/
def addPart (part : Part) (word : ScriptWord) : ScriptWord :=
  match part, word with
  | .text a, .text b :: rest => .text (a ++ b) :: rest
  | part, rest => part :: rest

/-- The parts between double quotes, and what follows the closing one. -/
def quotedParts : Nat → List Char → ScriptWord × List Char
  | 0, cs => ([], cs)
  | fuel + 1, cs =>
    match cs with
    | [] => ([], [])
    | '"' :: rest => ([.text []], rest)
    | '\\' :: '\n' :: rest => quotedParts fuel rest
    | '\\' :: c :: rest =>
      let (parts, after) := quotedParts fuel rest
      let kept := if "$\x60\"\\".toList.contains c then [c] else ['\\', c]
      (addPart (.text kept) parts, after)
    | '$' :: rest =>
      match parameter? rest with
      | some (name, rest) =>
        let (parts, after) := quotedParts fuel rest
        (addPart (.text []) (.parameter name true :: parts), after)
      | none =>
        let (parts, after) := quotedParts fuel rest
        (addPart (.text ['$']) parts, after)
    | c :: rest =>
      let (parts, after) := quotedParts fuel rest
      (addPart (.text [c]) parts, after)

/-- Whether a character ends a word. -/
def endsWord (c : Char) : Bool :=
  " \t\n;&|<>()".toList.contains c

/-- The parts of a word, and what follows it. -/
def wordParts : Nat → List Char → ScriptWord × List Char
  | 0, cs => ([], cs)
  | fuel + 1, cs =>
    match cs with
    | [] => ([], [])
    | '\'' :: rest =>
      let (parts, after) := wordParts fuel ((rest.dropWhile (· ≠ '\'')).drop 1)
      (addPart (.text (rest.takeWhile (· ≠ '\''))) parts, after)
    | '"' :: rest =>
      let (inner, rest) := quotedParts fuel rest
      let (parts, after) := wordParts fuel rest
      (inner.foldr addPart parts, after)
    | '\\' :: '\n' :: rest => wordParts fuel rest
    | '\\' :: c :: rest =>
      let (parts, after) := wordParts fuel rest
      (addPart (.text [c]) parts, after)
    | '$' :: rest =>
      match parameter? rest with
      | some (name, rest) =>
        let (parts, after) := wordParts fuel rest
        (addPart (.parameter name false) parts, after)
      | none =>
        let (parts, after) := wordParts fuel rest
        (addPart (.text ['$']) parts, after)
    | c :: rest =>
      if endsWord c then ([], c :: rest)
      else
        let (parts, after) := wordParts fuel rest
        (addPart (.text [c]) parts, after)

/-- The number of a stream by its digit. -/
def stream (c : Char) : Nat :=
  c.toNat - '0'.toNat

/-- A redirection of a stream after its arrow, and what follows. -/
def arrow (stream : Nat) : List Char → Symbol × List Char
  | '>' :: rest => (.writeTo stream true, rest)
  | '&' :: '1' :: rest => (.duplicate stream 1, rest)
  | '&' :: '2' :: rest => (.duplicate stream 2, rest)
  | rest => (.writeTo stream false, rest)

/-- The tokens of a script. -/
def symbols : Nat → List Char → List Symbol
  | 0, _ => []
  | fuel + 1, cs =>
    match cs with
    | [] => []
    | ' ' :: rest | '\t' :: rest => symbols fuel rest
    | '\\' :: '\n' :: rest => symbols fuel rest
    | '#' :: rest => symbols fuel (rest.dropWhile (· ≠ '\n'))
    | '\n' :: rest | ';' :: rest => .stop :: symbols fuel rest
    | '&' :: '&' :: rest => .andThen :: symbols fuel rest
    | '&' :: rest => .stop :: symbols fuel rest
    | '|' :: '|' :: rest => .orElse :: symbols fuel rest
    | '|' :: rest => .pipe :: symbols fuel rest
    | '<' :: rest => .readFrom :: symbols fuel rest
    | '1' :: '>' :: rest => let (s, rest) := arrow 1 rest; s :: symbols fuel rest
    | '2' :: '>' :: rest => let (s, rest) := arrow 2 rest; s :: symbols fuel rest
    | '>' :: rest => let (s, rest) := arrow 1 rest; s :: symbols fuel rest
    | c :: rest =>
      if endsWord c then symbols fuel rest
      else
        let (parts, rest) := wordParts (cs.length + 1) cs
        .word parts :: symbols fuel rest

theorem length_dropWhile_lt (p : Symbol → Bool) (symbol : Symbol) (rest : List Symbol) :
  (rest.dropWhile p).length < (symbol :: rest).length
  := Nat.lt_succ_of_le (List.dropWhile_sublist p).length_le

/-- The commands of a sequence of tokens, the first of which is run under a condition. -/
def pipelines : (condition : Condition) → (before : List SimpleCommand) →
    (current : SimpleCommand) → List Symbol → List Pipeline
  | condition, before, current, [] => [⟨condition, before ++ [current]⟩]
  | condition, before, current, .stop :: rest =>
    ⟨condition, before ++ [current]⟩ :: pipelines .always [] ⟨[], []⟩ rest
  | condition, before, current, .andThen :: rest =>
    ⟨condition, before ++ [current]⟩ :: pipelines .onSuccess [] ⟨[], []⟩ (rest.dropWhile (· = .stop))
  | condition, before, current, .orElse :: rest =>
    ⟨condition, before ++ [current]⟩ :: pipelines .onFailure [] ⟨[], []⟩ (rest.dropWhile (· = .stop))
  | condition, before, current, .pipe :: rest =>
    pipelines condition (before ++ [current]) ⟨[], []⟩ (rest.dropWhile (· = .stop))
  | condition, before, current, .word word :: rest =>
    pipelines condition before ⟨current.words ++ [word], current.redirections⟩ rest
  | condition, before, current, .duplicate stream target :: rest =>
    pipelines condition before
      ⟨current.words, current.redirections ++ [.duplicate stream target]⟩ rest
  | condition, before, current, .writeTo stream isAppending :: .word word :: rest =>
    pipelines condition before
      ⟨current.words, current.redirections ++ [.write stream isAppending word]⟩ rest
  | condition, before, current, .readFrom :: .word word :: rest =>
    pipelines condition before ⟨current.words, current.redirections ++ [.read word]⟩ rest
  | condition, before, current, .writeTo _ _ :: rest
  | condition, before, current, .readFrom :: rest => pipelines condition before current rest
termination_by _ _ _ symbols => symbols.length
decreasing_by
  all_goals first | exact length_dropWhile_lt _ _ _ | (simp only [List.length_cons]; omega)

/-- The commands of a script; an empty one does nothing. -/
def parse (cs : List Char) : List Pipeline :=
  (pipelines .always [] ⟨[], []⟩ (symbols (cs.length + 1) cs)).filter fun p =>
    p.commands.any fun c => !c.words.isEmpty || !c.redirections.isEmpty

end Script

end PlanetServer.Host
