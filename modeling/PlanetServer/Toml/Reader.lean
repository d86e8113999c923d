import PlanetServer.Toml.Document
import PlanetServer.Toml.Text

/-!
# Reading TOML

A document is a sequence of lines: headers, keys with their values, and blank ones. Lists and tables
in braces may go over several lines and end with a comma. They may be nested up to a limit, and a key
may have so many steps.
-/

namespace PlanetServer.Toml

/-- How deeply lists and tables in braces may be nested, and how many steps a key may have. -/
def maxLevels : Nat :=
  80

/-- What follows a comment, if there is one; a control in it is a fault. -/
def afterComment? : List Char → Option (List Char)
  | '#' :: cs =>
    let rest := cs.dropWhile isPlain
    match rest with
    | [] => some []
    | c :: cs => if (afterNewline? (c :: cs)).isSome then some rest else none
  | cs => some cs

/-- What follows gaps, comments and ends of lines. -/
def afterBlank? : Nat → List Char → Option (List Char)
  | 0, _ => none
  | fuel + 1, cs => do
    let cs ← afterComment? (cs.dropWhile isGap)
    match afterNewline? cs with
    | some rest => afterBlank? fuel rest
    | none => some cs

/-- What follows gaps, comments and ends of lines. -/
def skipBlank? (cs : List Char) : Option (List Char) :=
  afterBlank? (cs.length + 1) cs

/-- Whether a character may stand in a key without quotes. -/
def isBare (c : Char) : Bool :=
  isDigit c || ('a' ≤ c && c ≤ 'z') || ('A' ≤ c && c ≤ 'Z') || c == '_' || c == '-'

/-- One step of a key, and what follows it. -/
def step? (cs : List Char) : Option (String × List Char) :=
  match cs.takeWhile isBare with
  | [] => lineText? cs
  | bare => some (String.ofList bare, cs.dropWhile isBare)

/-- The steps of a key, divided by dots, and what follows it. -/
def steps? : Nat → List Char → Option (List String × List Char)
  | 0, _ => none
  | fuel + 1, cs => do
    let (step, rest) ← step? (cs.dropWhile isGap)
    match rest.dropWhile isGap with
    | '.' :: rest =>
      let (steps, rest) ← steps? fuel rest
      return (step :: steps, rest)
    | rest => return ([step], rest)

/-- A key: its steps before the last one, the last one, and what follows. -/
def key? (cs : List Char) : Option (List String × String × List Char) := do
  let (steps, rest) ← steps? (cs.length + 1) cs
  let last ← steps.getLast?
  if maxLevels < steps.length then none else return (steps.dropLast, last, rest)

/-- Whether a character may stand in a scalar. -/
def isScalarChar (c : Char) : Bool :=
  isBare c || c == '+' || c == '.' || c == ':'

/-- A scalar, and what follows it. A space may divide a date from a time. -/
def scalarValue? (cs : List Char) : Option (Item × List Char) :=
  let word := cs.takeWhile isScalarChar
  let rest := cs.dropWhile isScalarChar
  match afterDate? word, rest with
  | some [], ' ' :: c :: more =>
    if isDigit c then
      let time := (c :: more).takeWhile isScalarChar
      (scalar? (word ++ ' ' :: time)).map fun item => (item, (c :: more).dropWhile isScalarChar)
    else (scalar? word).map fun item => (item, rest)
  | _, _ => (scalar? word).map fun item => (item, rest)

/-- The items of a list after its opening bracket, each read by a rule, and what follows the
closing one. -/
def items? (value : List Char → Option (Item × List Char)) :
    Nat → List Char → Option (List Item × List Char)
  | 0, _ => none
  | fuel + 1, cs => do
    match ← skipBlank? cs with
    | ']' :: rest => return ([], rest)
    | cs =>
      let (item, rest) ← value cs
      match ← skipBlank? rest with
      | ']' :: rest => return ([item], rest)
      | ',' :: rest =>
        let (more, rest) ← items? value fuel rest
        return (item :: more, rest)
      | _ => none

/-- The entries of a table after its opening brace, each value read by a rule, and what follows
the closing one, given the entries before them. -/
def entries? (value : List Char → Option (Item × List Char)) :
    Nat → Entries → List Char → Option (Entries × List Char)
  | 0, _, _ => none
  | fuel + 1, entries, cs => do
    match ← skipBlank? cs with
    | '\x7d' :: rest => return (entries, rest)
    | cs =>
      let (path, key, rest) ← key? cs
      match ← skipBlank? rest with
      | '=' :: rest =>
        let (item, rest) ← value (← skipBlank? rest)
        let entries ← assign? path key item true entries
        match ← skipBlank? rest with
        | '\x7d' :: rest => return (entries, rest)
        | ',' :: rest => entries? value fuel entries rest
        | _ => none
      | _ => none

/-- A value in which `levels` levels may be nested, and what follows it. -/
def value? : (levels : Nat) → List Char → Option (Item × List Char)
  | levels, '[' :: rest =>
    match levels with
    | 0 => none
    | levels + 1 => do
      let (items, rest) ← items? (value? levels) (rest.length + 1) rest
      return (.array items, rest)
  | levels, '\x7b' :: rest =>
    match levels with
    | 0 => none
    | levels + 1 => do
      let (entries, rest) ← entries? (value? levels) (rest.length + 1) [] rest
      return (.table .inline entries, rest)
  | _, cs =>
    match cs.head? with
    | some '"' | some '\'' => (text? cs).map fun (s, rest) => (.string s, rest)
    | _ => scalarValue? cs

/-- A header after its opening brackets: its path, and what follows it. -/
def header? (cs : List Char) : Option (Line × List Char) :=
  match cs with
  | '[' :: rest => do
    let (path, key, rest) ← key? rest
    match rest with
    | ']' :: ']' :: rest => return (.tables path key, rest)
    | _ => none
  | _ => do
    let (path, key, rest) ← key? cs
    match rest with
    | ']' :: rest => return (.table path key, rest)
    | _ => none

/-- A line that is not blank, and what follows it. -/
def line? (cs : List Char) : Option (Line × List Char) :=
  match cs with
  | '[' :: rest => header? rest
  | _ => do
    let (path, key, rest) ← key? cs
    match rest with
    | '=' :: rest =>
      let (item, rest) ← value? maxLevels (rest.dropWhile isGap)
      return (.assign path key item, rest)
    | _ => none

/-- The lines of a text. -/
def lines? : Nat → List Char → Option (List Line)
  | 0, _ => none
  | fuel + 1, cs => do
    match ← skipBlank? cs with
    | [] => return []
    | cs =>
      let (line, rest) ← line? cs
      let rest ← afterComment? (rest.dropWhile isGap)
      match rest with
      | [] => return [line]
      | rest => return line :: (← lines? fuel (← afterNewline? rest))

/-- The text without a byte order mark at its start. -/
def dropMark : List Char → List Char
  | c :: cs => if c = '\ufeff' then cs else c :: cs
  | [] => []

/-- The entries of the document that a text stands for. -/
def read? (cs : List Char) : Option Entries := do
  let cs := dropMark cs
  let lines ← lines? (cs.length + 1) cs
  return (← Document.ofLines? lines).entries

end PlanetServer.Toml
