import PlanetServer.Toml.Scalar

/-!
# TOML texts

Texts between single or double quotes, on one line or over several lines, whose ends stay as they are
written. Every reader answers with what follows the closing quotes. The argument `fuel` bounds the number of characters.
-/

namespace PlanetServer.Toml

/-- Whether a character may stand in a document: controls other than the tab may not. -/
def isPlain (c : Char) : Bool :=
  c == '\t' || (0x20 ≤ c.toNat && c.toNat != 0x7F)

/-- Whether a character is a space or a tab. -/
def isGap (c : Char) : Bool :=
  c == ' ' || c == '\t'

/-- What follows the end of a line at the start of a text. -/
def afterNewline? : List Char → Option (List Char)
  | '\n' :: cs => some cs
  | '\r' :: '\n' :: cs => some cs
  | _ => none

/-- The text without the gaps and ends of lines at its start. -/
def skipLines : Nat → List Char → List Char
  | 0, cs => cs
  | fuel + 1, cs =>
    let cs := cs.dropWhile isGap
    match afterNewline? cs with
    | some rest => skipLines fuel rest
    | none => cs

/-- The character with a code of so many hexadecimal digits, and what follows it. -/
def coded? (count : Nat) (cs : List Char) : Option (Char × List Char) :=
  let digits := cs.take count
  let code := digitsValue 16 digits
  if digits.length = count && digits.all isHexDigit &&
      (code < 0xD800 || (0xDFFF < code && code ≤ 0x10FFFF)) then
    some (Char.ofNat code, cs.drop count)
  else none

/-- The character that an escape stands for, after its backslash, and what follows it. -/
def escape? : List Char → Option (Char × List Char)
  | 'b' :: cs => some ('\x08', cs)
  | 't' :: cs => some ('\t', cs)
  | 'n' :: cs => some ('\n', cs)
  | 'f' :: cs => some ('\x0c', cs)
  | 'r' :: cs => some ('\r', cs)
  | 'e' :: cs => some ('\x1b', cs)
  | '"' :: cs => some ('"', cs)
  | '\\' :: cs => some ('\\', cs)
  | 'x' :: cs => coded? 2 cs
  | 'u' :: cs => coded? 4 cs
  | 'U' :: cs => coded? 8 cs
  | _ => none

/-- Puts a character in front of a text that was read. -/
def prepend (c : Char) (found : List Char × List Char) : List Char × List Char :=
  (c :: found.1, found.2)

/-- A text on one line after its opening double quote. -/
def basic? : Nat → List Char → Option (List Char × List Char)
  | 0, _ => none
  | fuel + 1, cs =>
    match cs with
    | [] => none
    | '"' :: rest => some ([], rest)
    | '\\' :: rest => do
      let (c, rest) ← escape? rest
      return prepend c (← basic? fuel rest)
    | c :: rest => if isPlain c then (basic? fuel rest).map (prepend c) else none

/-- A text on one line after its opening single quote. -/
def literal? : List Char → Option (List Char × List Char)
  | [] => none
  | '\'' :: rest => some ([], rest)
  | c :: rest => if isPlain c then (literal? rest).map (prepend c) else none

/-- Up to two quotes that stand before three closing quotes belong to the text. -/
def closing? (quote : Char) (cs : List Char) : Option (List Char × List Char) :=
  let run := (cs.takeWhile (· = quote)).length
  if run < 3 then none
  else
    let kept := min (run - 3) 2
    some (List.replicate kept quote, cs.drop (kept + 3))

/-- What follows a backslash at the end of a line: the gaps and ends of lines after it do not
count. -/
def continued? (cs : List Char) : Option (List Char) :=
  match afterNewline? (cs.dropWhile isGap) with
  | some rest => some (skipLines (rest.length + 1) rest)
  | none => none

/-- A text over several lines after its three opening double quotes. -/
def multiBasic? : Nat → List Char → Option (List Char × List Char)
  | 0, _ => none
  | fuel + 1, cs =>
    match closing? '"' cs with
    | some found => some found
    | none =>
      match cs with
      | [] => none
      | '\\' :: rest =>
        match continued? rest with
        | some rest => multiBasic? fuel rest
        | none => do
          let (c, rest) ← escape? rest
          return prepend c (← multiBasic? fuel rest)
      | '\r' :: '\n' :: rest => (multiBasic? fuel rest).map (prepend '\r' ∘ prepend '\n')
      | c :: rest => if c == '\n' || isPlain c then (multiBasic? fuel rest).map (prepend c) else none

/-- A text over several lines after its three opening single quotes. -/
def multiLiteral? : Nat → List Char → Option (List Char × List Char)
  | 0, _ => none
  | fuel + 1, cs =>
    match closing? '\'' cs with
    | some found => some found
    | none =>
      match cs with
      | [] => none
      | '\r' :: '\n' :: rest => (multiLiteral? fuel rest).map (prepend '\r' ∘ prepend '\n')
      | c :: rest => if c == '\n' || isPlain c then (multiLiteral? fuel rest).map (prepend c) else none

/-- The text without the end of a line at its start. -/
def dropNewline (cs : List Char) : List Char :=
  (afterNewline? cs).getD cs

/-- A text on one line, in quotes of either kind. -/
def lineText? : List Char → Option (String × List Char)
  | '"' :: rest => (basic? (rest.length + 1) rest).map fun (cs, rest) => (String.ofList cs, rest)
  | '\'' :: rest => (literal? rest).map fun (cs, rest) => (String.ofList cs, rest)
  | _ => none

/-- A text in quotes of either kind. -/
def text? : List Char → Option (String × List Char)
  | '"' :: '"' :: '"' :: rest =>
    let rest := dropNewline rest
    (multiBasic? (rest.length + 1) rest).map fun (cs, rest) => (String.ofList cs, rest)
  | '\'' :: '\'' :: '\'' :: rest =>
    let rest := dropNewline rest
    (multiLiteral? (rest.length + 1) rest).map fun (cs, rest) => (String.ofList cs, rest)
  | cs => lineText? cs

end PlanetServer.Toml
