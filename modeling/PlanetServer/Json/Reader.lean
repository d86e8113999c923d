import PlanetServer.Json.Basic
import PlanetServer.Text.Utf8

/-!
# Reading JSON

A text is one JSON value with blanks around it. Values may be nested up to a limit, a lone half of
a surrogate pair is refused, and of two members with one name the later counts.

The reading of a value returns what follows it. Every value takes at least one character, so the
length of the text bounds how often a value, an item or a member can start; that number is the
argument `fuel`.
-/

namespace PlanetServer.Json

/-- Whether a character may stand between the parts of a value. -/
def isSpace (c : Char) : Bool :=
  c == ' ' || c == '\t' || c == '\n' || c == '\r'

/-- The text without the blanks at its start. -/
def skipSpace (cs : List Char) : List Char :=
  cs.dropWhile isSpace

/-- Whether a character is one of the ten digits. -/
def isDigit (c : Char) : Bool :=
  '0' ≤ c && c ≤ '9'

/-- The number that decimal digits stand for. -/
def digitsValue (cs : List Char) : Nat :=
  cs.foldl (fun n c => 10 * n + (c.toNat - '0'.toNat)) 0

/-- The value of a hexadecimal digit of either case. -/
def hexValue? (c : Char) : Option Nat :=
  if isDigit c then some (c.toNat - '0'.toNat)
  else if 'a' ≤ c ∧ c ≤ 'f' then some (c.toNat - 'a'.toNat + 10)
  else if 'A' ≤ c ∧ c ≤ 'F' then some (c.toNat - 'A'.toNat + 10)
  else none

/-- A unit of four hexadecimal digits, and what follows it. -/
def hexUnit? : List Char → Option (Nat × List Char)
  | a :: b :: c :: d :: rest => do
    let a ← hexValue? a
    let b ← hexValue? b
    let c ← hexValue? c
    let d ← hexValue? d
    return (((a * 16 + b) * 16 + c) * 16 + d, rest)
  | _ => none

/-- The character written by its UTF-16 units, after the backslash and the letter u. The two
halves of a surrogate pair are written one after the other. -/
def unicodeEscape? (cs : List Char) : Option (Char × List Char) := do
  let (unit, rest) ← hexUnit? cs
  if unit < 0xD800 ∨ 0xDFFF < unit then
    return (Char.ofNat unit, rest)
  else if 0xDBFF < unit then
    none
  else
    match rest with
    | '\\' :: 'u' :: rest =>
      let (second, rest) ← hexUnit? rest
      if 0xDC00 ≤ second ∧ second ≤ 0xDFFF then
        return (Char.ofNat (0x10000 + (unit - 0xD800) * 0x400 + (second - 0xDC00)), rest)
      else
        none
    | _ => none

/-- The character that one letter after a backslash stands for. -/
def namedEscape? : Char → Option Char
  | '"' => some '"'
  | '\\' => some '\\'
  | '/' => some '/'
  | 'b' => some '\x08'
  | 'f' => some '\x0c'
  | 'n' => some '\n'
  | 'r' => some '\r'
  | 't' => some '\t'
  | _ => none

/-- The characters of a text after its opening quote, and what follows the closing one. -/
def stringBody? : Nat → List Char → Option (List Char × List Char)
  | 0, _ => none
  | fuel + 1, cs =>
    match cs with
    | [] => none
    | '"' :: rest => some ([], rest)
    | '\\' :: 'u' :: rest => do
      let (c, rest) ← unicodeEscape? rest
      let (text, rest) ← stringBody? fuel rest
      return (c :: text, rest)
    | '\\' :: letter :: rest => do
      let c ← namedEscape? letter
      let (text, rest) ← stringBody? fuel rest
      return (c :: text, rest)
    | c :: rest =>
      if c == '\\' || c.toNat < 0x20 then none
      else do
        let (text, rest) ← stringBody? fuel rest
        return (c :: text, rest)

/-- The digits after the point of a number, if there is one, and what follows. -/
def fraction? : List Char → Option (List Char × List Char)
  | '.' :: rest =>
    let digits := rest.takeWhile isDigit
    if digits.isEmpty then none else some (digits, rest.dropWhile isDigit)
  | rest => some ([], rest)

/-- The sign of an exponent, and what follows. -/
def exponentSign : List Char → Bool × List Char
  | '+' :: rest => (false, rest)
  | '-' :: rest => (true, rest)
  | rest => (false, rest)

/-- The exponent of a number, if there is one, and what follows. -/
def exponent? : List Char → Option (Option Int × List Char)
  | [] => some (none, [])
  | mark :: rest =>
    if mark == 'e' || mark == 'E' then
      let (negative, rest) := exponentSign rest
      let digits := rest.takeWhile isDigit
      if digits.isEmpty then none
      else
        let value : Int := digitsValue digits
        some (some (if negative then -value else value), rest.dropWhile isDigit)
    else some (none, mark :: rest)

/-- The whole digits of a number, none for a zero before another digit, and what follows. -/
def whole? (cs : List Char) : Option (List Char × List Char) :=
  match cs.takeWhile isDigit with
  | [] => none
  | ['0'] => some (['0'], cs.dropWhile isDigit)
  | '0' :: _ => none
  | digits => some (digits, cs.dropWhile isDigit)

/-- A number after its sign, and what follows. -/
def unsigned? (negative : Bool) (cs : List Char) : Option (Number × List Char) := do
  let (whole, rest) ← whole? cs
  let (fraction, rest) ← fraction? rest
  let (exponent, rest) ← exponent? rest
  let number ← Number.ofParts? negative whole fraction exponent
  return (number, rest)

/-- A number, and what follows. -/
def number? : List Char → Option (Number × List Char)
  | '-' :: rest => unsigned? true rest
  | cs => unsigned? false cs

/-- The rest of a text after a word at its start. -/
def keyword? (word : String) (cs : List Char) : Option (List Char) :=
  if word.toList.isPrefixOf cs then some (cs.drop word.length) else none

mutual

/-- A value that may hold `levels` levels of lists and objects, and what follows it. -/
def value? : (fuel : Nat) → (levels : Nat) → List Char → Option (Json × List Char)
  | 0, _, _ => none
  | fuel + 1, levels, cs =>
    match skipSpace cs with
    | 'n' :: rest => (keyword? "ull" rest).map (.null, ·)
    | 't' :: rest => (keyword? "rue" rest).map (.bool true, ·)
    | 'f' :: rest => (keyword? "alse" rest).map (.bool false, ·)
    | '"' :: rest => (stringBody? (rest.length + 1) rest).map
        fun (text, rest) => (.string (String.ofList text), rest)
    | '[' :: rest =>
      match levels with
      | 0 => none
      | levels + 1 =>
        match skipSpace rest with
        | ']' :: rest => some (.array [], rest)
        | rest => (items? fuel levels rest).map fun (found, rest) => (.array found, rest)
    | '\x7b' :: rest =>
      match levels with
      | 0 => none
      | levels + 1 =>
        match skipSpace rest with
        | '\x7d' :: rest => some (.object [], rest)
        | rest => (members? fuel levels rest).map fun (found, rest) => (ofMembers found, rest)
    | rest => (number? rest).map fun (found, rest) => (.number found, rest)

/-- The items of a list, up to its closing bracket, and what follows. -/
def items? : (fuel : Nat) → (levels : Nat) → List Char → Option (List Json × List Char)
  | 0, _, _ => none
  | fuel + 1, levels, cs =>
    match value? fuel levels cs with
    | none => none
    | some (item, rest) =>
      match skipSpace rest with
      | ']' :: rest => some ([item], rest)
      | ',' :: rest => (items? fuel levels rest).map fun (found, rest) => (item :: found, rest)
      | _ => none

/-- The members of an object, up to its closing brace, and what follows. -/
def members? : (fuel : Nat) → (levels : Nat) → List Char →
    Option (List (String × Json) × List Char)
  | 0, _, _ => none
  | fuel + 1, levels, cs =>
    match skipSpace cs with
    | '"' :: rest =>
      match stringBody? (rest.length + 1) rest with
      | none => none
      | some (name, rest) =>
        match skipSpace rest with
        | ':' :: rest =>
          match value? fuel levels rest with
          | none => none
          | some (value, rest) =>
            let member := (String.ofList name, value)
            match skipSpace rest with
            | '\x7d' :: rest => some ([member], rest)
            | ',' :: rest =>
              (members? fuel levels rest).map fun (found, rest) => (member :: found, rest)
            | _ => none
        | _ => none
    | _ => none

end

/-- How deeply lists and objects may be nested in a message. -/
def maxLevels : Nat :=
  127

/-- The value of which this is a text, with at most `levels` levels of lists and objects. -/
def readWithin? (levels : Nat) (cs : List Char) : Option Json := do
  let (json, rest) ← value? (2 * cs.length + 1) levels cs
  if (skipSpace rest).isEmpty then some json else none

/-- The value of which these are the bytes. -/
def read? (bytes : Utf8.Bytes) : Option Json :=
  match Utf8.decode bytes with
  | .ok cs => readWithin? maxLevels cs
  | .error _ => none

end PlanetServer.Json
