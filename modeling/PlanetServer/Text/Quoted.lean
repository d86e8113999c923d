import PlanetServer.Text.Printable

/-!
# Quoted and escaped text

* `Text.quoted` is a text between double quotes, as JSON writes it: the quote and the backslash take a
  backslash, five controls have names, the other controls are written by their code in four hexadecimal
  digits, and everything else stands for itself.
* `Text.escaped` is a text as messages quote it, so that it can be seen on one line: quotes and the
  backslash take a backslash, the common controls have names, and what cannot be shown is written by its
  code point in hexadecimal. A character that extends the one before it is written by its code point
  where nothing stands before it.
-/

namespace PlanetServer.Text

/-! ### Between quotes -/

/-- The lower case hexadecimal digit of a number below sixteen. -/
def hexDigit (n : Nat) : Char :=
  Nat.digitChar n

/-- The written form of a character between quotes. -/
def quotedChar (c : Char) : List Char :=
  match c with
  | '"' => ['\\', '"']
  | '\\' => ['\\', '\\']
  | '\n' => ['\\', 'n']
  | '\r' => ['\\', 'r']
  | '\t' => ['\\', 't']
  | '\x08' => ['\\', 'b']
  | '\x0c' => ['\\', 'f']
  | c =>
    if c.toNat < 0x20 then
      ['\\', 'u', '0', '0', hexDigit (c.toNat / 16), hexDigit (c.toNat % 16)]
    else [c]

/-- A text between quotes. -/
def quoted (cs : List Char) : List Char :=
  '"' :: cs.flatMap quotedChar ++ ['"']

/-- A text between quotes. -/
def quote (s : String) : String :=
  String.ofList (quoted s.toList)

/-! ### In messages -/

/-- The code point of a character in lower case hexadecimal, in braces after a backslash and
the letter u. -/
def escapedCode (c : Char) : List Char :=
  ['\\', 'u', '\x7b'] ++ Nat.toDigits 16 c.toNat ++ ['\x7d']

/-- The written form of a character that follows another one. -/
def escapedChar (c : Char) : List Char :=
  match c with
  | '\x00' => ['\\', '0']
  | '\t' => ['\\', 't']
  | '\r' => ['\\', 'r']
  | '\n' => ['\\', 'n']
  | '\\' => ['\\', '\\']
  | '"' => ['\\', '"']
  | '\'' => ['\\', '\'']
  | c => if isPrintable c then [c] else escapedCode c

/-- The written form of a text. -/
def escaped : List Char → List Char
  | [] => []
  | c :: cs => (if isExtender c then escapedCode c else escapedChar c) ++ cs.flatMap escapedChar

end PlanetServer.Text
