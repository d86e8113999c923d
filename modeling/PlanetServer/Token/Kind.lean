/-!
# Token kinds

The vocabulary of the Planet language: keywords, token classes, punctuation, operators, and the
three hidden kinds that no grammar rule mentions.

* `Kind.all` lists the vocabulary in order, and `Kind.id` is the place of a kind in it.
* `Kind.literal?` is the text of a kind that is always written the same way.
* `Kind.displayName` is the name under which messages mention a kind.
-/

namespace PlanetServer

/-- A kind of token. The order of the constructors is the order of the vocabulary. -/
inductive Kind where
  | kwVar | kwDef | kwIf | kwElse | kwWhile | kwReturn | kwImport | kwExecute | kwTrue | kwFalse
  | identifier | number | string
  | semicolon | newline | assign
  | leftParen | rightParen | leftBrace | rightBrace | comma | dot
  | or | and | equal | notEqual | less | lessEqual | greater | greaterEqual
  | plus | minus | star | slash | percent | bang
  | whitespace | comment | unknown
deriving DecidableEq, Repr, Inhabited

namespace Kind

/-- The vocabulary, in order. -/
def all : List Kind :=
  [kwVar, kwDef, kwIf, kwElse, kwWhile, kwReturn, kwImport, kwExecute, kwTrue, kwFalse,
   identifier, number, string,
   semicolon, newline, assign,
   leftParen, rightParen, leftBrace, rightBrace, comma, dot,
   or, and, equal, notEqual, less, lessEqual, greater, greaterEqual,
   plus, minus, star, slash, percent, bang,
   whitespace, comment, unknown]

theorem mem_all (k : Kind) :
  k ∈ all
  := by
  cases k <;> decide

/-- A statement about all kinds is decided by going through the vocabulary. -/
instance decidableForall {p : Kind → Prop} [DecidablePred p] : Decidable (∀ k, p k) :=
  decidable_of_iff (∀ k ∈ all, p k) ⟨fun h k => h k (mem_all k), fun h k _ => h k⟩

/-- The place of a kind in the vocabulary. -/
def id (k : Kind) : Nat :=
  k.ctorIdx

/-- The short name of a kind in the vocabulary. -/
def label : Kind → String
  | kwVar => "Var" | kwDef => "Def" | kwIf => "If" | kwElse => "Else" | kwWhile => "While"
  | kwReturn => "Return" | kwImport => "Import" | kwExecute => "Execute"
  | kwTrue => "True" | kwFalse => "False"
  | identifier => "Identifier" | number => "Number" | string => "String"
  | semicolon => "Semi" | newline => "Newline" | assign => "Assign"
  | leftParen => "LParen" | rightParen => "RParen"
  | leftBrace => "LBrace" | rightBrace => "RBrace" | comma => "Comma" | dot => "Dot"
  | or => "OrOr" | and => "AndAnd" | equal => "EqEq" | notEqual => "NotEq"
  | less => "Lt" | lessEqual => "LtEq" | greater => "Gt" | greaterEqual => "GtEq"
  | plus => "Plus" | minus => "Minus" | star => "Star" | slash => "Slash" | percent => "Percent"
  | bang => "Bang"
  | whitespace => "Whitespace" | comment => "Comment" | unknown => "Unknown"

/-- The text of a kind that has only one, none for a class of texts. -/
def literal? : Kind → Option String
  | kwVar => some "var" | kwDef => some "def" | kwIf => some "if" | kwElse => some "else"
  | kwWhile => some "while" | kwReturn => some "return" | kwImport => some "import"
  | kwExecute => some "execute" | kwTrue => some "true" | kwFalse => some "false"
  | semicolon => some ";" | assign => some "="
  | leftParen => some "(" | rightParen => some ")"
  | leftBrace => some "\x7b" | rightBrace => some "\x7d" | comma => some "," | dot => some "."
  | or => some "||" | and => some "&&" | equal => some "==" | notEqual => some "!="
  | less => some "<" | lessEqual => some "<=" | greater => some ">" | greaterEqual => some ">="
  | plus => some "+" | minus => some "-" | star => some "*" | slash => some "/"
  | percent => some "%" | bang => some "!"
  | identifier | number | string | newline | whitespace | comment | unknown => none

/-- The keyword that a whole word is, if it is one. -/
def keyword? : String → Option Kind
  | "var" => some kwVar
  | "def" => some kwDef
  | "if" => some kwIf
  | "else" => some kwElse
  | "while" => some kwWhile
  | "return" => some kwReturn
  | "import" => some kwImport
  | "execute" => some kwExecute
  | "true" => some kwTrue
  | "false" => some kwFalse
  | _ => none

/-- The name of a kind in messages: its text in quotes, or the name of the class. -/
def displayName (k : Kind) : String :=
  match k.literal? with
  | some text => "'" ++ text ++ "'"
  | none =>
    match k with
    | identifier => "Identifier"
    | number => "Number"
    | string => "String"
    | newline => "NEWLINE"
    | whitespace => "WS"
    | comment => "COMMENT"
    | _ => "UNKNOWN"

/-- Whether no grammar rule sees tokens of this kind: blanks, comments and unreadable input. -/
def isHidden : Kind → Bool
  | whitespace | comment | unknown => true
  | _ => false

/-- The rank of a binary operator: an operator of higher rank binds tighter. -/
def rank? : Kind → Option Nat
  | or => some 1
  | and => some 2
  | equal | notEqual => some 3
  | less | lessEqual | greater | greaterEqual => some 4
  | plus | minus => some 5
  | star | slash | percent => some 6
  | _ => none

end Kind

end PlanetServer
