import PlanetServer.Text.Basic
import PlanetServer.Token.Kind

/-!
# Tokens and token streams

A token is a piece of a document with its kind and its place. A stream holds all tokens of one
document, hidden ones included, and the place where the document ends. The significant tokens
are those that are not hidden.
-/

namespace PlanetServer

/-- A place in a document: the line, counted from one, and the column in UTF-16 units, counted
from zero. -/
structure Mark where
  /-- The line, counted from one. -/
  line : Nat
  /-- The number of UTF-16 units before the place in its line. -/
  column : Nat
deriving DecidableEq, Repr

/-- The place where every document starts. -/
def Mark.start : Mark :=
  ⟨1, 0⟩

/-- A token of a document. -/
structure Token where
  /-- What the token is. -/
  kind : Kind
  /-- The piece of the document that the token covers. -/
  text : String
  /-- The number of tokens before it in its stream, hidden ones included. -/
  index : Nat
  /-- The place where the token starts. -/
  mark : Mark
deriving DecidableEq, Repr

/-- Whether the grammar does not see the token. -/
def Token.isHidden (t : Token) : Bool :=
  t.kind.isHidden

/-- The length of the token in UTF-16 units. -/
def Token.units (t : Token) : Nat :=
  Text.units t.text.toList

/-- All tokens of one document. -/
structure Stream where
  /-- The tokens, in the order of the document. -/
  tokens : List Token
  /-- The place just past the last character of the document. -/
  finish : Mark
deriving DecidableEq, Repr

namespace Stream

/-- The significant tokens of a stream. -/
def significant (s : Stream) : List Token :=
  s.tokens.filter fun t => !t.isHidden

/-- The last significant token among the first `n` tokens. -/
def significantBefore? (s : Stream) (n : Nat) : Option Token :=
  (s.tokens.take n).reverse.find? fun t => !t.isHidden

end Stream

end PlanetServer
