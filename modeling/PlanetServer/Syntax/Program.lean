import PlanetServer.Syntax.Statement
import PlanetServer.Token.Lexeme

/-!
# Programs

Reading a whole document: the statements that could be read, and every failure on the way, in
the order of the document.
-/

namespace PlanetServer

/-- What is read from a document. -/
structure Program where
  /-- The statements that could be read. -/
  statements : List Stmt
  /-- Every failure, in the order in which it was met. -/
  failures : List Failure

namespace Parse

/-- How deeply statements, signs and operands may be nested. -/
def maxDepth : Nat :=
  256

/-- One round of a document. A closing brace that closes nothing is a failure of its own. -/
def programRound (statement : Rule Stmt) : Rule (Rule.Round Stmt) := do
  match ← Rule.peek with
  | some .newline =>
    Rule.advance
    return .skip
  | some .rightBrace =>
    Rule.report .noViable
    Rule.advance
    return .skip
  | none => return .stop
  | some _ => recovered statement

/-- The statements of a document, where `n` levels may be nested. -/
def program (n : Nat) : Rule (List Stmt) :=
  Rule.many (programRound (statement n))

end Parse

/-- Reads a token stream, where `levels` levels may be nested. -/
def Program.ofStreamWithin (levels : Nat) (stream : Stream) : Program :=
  let (lead, words) := Word.gather stream.tokens
  let reply := Parse.program levels ⟨stream.finish, 0⟩ words
  ⟨reply.value.getD [], Rule.unreadable lead ++ reply.failures⟩

/-- Reads a token stream. -/
def Program.ofStream (stream : Stream) : Program :=
  .ofStreamWithin Parse.maxDepth stream

/-- Reads a document. -/
def Program.ofText (source : String) : Program :=
  .ofStream (.ofText source)

end PlanetServer
