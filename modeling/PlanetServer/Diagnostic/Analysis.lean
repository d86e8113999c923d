import PlanetServer.Diagnostic.Basic
import PlanetServer.Diagnostic.Locale
import PlanetServer.Syntax.Program

/-!
# Analysis of documents

Each failure of the parser becomes one diagnostic. `Failure.friendlyMessage` says what it means in
the words of users; of its rules the first that applies counts.

1. A statement could have ended here, and did not.
2. An equals sign after a name stands where no assignment can be.
3. Nothing that is allowed starts here, or one of some kinds is expected.
4. The text is not understood.
-/

namespace PlanetServer

/-- How many expected kinds a message names at most. -/
def maxExpectedNames : Nat :=
  5

/-- The names in front that differ from each other, at most `n` of them, given those found
already. -/
def distinctNames (found : List String) (n : Nat) : List String → List String
  | [] => found
  | name :: names =>
    let found := if found.contains name then found else found ++ [name]
    if n ≤ found.length then found else distinctNames found n names

/-- The names of the first expected kinds. -/
def expectedNames (expected : KindSet) (locale : Locale) : List String :=
  distinctNames [] maxExpectedNames (expected.toList.map locale.friendlyName)

/-- Whether a token is an equals sign whose nearest significant token before it is a name. -/
def Stream.isMisplacedAssignment (stream : Stream) (t : Token) : Bool :=
  t.kind = .assign &&
    (stream.significantBefore? t.index).any fun previous => previous.kind = .identifier

namespace Failure

/-- Whether the failure is that a statement could have ended and did not. -/
def lacksTerminator (f : Failure) : Bool :=
  f.expected?.any fun expected => expected.contains .semicolon || expected.contains .newline

/-- What the failure says to users. -/
def friendlyMessage (f : Failure) (stream : Stream) (locale : Locale) : String :=
  if f.lacksTerminator then locale.missingTerminator
  else if f.offending.any stream.isMisplacedAssignment then locale.malformedAssignment
  else
    match f.cause with
    | .noViable | .tooDeep => locale.noViableAlternative
    | .mismatch expected => locale.expectedOneOf (expectedNames expected locale)
    | .unreadable =>
      match f.offending with
      | some t => locale.unknownSyntaxError ("'" ++ t.text ++ "'")
      | none => locale.unknownSyntaxError "EOF"

/-- The diagnostic of a failure. -/
def diagnostic (f : Failure) (stream : Stream) (locale : Locale) : Diagnostic :=
  ⟨.error, f.friendlyMessage stream locale, .ofMark f.mark (f.offending.map Token.units), .parser⟩

end Failure

/-- The diagnostics of a document. -/
def analyze (locale : Locale) (source : String) : List Diagnostic :=
  let stream := Stream.ofText source
  (Program.ofStream stream).failures.map fun f => f.diagnostic stream locale

end PlanetServer
