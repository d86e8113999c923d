import PlanetServer.Text.Quoted
import PlanetServer.Token.Basic
import PlanetServer.Token.KindSet

/-!
# Failures of the parser

A failure says where a document departs from the grammar, and why. `Failure.message` is its
wording in the terms of the grammar.
-/

namespace PlanetServer

/-- Why the grammar could not be matched. -/
inductive Cause where
  /-- One token was required; any of the expected kinds would have been accepted. -/
  | mismatch (expected : KindSet)
  /-- No alternative of a rule starts with the token. -/
  | noViable
  /-- The rules are nested as deeply as is allowed. -/
  | tooDeep
  /-- The token is not one of the language. -/
  | unreadable
deriving DecidableEq

/-- One departure of a document from the grammar. -/
structure Failure where
  /-- The token at fault, none at the end of the document. -/
  offending : Option Token
  /-- The place of the fault. -/
  mark : Mark
  /-- Why the token is at fault. -/
  cause : Cause
  /-- How many rules were nested where the rule gave up. For a token that no rule sees it is
  zero. -/
  depth : Nat
deriving DecidableEq

namespace Failure

/-- The failure of a token that is not one of the language. -/
def ofUnreadable (t : Token) : Failure :=
  ⟨some t, t.mark, .unreadable, 0⟩

/-- The kinds that would have been accepted, where only one token was missing. -/
def expected? (f : Failure) : Option KindSet :=
  match f.cause with
  | .mismatch expected => some expected
  | _ => none

/-- The text of a token in quotes, with what cannot be shown escaped. -/
def quote (t : Token) : String :=
  "'" ++ String.ofList (Text.escaped t.text.toList) ++ "'"

/-- The token at fault, as messages show it. -/
def found (f : Failure) : String :=
  match f.offending with
  | some t => quote t
  | none => "<EOF>"

/-- What the failure says, in the terms of the grammar. -/
def message (f : Failure) : String :=
  match f.cause with
  | .mismatch expected => "mismatched input " ++ f.found ++ " expecting " ++ expected.display
  | .noViable | .tooDeep => "no viable alternative at input " ++ f.found
  | .unreadable => "token recognition error at: " ++ f.found

end Failure

end PlanetServer
