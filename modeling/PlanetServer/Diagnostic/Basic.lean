import PlanetServer.Diagnostic.Range

/-!
# Diagnostics

One reported problem: where it is, how severe it is, who found it, and what it says. The levels
of notifications to the user stand beside the severities.
-/

namespace PlanetServer

/-- How severe a problem is. -/
inductive Severity where
  | error | warning | information | hint
deriving DecidableEq, Repr

/-- The number of a severity in messages. -/
def Severity.code : Severity → Nat
  | error => 1
  | warning => 2
  | information => 3
  | hint => 4

/-- Who found a problem. -/
inductive Origin where
  /-- The parser, in an open document. -/
  | parser
  /-- The external compiler. -/
  | build
deriving DecidableEq, Repr

/-- The name of an origin in messages. -/
def Origin.name : Origin → String
  | parser => "syntax"
  | build => "build"

/-- The level of a notification to the user. -/
inductive Level where
  | error | warning | info | log
deriving DecidableEq, Repr

/-- The number of a level in messages. -/
def Level.code : Level → Nat
  | error => 1
  | warning => 2
  | info => 3
  | log => 4

/-- One reported problem. -/
structure Diagnostic where
  /-- How severe it is. -/
  severity : Severity
  /-- What it says. -/
  message : String
  /-- Where it is. -/
  range : Range
  /-- Who found it. -/
  origin : Origin
deriving DecidableEq, Repr

/-- The JSON form of a diagnostic. -/
def Diagnostic.toJson (d : Diagnostic) : Json :=
  .ofMembers
    [("range", d.range.toJson), ("severity", .nat d.severity.code),
     ("source", .string d.origin.name), ("message", .string d.message)]

end PlanetServer
