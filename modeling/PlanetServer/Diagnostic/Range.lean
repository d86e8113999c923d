import PlanetServer.Json.Basic
import PlanetServer.Token.Basic

/-!
# Positions and ranges in an editor

Editors count lines and columns from zero, in 32 bits. Arithmetic on positions stops at the
greatest coordinate.
-/

namespace PlanetServer

/-- The greatest line or column. -/
def maxCoordinate : Nat :=
  4294967295

/-- The sum of two coordinates, at most the greatest one. -/
def addCoordinate (a b : Nat) : Nat :=
  min (a + b) maxCoordinate

/-- A place in a document as editors count it: line and column from zero, columns in UTF-16
units. -/
structure Position where
  /-- The line, counted from zero. -/
  line : Nat
  /-- The column, counted from zero. -/
  column : Nat
deriving DecidableEq, Repr

namespace Position

/-- Whether a place comes before another one. -/
def isBefore (p q : Position) : Bool :=
  p.line < q.line || (p.line == q.line && p.column < q.column)

/-- The JSON form of a position. -/
def toJson (p : Position) : Json :=
  .ofMembers [("line", .nat p.line), ("character", .nat p.column)]

end Position

/-- A part of a document, from a place up to another one that does not come before it. -/
structure Range where
  /-- Where the part starts. -/
  start : Position
  /-- The place just past its end. -/
  finish : Position
deriving DecidableEq, Repr

namespace Range

/-- The part between two places; an end that comes before the start is moved to the start. -/
def between (start finish : Position) : Range :=
  ⟨start, if finish.isBefore start then start else finish⟩

/-- The part that holds one column. -/
def singleColumn (start : Position) : Range :=
  ⟨start, ⟨start.line, addCoordinate start.column 1⟩⟩

/-- The part that a token of the given length covers, one column if there is no token. It is
never empty unless the last column is reached. -/
def ofMark (mark : Mark) (length : Option Nat) : Range :=
  let start : Position := ⟨mark.line - 1, mark.column⟩
  let column := max (addCoordinate mark.column (length.getD 1)) (addCoordinate mark.column 1)
  between start ⟨start.line, column⟩

/-- The JSON form of a range. -/
def toJson (r : Range) : Json :=
  .ofMembers [("start", r.start.toJson), ("end", r.finish.toJson)]

end Range

end PlanetServer
