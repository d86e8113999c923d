import PlanetServer.Diagnostic.Basic
import PlanetServer.Text.Basic
import PlanetServer.Text.Numeric

/-!
# Build reports

The compiler reports problems one to a line, as `path:line:column: error: message` or with the
word `warning`. Everything else that it prints is ignored.

* `Finding.ofLine?` reads one line.
* `findings` reads a whole output, line by line.
* `Report.ofOutput` groups the findings by path, in the order in which the paths first occur.
-/

namespace PlanetServer.Build

/-- The lines of a text, divided at line feeds. -/
def lines : List Char → List (List Char)
  | [] => [[]]
  | c :: cs =>
    if c = '\n' then [] :: lines cs
    else
      match lines cs with
      | [] => [[c]]
      | line :: rest => (c :: line) :: rest

/-- The rest of a text after a word at its start. -/
def afterWord? (word : List Char) (cs : List Char) : Option (List Char) :=
  if word.isPrefixOf cs then some (cs.drop word.length) else none

/-- A colon and a number in the digits of any script, and what follows the number. -/
def number? : List Char → Option (List Char × List Char)
  | ':' :: rest =>
    match rest.takeWhile Text.isDecimal with
    | [] => none
    | digits => some (digits, rest.dropWhile Text.isDecimal)
  | _ => none

/-- Whether a character is a space or a tab. -/
def isGap (c : Char) : Bool :=
  c == ' ' || c == '\t'

/-- The word for a severity and a colon, and what follows, which must not be empty. -/
def severity? (cs : List Char) : Option (Severity × List Char) :=
  match afterWord? "error:".toList cs, afterWord? "warning:".toList cs with
  | some (c :: rest), _ => some (.error, c :: rest)
  | _, some (c :: rest) => some (.warning, c :: rest)
  | _, _ => none

/-- What a line says after the path. -/
structure Tail where
  /-- The digits of the line number. -/
  line : List Char
  /-- The digits of the column number. -/
  column : List Char
  /-- How severe the problem is. -/
  severity : Severity
  /-- The text after the word for the severity. -/
  message : List Char

/-- The part of a line after the path. -/
def tail? (cs : List Char) : Option Tail := do
  let (line, rest) ← number? cs
  let (column, rest) ← number? rest
  match rest with
  | ':' :: rest =>
    let (severity, message) ← severity? (rest.dropWhile isGap)
    return ⟨line, column, severity, message⟩
  | _ => none

/-- The shortest path, not empty, after which the rest of the line can be read. -/
def pathAndTail? : List Char → Option (List Char × Tail)
  | [] => none
  | c :: cs =>
    match tail? cs with
    | some tail => some ([c], tail)
    | none => (pathAndTail? cs).map fun (path, tail) => (c :: path, tail)

/-- Whether a character is one of the digits `0` to `9`. -/
def isDigit (c : Char) : Bool :=
  '0' ≤ c && c ≤ '9'

/-- The coordinate that digits stand for, none if it is too large or not written in the digits
`0` to `9`. -/
def coordinate? (digits : List Char) : Option Nat :=
  if digits.all isDigit then
    let value := digits.foldl (fun n c => 10 * n + (c.toNat - '0'.toNat)) 0
    if value ≤ maxCoordinate then some value else none
  else none

/-- A problem in a file. -/
structure Finding where
  /-- The path of the file, as the compiler gives it. -/
  path : String
  /-- The problem. -/
  diagnostic : Diagnostic
deriving DecidableEq, Repr

/-- The problem that a line reports. -/
def Finding.ofLine? (cs : List Char) : Option Finding := do
  let (path, tail) ← pathAndTail? cs
  let line ← coordinate? tail.line
  let column ← coordinate? tail.column
  let message := String.ofList (Text.trim tail.message)
  let range := Range.singleColumn ⟨line - 1, column - 1⟩
  return ⟨String.ofList path, ⟨tail.severity, message, range, .build⟩⟩

/-- The problems that an output reports, in order. -/
def findings (output : List Char) : List Finding :=
  (lines output).filterMap Finding.ofLine?

/-- The problems of one file, in order. -/
structure FileDiagnostics where
  /-- The path of the file, as the compiler gives it. -/
  path : String
  /-- Its problems. -/
  diagnostics : List Diagnostic
deriving DecidableEq, Repr

/-- The groups with one more finding, at the end of the group of its path. -/
def addFinding (groups : List FileDiagnostics) (f : Finding) : List FileDiagnostics :=
  match groups with
  | [] => [⟨f.path, [f.diagnostic]⟩]
  | g :: rest =>
    if g.path = f.path then ⟨g.path, g.diagnostics ++ [f.diagnostic]⟩ :: rest
    else g :: addFinding rest f

/-- The findings by path, in the order in which the paths first occur. -/
def groupByPath (fs : List Finding) : List FileDiagnostics :=
  fs.foldl addFinding []

/-- The problems that an output reports, by file. -/
def extract (output : List Char) : List FileDiagnostics :=
  groupByPath (findings output)

/-- The outcome of one build. -/
structure Report where
  /-- The exit code of the compiler, `-1` if a signal ended it. -/
  exitCode : Int
  /-- The problems by file. -/
  files : List FileDiagnostics
deriving DecidableEq, Repr

namespace Report

/-- The report of a compiler that ended with the code and printed the output. -/
def ofOutput (exitCode : Int) (output : List Char) : Report :=
  ⟨exitCode, extract output⟩

/-- Whether the build succeeded. -/
def success (r : Report) : Bool :=
  r.exitCode = 0

/-- The level of the notification about the build. -/
def level (r : Report) : Level :=
  if r.success then .info else .error

/-- The notification about the build. -/
def summary (r : Report) : String :=
  "Planet build finished with exit code " ++ r.exitCode.repr

/-- The number of problems. -/
def diagnosticCount (r : Report) : Nat :=
  (r.files.flatMap FileDiagnostics.diagnostics).length

end Report

end PlanetServer.Build
