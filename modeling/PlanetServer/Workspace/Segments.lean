import PlanetServer.Domain.Folding
import PlanetServer.Workspace.Path

/-!
# Segments of names

The path in the name of a document is divided into segments. Tabs and line ends in it do not count,
and `.` and `..` among the segments are resolved.

The first segment of the path of a file may be the name of a drive, a letter and a colon. It ends at a
tab or line end after its colon, and what follows is then a segment of its own, which is not resolved.
Where `..` would remove a segment that looks like a drive, the segment stays, in all schemes and also
with a bar for the colon.
-/

namespace PlanetServer

/-- The families of schemes, which are read by different rules. -/
inductive Scheme where
  /-- Files. -/
  | file
  /-- The schemes of the web. -/
  | web
  /-- All others. -/
  | plain
deriving DecidableEq, Repr

namespace Scheme

/-- The family of a scheme, given in small letters. -/
def ofName (name : List Char) : Scheme :=
  if name = "file".toList then file
  else if ["http", "https", "ws", "wss", "ftp"].any fun s => s.toList = name then web
  else plain

/-- Whether a backslash divides segments as a slash does. -/
def isSpecial : Scheme → Bool
  | file | web => true
  | plain => false

/-- Whether a character divides segments. -/
def divides (s : Scheme) (c : Char) : Bool :=
  c == '/' || (s.isSpecial && c == '\\')

end Scheme

namespace Uri

/-- Whether a character is a letter of the alphabet. -/
def isLetter (c : Char) : Bool :=
  ('a' ≤ c && c ≤ 'z') || ('A' ≤ c && c ≤ 'Z')

/-- Whether a character does not count wherever it stands. -/
def isSkipped (c : Char) : Bool :=
  c == '\t' || c == '\n' || c == '\r'

/-- The characters that count. -/
def counted (cs : List Char) : List Char :=
  cs.filter fun c => !isSkipped c

/-! ### Single segments -/

/-- Whether a text is a letter and a colon or bar, the name of a drive. -/
def isDrive : List Char → Bool
  | [letter, mark] => isLetter letter && (mark == ':' || mark == '|')
  | _ => false

/-- The texts that stand for one full stop. -/
def isStop (segment : List Char) : Bool :=
  segment = ['.'] || segment.map Domain.lower = ['%', '2', 'e']

/-- The ways to divide a segment in two. -/
def halves : List Char → List (List Char × List Char)
  | [] => [([], [])]
  | c :: cs => ([], c :: cs) :: (halves cs).map fun (a, b) => (c :: a, b)

/-- The texts that stand for two full stops. -/
def isTwoStops (segment : List Char) : Bool :=
  (halves segment).any fun (a, b) => isStop a && isStop b

/-- A segment that starts with the name of a drive and goes on after characters that do not count:
the drive, and what follows. -/
def splitDrive? (segment : List Char) : Option (List Char × List Char) :=
  match segment.dropWhile isSkipped with
  | [] => none
  | letter :: rest =>
    match rest.dropWhile isSkipped with
    | ':' :: c :: rest =>
      if isLetter letter && isSkipped c && !(counted rest).isEmpty then
        some ([letter, ':'], counted rest)
      else none
    | _ => none

/-! ### Paths of segments -/

/-- The segments without the last one. What looks like a drive stays, wherever it stands and whatever
the scheme is. -/
def parent (segments : List (List Char)) : List (List Char) :=
  match segments.getLast? with
  | none => []
  | some last => if isDrive last then segments else segments.dropLast

/-- The segments of a path of which `done` are read, and whether the first of them was made the
name of a drive. -/
def walk (scheme : Scheme) (done : List (List Char)) : List (List Char) → List (List Char) × Bool
  | [] => (done, false)
  | segment :: rest =>
    let text := counted segment
    if isTwoStops text then
      let done := parent done
      if rest.isEmpty then (done ++ [[]], false) else walk scheme done rest
    else if isStop text then
      if rest.isEmpty then (done ++ [[]], false) else walk scheme done rest
    else if scheme = .file ∧ done = [] then
      match splitDrive? segment with
      | some (drive, after) => walk scheme [drive, after] rest
      | none =>
        if isDrive text then ((walk scheme [text.take 1 ++ [':']] rest).1, true)
        else walk scheme [text] rest
    else walk scheme (done ++ [text]) rest

/-- The pieces of a text between the characters that divide segments. -/
def pieces (scheme : Scheme) : List Char → List (List Char)
  | [] => [[]]
  | c :: cs =>
    if scheme.divides c then [] :: pieces scheme cs
    else
      match pieces scheme cs with
      | [] => [[c]]
      | piece :: rest => (c :: piece) :: rest

/-- The segments without the empty ones at the start; at least one stays. -/
def dropEmpty (segments : List (List Char)) : List (List Char) :=
  match segments.dropWhile (· = []) with
  | [] => [[]]
  | kept => kept

/-- Whether a character ends the path. -/
def endsPath (c : Char) : Bool :=
  c == '?' || c == '#'

/-- The segments of a path after its first slash, and whether a drive was found. -/
def resolve (scheme : Scheme) (path : List Char) : List (List Char) × Bool :=
  let (segments, drive) := walk scheme [] (pieces scheme (path.takeWhile fun c => !endsPath c))
  (if scheme = .file then dropEmpty segments else segments, drive)

end Uri

end PlanetServer
