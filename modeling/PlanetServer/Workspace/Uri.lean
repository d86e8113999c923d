import PlanetServer.Domain.Host
import PlanetServer.Workspace.Segments

/-!
# Names of documents

Documents are named by URLs. The names of files are read much as browsers read them: blanks around a
name and line ends within it do not count, the scheme is read without regard to case, and a host may
be given. The library that reads them goes its own way with the names of drives, as its answers show:
a bar after a letter stays a bar where the path follows a host that is empty or this machine, and two
stops remove neither a letter and a bar nor the drive of a scheme of the web.

* `Uri.parse?` reads a name as far as it tells where a file is.
* `Uri.toPath?` is the path of the file that a name stands for.
* `Uri.ofPath?` is the name of the file with a path.
-/

namespace PlanetServer

open Utf8 (Bytes)

/-- What a name says about the place of a file. -/
structure Uri where
  /-- The machine. -/
  host : Domain.Host
  /-- The segments of the path, still encoded, none for a name without a path of segments. -/
  segments : Option (List (List Char))
deriving DecidableEq, Repr

namespace Uri

/-! ### Names of files -/

/-- The first character that counts, and what follows it. -/
def next? (cs : List Char) : Option (Char × List Char) :=
  match cs.dropWhile isSkipped with
  | [] => none
  | c :: rest => some (c, rest)

/-- What follows a character that divides segments, if one is next. -/
def afterDivider? (scheme : Scheme) (cs : List Char) : Option (List Char) :=
  match next? cs with
  | some (c, rest) => if scheme.divides c then some rest else none
  | none => none

/-- Whether a character ends what stands before the path. -/
def endsAuthority (scheme : Scheme) (c : Char) : Bool :=
  scheme.divides c || endsPath c

/-- The name of a file after two slashes. The name of a drive is no host, and a host is left out
before one. Only after another host does the path start behind its first slash. Elsewhere an empty
segment comes first, and what looks like a drive after it is a segment like all others. -/
def fileWithHost? (cs : List Char) : Option Uri :=
  let host := counted (cs.takeWhile fun c => !endsAuthority .file c)
  let rest := cs.dropWhile fun c => !endsAuthority .file c
  if isDrive host then some ⟨.unnamed, some (resolve .file cs).1⟩
  else if host.isEmpty then some ⟨.unnamed, some (resolve .file rest).1⟩
  else
    match Domain.Host.ofText? host with
    | none => none
    | some .other =>
      let (segments, drive) := resolve .file ((afterDivider? .file rest).getD rest)
      some ⟨if drive then .unnamed else .other, some segments⟩
    | some _ => some ⟨.unnamed, some (resolve .file rest).1⟩

/-- The name of a file after its scheme. -/
def file? (cs : List Char) : Option Uri :=
  match afterDivider? .file cs with
  | none => some ⟨.unnamed, some (resolve .file cs).1⟩
  | some rest =>
    match afterDivider? .file rest with
    | none => some ⟨.unnamed, some (resolve .file rest).1⟩
    | some rest => fileWithHost? rest

/-! ### Other names -/

/-- Divides a text after the last at sign before the path: what stands before the sign, if there is
one, and what follows it. -/
def splitUser (scheme : Scheme) (cs : List Char) : Option (List Char) × List Char :=
  let authority := cs.takeWhile fun c => !endsAuthority scheme c
  if authority.contains '@' then
    let place := (authority.reverse.takeWhile (· ≠ '@')).length
    (some (authority.take (authority.length - place - 1)), cs.drop (authority.length - place))
  else (none, cs)

/-- Divides a text at the end of its host. A colon between brackets belongs to the host. -/
def splitHost (scheme : Scheme) (inside : Bool) : List Char → List Char × List Char
  | [] => ([], [])
  | c :: cs =>
    if (c == ':' && !inside) || endsAuthority scheme c then ([], c :: cs)
    else
      let (host, rest) := splitHost scheme (c == '[' || (inside && c != ']')) cs
      (c :: host, rest)

/-- What follows a socket, a colon and perhaps a number of 16 bits, if there is one. A backslash may
end it in all schemes. -/
def afterSocket? : List Char → Option (List Char)
  | ':' :: cs =>
    let digits := cs.takeWhile Char.isDigit
    let rest := cs.dropWhile Char.isDigit
    if 65535 < digits.foldl (fun n c => 10 * n + (c.toNat - '0'.toNat)) 0 then none
    else if rest.head?.all fun c => endsAuthority .web c then some rest
    else none
  | cs => some cs

/-- A name with a host, after the slashes before it. There has to be a host before a socket and after
a user, where a colon alone is no user. -/
def withHost? (scheme : Scheme) (cs : List Char) : Option Uri := do
  let (user, place) := splitUser scheme cs
  let (name, rest) := splitHost scheme false place
  let host ← if scheme = .plain then Domain.Host.ofTextAsIs? name else Domain.Host.ofText? name
  let hasUser := user.any fun u => u ≠ [':'] && (u ≠ [] || !rest.isEmpty)
  if name.isEmpty && (scheme ≠ .plain || hasUser || rest.head? = some ':') then none
  else
    match ← afterSocket? rest with
    | [] => return ⟨host, if scheme = .plain then none else some (resolve scheme []).1⟩
    | c :: more =>
      if scheme.divides c then return ⟨host, some (resolve scheme more).1⟩
      else if scheme = .plain && endsPath c then return ⟨host, none⟩
      else return ⟨host, some (resolve scheme (c :: more)).1⟩

/-- A name after its scheme. -/
def afterScheme? (scheme : Scheme) (cs : List Char) : Option Uri :=
  match scheme with
  | .file => file? cs
  | .web => withHost? .web ((counted cs).dropWhile Scheme.web.divides)
  | .plain =>
    match counted cs with
    | '/' :: '/' :: rest => withHost? .plain rest
    | '/' :: rest => some ⟨.unnamed, some (resolve .plain rest).1⟩
    | _ => some ⟨.unnamed, none⟩

/-! ### Whole names -/

/-- Whether a character may stand in the name of a scheme after its first letter. -/
def isSchemeChar (c : Char) : Bool :=
  isLetter c || c.isDigit || c == '+' || c == '-' || c == '.'

/-- The name without blanks and controls around it. -/
def trimmed (cs : List Char) : List Char :=
  let isEdge (c : Char) : Bool := c.toNat ≤ 0x20
  ((cs.dropWhile isEdge).reverse.dropWhile isEdge).reverse

/-- What a name says about the place of a file, none if it is no name. -/
def parse? (cs : List Char) : Option Uri :=
  let inScheme (c : Char) : Bool := isSchemeChar c || isSkipped c
  match counted ((trimmed cs).takeWhile inScheme), (trimmed cs).dropWhile inScheme with
  | c :: name, ':' :: rest =>
    if isLetter c then afterScheme? (Scheme.ofName ((c :: name).map Domain.lower)) rest else none
  | _, _ => none

/-! ### Paths -/

/-- The path with a slash at its end if it would end in the name of a drive. -/
def closeDrive (bytes : Bytes) : Bytes :=
  match bytes.reverse with
  | mark :: letter :: _ :: _ =>
    if isDrive [Char.ofNat letter.toNat, Char.ofNat mark.toNat] then bytes ++ [Path.slash] else bytes
  | _ => bytes

/-- The path that segments stand for. -/
def segmentsPath (segments : List (List Char)) : Path :=
  ⟨closeDrive (segments.flatMap fun segment =>
    Path.slash :: Text.percentDecode (Utf8.encode segment))⟩

/-- The path of the file that a name stands for, none if it stands for no file of this machine. -/
def toPath? (uri : String) : Option Path := do
  let parsed ← parse? uri.toList
  let segments ← parsed.segments
  if parsed.host = .other then none else some (segmentsPath segments)

-- Behind three slashes a letter and a bar stay as they are, and two stops do not remove them.
example : toPath? "file:///C|/x" = some (.ofString "/C|/x") := by decide +kernel
example : toPath? "file:///x/C|/../y" = some (.ofString "/x/C|/y") := by decide +kernel
example : toPath? "http://localhost/C:/../y" = some (.ofString "/C:/y") := by decide +kernel

/-- The name of the file with a path, none if the path does not start at the root. -/
def ofPath? (p : Path) : Option String :=
  if p.isAbsolute then
    match p.components with
    | [] => some "file:///"
    | components =>
      some ("file://" ++ String.ofList (components.flatMap fun component =>
        '/' :: Text.percentEncode component))
  else none

/-- What is said of a path that has no name. -/
def pathMessage (p : Path) : String :=
  "cannot convert path to file URI: " ++ p.display

/-- The path of a file that the compiler reports, resolved against the root of the workspace. -/
def reportedPath (root : Path) (reported : String) : Path :=
  root.join (.ofString reported)

/-- The name of a file that the compiler reports. -/
def ofReported? (root : Path) (reported : String) : Option String :=
  ofPath? (reportedPath root reported)

end Uri

end PlanetServer
