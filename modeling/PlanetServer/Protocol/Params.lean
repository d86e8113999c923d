import PlanetServer.Json.Basic
import PlanetServer.Workspace.Uri

/-!
# Parameters of messages

The parameters of a message are a record: an object, in which fields that are not known are ignored,
or the list of the values of its fields in order. A field that is missing, or is of the wrong type,
makes the parameters invalid unless it may be left out.
-/

namespace PlanetServer.Params

/-- The values of the fields of a record by their names, none for those that are missing. A list
may not hold more values than there are fields. -/
def fields? (names : List String) : Json → Option (List (Option Json))
  | .object members => some (names.map fun name => members.lookup name)
  | .array items =>
    if items.length ≤ names.length then
      some (items.map some ++ List.replicate (names.length - items.length) none)
    else none
  | _ => none

/-- The value of a record with one field. -/
def one? (name : String) (json : Json) : Option Json :=
  match fields? [name] json with
  | some [value] => value
  | _ => none

/-- The values of a record with two fields. -/
def two? (first second : String) (json : Json) : Option (Json × Json) :=
  match fields? [first, second] json with
  | some [some a, some b] => some (a, b)
  | _ => none

/-- The values of a record with three fields. -/
def three? (first second third : String) (json : Json) : Option (Json × Json × Json) :=
  match fields? [first, second, third] json with
  | some [some a, some b, some c] => some (a, b, c)
  | _ => none

/-- A version: an integer of 32 bits. -/
def version? (json : Json) : Option Int := do
  let value ← json.int?
  if -2147483648 ≤ value ∧ value ≤ 2147483647 then some value else none

/-- The value of a field that may be missing or null. -/
def optional? {α : Type} (read : Json → Option α) : Option Json → Option (Option α)
  | none | some .null => some none
  | some json => (read json).map some

/-! ### Starting a session -/

/-- The parameters of the request that starts a session. -/
structure Initialize where
  /-- The name of the root of the workspace. -/
  rootUri : Option String
  /-- The path of the root of the workspace. -/
  rootPath : Option String
  /-- The names of the folders of the workspace. -/
  folders : Option (List String)
deriving DecidableEq, Repr

/-- The parameters when there are none. -/
def Initialize.none : Initialize :=
  ⟨.none, .none, .none⟩

/-- The name of a folder of the workspace. -/
def folder? (json : Json) : Option String := do
  (← one? "uri" json).string?

/-- Reads the parameters of the request that starts a session. -/
def Initialize.ofJson? (json : Json) : Option Initialize := do
  match fields? ["rootUri", "rootPath", "workspaceFolders"] json with
  | some [uri, path, folders] =>
    let uri ← optional? Json.string? uri
    let path ← optional? Json.string? path
    let folders ← optional? (fun json => do (← json.list?).mapM folder?) folders
    return ⟨uri, path, folders⟩
  | _ => Option.none

/-- The root of the workspace: by its name, else the first folder, else by its path. -/
def Initialize.root? (p : Initialize) : Option Path :=
  let byName := p.rootUri.bind Uri.toPath?
  let byFolder := (p.folders.bind List.head?).bind Uri.toPath?
  byName <|> byFolder <|> p.rootPath.map Path.ofString

/-! ### Documents -/

/-- A document that was opened or changed: its name, its version and its text. -/
structure Edit where
  /-- The name of the document. -/
  uri : String
  /-- The version that the client gave to it. -/
  version : Int
  /-- The whole text. -/
  text : String
deriving DecidableEq, Repr

/-- Reads the opening of a document. -/
def opened? (json : Json) : Option Edit := do
  let (uri, version, text) ← three? "uri" "version" "text" (← one? "textDocument" json)
  return ⟨← uri.string?, ← version? version, ← text.string?⟩

/-- The text of one change. -/
def changeText? (json : Json) : Option String := do
  (← one? "text" json).string?

/-- Reads the change of a document. Every change holds the whole text, so the last one counts;
without changes there is nothing to do. -/
def changed? (json : Json) : Option (Option Edit) := do
  let (document, changes) ← two? "textDocument" "contentChanges" json
  let (uri, version) ← two? "uri" "version" document
  let uri ← uri.string?
  let version ← version? version
  let texts ← (← changes.list?).mapM changeText?
  return texts.getLast?.map fun text => ⟨uri, version, text⟩

/-- Reads the closing of a document. -/
def closed? (json : Json) : Option String := do
  (← one? "uri" (← one? "textDocument" json)).string?

/-! ### Commands -/

/-- Reads the name of a command to be executed. -/
def command? (json : Json) : Option String := do
  (← one? "command" json).string?

end PlanetServer.Params
