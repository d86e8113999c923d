import PlanetServer.Toml.Basic

/-!
# TOML documents

How the lines of a document build its table. A key is given at most once, a table has at most one
header, and a table of one origin is not added to by lines of another kind:

* a header goes down through tables of any origin but braces, and through the last of several tables;
* a key with dots adds only to tables that keys with dots made.
-/

namespace PlanetServer.Toml

/-- The entries with another item under a key that is there. -/
def replace (key : String) (item : Item) : Entries → Entries
  | [] => []
  | (other, held) :: rest =>
    if other = key then (other, item) :: rest else (other, held) :: replace key item rest

/-- Adds a key to the entries of a table, `mayAdd` being whether the line may add to this very table.
A key with dots goes down through tables that it makes, that keys with dots made, or that headers
implied, but it adds only to those that keys with dots made. -/
def assign? : (path : List String) → (key : String) → Item → (mayAdd : Bool) → Entries →
    Option Entries
  | [], key, item, mayAdd, entries =>
    match mayAdd, entries.lookup key with
    | true, none => some (entries ++ [(key, item)])
    | _, _ => none
  | step :: path, key, item, _, entries =>
    match entries.lookup step with
    | none => do
      let inner ← assign? path key item true []
      return entries ++ [(step, .table .dotted inner)]
    | some (.table .dotted inner) => do
      let inner ← assign? path key item true inner
      return replace step (.table .dotted inner) entries
    | some (.table .implied inner) => do
      let inner ← assign? path key item false inner
      return replace step (.table .implied inner) entries
    | some (.tables each) => do
      let last ← assign? path key item false (each.getLast?.getD [])
      return replace step (.tables (each.dropLast ++ [last])) entries
    | some _ => none

/-- Changes the entries of the table that a header's path leads to, and makes the tables on the
way that are not there. -/
def descend? (change : Entries → Option Entries) : (path : List String) → Entries → Option Entries
  | [], entries => change entries
  | step :: path, entries =>
    match entries.lookup step with
    | none => do
      let inner ← descend? change path []
      return entries ++ [(step, .table .implied inner)]
    | some (.table .inline _) => none
    | some (.table origin inner) => do
      let inner ← descend? change path inner
      return replace step (.table origin inner) entries
    | some (.tables each) => do
      let last ← descend? change path (each.getLast?.getD [])
      return replace step (.tables (each.dropLast ++ [last])) entries
    | some _ => none

/-- Opens a table by its header. -/
def openTable? (key : String) (entries : Entries) : Option Entries :=
  match entries.lookup key with
  | none => some (entries ++ [(key, .table .header [])])
  | some (.table .implied inner) => some (replace key (.table .header inner) entries)
  | some _ => none

/-- Opens one more of several tables by its header. -/
def openTables? (key : String) (entries : Entries) : Option Entries :=
  match entries.lookup key with
  | none => some (entries ++ [(key, .tables [[]])])
  | some (.tables each) => some (replace key (.tables (each ++ [[]])) entries)
  | some _ => none

/-- A line of a document. The last step of a path stands apart from those before it. -/
inductive Line where
  /-- A key and its value. -/
  | assign (path : List String) (key : String) (item : Item)
  /-- The header of a table. -/
  | table (path : List String) (key : String)
  /-- The header of one more of several tables. -/
  | tables (path : List String) (key : String)

/-- A document of which some lines are read: its entries, and the path of the table that the next
line stands in. -/
structure Document where
  /-- The entries. -/
  entries : Entries
  /-- The path of the table that the next line stands in. -/
  current : List String

/-- The document without lines. -/
def Document.empty : Document :=
  ⟨[], []⟩

/-- The document with one more line. -/
def Document.add? (d : Document) : Line → Option Document
  | .assign path key item => do
    let entries ← descend? (assign? path key item true) d.current d.entries
    return ⟨entries, d.current⟩
  | .table path key => do
    let entries ← descend? (openTable? key) path d.entries
    return ⟨entries, path ++ [key]⟩
  | .tables path key => do
    let entries ← descend? (openTables? key) path d.entries
    return ⟨entries, path ++ [key]⟩

/-- The document of some lines. -/
def Document.ofLines? (lines : List Line) : Option Document :=
  lines.foldlM Document.add? .empty

end PlanetServer.Toml
