import PlanetServer.Diagnostic.Analysis
import PlanetServer.Workspace.Table

/-!
# The store of diagnostics

The store holds the latest diagnostics of each document and the revision they were found for. A
result for a revision older than the stored one is not kept. Closing a document stores an empty
list for the closing revision, so that a result that comes too late cannot bring its diagnostics
back.
-/

namespace PlanetServer

/-- What the store holds for one document. -/
structure Slot where
  /-- The revision the diagnostics were found for. -/
  revision : Nat
  /-- The diagnostics. -/
  diagnostics : List Diagnostic
deriving DecidableEq, Repr

/-- The latest diagnostics of each document. -/
structure Store where
  /-- The slots by document. -/
  slots : Table Slot
deriving Repr

namespace Store

/-- The store that holds nothing. -/
def empty : Store :=
  ⟨.empty⟩

/-- The diagnostics of a document. -/
def get (s : Store) (uri : String) : List Diagnostic :=
  ((s.slots.get? uri).map Slot.diagnostics).getD []

/-- The revision stored for a document, zero if there is none. -/
def revision (s : Store) (uri : String) : Nat :=
  ((s.slots.get? uri).map Slot.revision).getD 0

/-- Replaces the diagnostics of a document and leaves its revision as it was. -/
def set (s : Store) (uri : String) (diagnostics : List Diagnostic) : Store :=
  ⟨s.slots.insert uri ⟨s.revision uri, diagnostics⟩⟩

/-- Whether a result for a revision would be kept. -/
def accepts (s : Store) (uri : String) (revision : Nat) : Bool :=
  s.revision uri ≤ revision

/-- Replaces the diagnostics of a document unless a newer revision is stored, and says whether it
did. -/
def setIfNewer (s : Store) (uri : String) (revision : Nat) (diagnostics : List Diagnostic) :
    Bool × Store :=
  if s.accepts uri revision then (true, ⟨s.slots.insert uri ⟨revision, diagnostics⟩⟩)
  else (false, s)

/-- Forgets everything about a document. -/
def clear (s : Store) (uri : String) : Store :=
  ⟨s.slots.erase uri⟩

/-- Empties a document as of a revision. -/
def close (s : Store) (uri : String) (revision : Nat) : Store :=
  (s.setIfNewer uri revision []).2

/-- Analyzes a document and replaces whatever was stored for it. -/
def revalidate (s : Store) (locale : Locale) (uri text : String) : List Diagnostic × Store :=
  let diagnostics := analyze locale text
  (diagnostics, s.set uri diagnostics)

/-- Analyzes a document at a revision. There is no result when a newer revision is stored. -/
def revalidateAt (s : Store) (locale : Locale) (uri : String) (revision : Nat) (text : String) :
    Option (List Diagnostic) × Store :=
  let diagnostics := analyze locale text
  match s.setIfNewer uri revision diagnostics with
  | (true, s) => (some diagnostics, s)
  | (false, s) => (none, s)

end Store

end PlanetServer
