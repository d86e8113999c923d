import PlanetServer.Workspace.Table

/-!
# The documents of a session

Every opening, change and closing of a document takes a fresh revision from one counter, so the
revisions of a document only increase, even when the client starts its versions again.
-/

namespace PlanetServer

/-- An open document. -/
structure OpenDocument where
  /-- The version the client gave to it. -/
  version : Int
  /-- The revision the server gave to that version. -/
  revision : Nat
deriving DecidableEq, Repr

/-- The open documents and the last revision that was given out. -/
structure Documents where
  /-- The open documents by name. -/
  opened : Table OpenDocument
  /-- The last revision that was given out. -/
  lastRevision : Nat
deriving Repr

namespace Documents

/-- No document is open, and no revision was given out. -/
def empty : Documents :=
  ⟨.empty, 0⟩

/-- The state of a document, none if it is closed. -/
def state? (d : Documents) (uri : String) : Option OpenDocument :=
  d.opened.get? uri

/-- Opens a document, or gives an open one a new version. The result is its revision. -/
def openAt (d : Documents) (uri : String) (version : Int) : Nat × Documents :=
  let revision := d.lastRevision + 1
  (revision, ⟨d.opened.insert uri ⟨version, revision⟩, revision⟩)

/-- Closes a document. The result is the closing revision. -/
def close (d : Documents) (uri : String) : Nat × Documents :=
  let revision := d.lastRevision + 1
  (revision, ⟨d.opened.erase uri, revision⟩)

/-- Whether a revision is the latest one of an open document. -/
def isCurrent (d : Documents) (uri : String) (revision : Nat) : Bool :=
  (d.state? uri).any fun document => document.revision = revision

/-- Whether a document is open. -/
def isOpen (d : Documents) (uri : String) : Bool :=
  d.opened.contains uri

/-- The number of open documents. -/
def openCount (d : Documents) : Nat :=
  d.opened.size

end Documents

end PlanetServer
