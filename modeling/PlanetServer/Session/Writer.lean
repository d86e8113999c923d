import PlanetServer.Json.Basic
import PlanetServer.Workspace.Table

/-!
# The writer

All messages to the client go through one queue, and a single writer takes them out in order. The
diagnostics of a document carry the revision they were found for, and the writer drops those that are
older than diagnostics of the same document it has already seen. So a slow analysis cannot replace a
newer result, nor bring anything back after a document was closed.
-/

namespace PlanetServer

/-- What the writer is asked to do. -/
inductive Command where
  /-- To write a message. -/
  | send (frame : Json)
  /-- To write the diagnostics of a document, unless they are too old. -/
  | publish (uri : String) (revision : Nat) (frame : Json)
  /-- To stop writing. -/
  | shutdown

/-- The state of the writer. -/
structure Writer where
  /-- The greatest revision seen for each document. -/
  published : Table Nat
  /-- Whether it was asked to stop. -/
  stopped : Bool
deriving Repr

namespace Writer

/-- A writer that has seen nothing. -/
def start : Writer :=
  ⟨.empty, false⟩

/-- The message that the writer writes for a command, if any, and its state after it. -/
def step (w : Writer) (c : Command) : Option Json × Writer :=
  if w.stopped then (none, w)
  else
    match c with
    | .send frame => (some frame, w)
    | .publish uri revision frame =>
      if revision < (w.published.get? uri).getD revision then (none, w)
      else (some frame, { w with published := w.published.insert uri revision })
    | .shutdown => (none, { w with stopped := true })

/-- The messages that the writer writes for commands, and its state after them. -/
def write (w : Writer) : List Command → List Json × Writer
  | [] => ([], w)
  | c :: cs =>
    let (frame, w) := w.step c
    let (frames, w) := w.write cs
    (frame.toList ++ frames, w)

theorem write_append (w : Writer) (cs ds : List Command) :
  (w.write (cs ++ ds)).1 = (w.write cs).1 ++ ((w.write cs).2.write ds).1
  := by
  induction cs generalizing w with
  | nil => rfl
  | cons c cs ih => simp [write, ih]

end Writer

end PlanetServer
