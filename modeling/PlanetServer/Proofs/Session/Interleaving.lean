import Mathlib.Logic.Relation
import PlanetServer.Proofs.Session.Guards
import PlanetServer.Session.Server

/-!
# Sessions with interleaved work

The reader, the validations and the writer of a session work at the same time. Here their steps
come in any order: the reader handles the events of the documents one after the other, each
validation goes through its stages, and the writer takes commands out of the queue.

* `Moment` is the state of all of them at one moment, with a record of the events that were taken
  and of the publications that were written.
* `Step` is one step of one of them, and `Run` is any number of steps.
* `server_edit_run` and `server_close_run` say that a server which does all the work for an event
  before the next one goes through one of the runs.
-/

namespace PlanetServer

/-! ### Events -/

/-- What the client says about a document. -/
inductive Event where
  /-- It was opened or changed. -/
  | edit (e : Params.Edit)
  /-- It was closed. -/
  | close (uri : String)

namespace Event

/-- The document that an event is about. -/
def uri : Event → String
  | edit e => e.uri
  | close uri => uri

/-- The version that the client gave to the document, none if it was closed. -/
def version? : Event → Option Int
  | edit e => some e.version
  | close _ => none

/-- The diagnostics of the document after an event. -/
def diagnostics (locale : Locale) : Event → List Diagnostic
  | edit e => analyze locale e.text
  | close _ => []

end Event

/-- An event and the revision that it got. -/
structure Entry where
  /-- The revision. -/
  revision : Nat
  /-- The event. -/
  event : Event

namespace Entry

/-- The document that an event is about. -/
def uri (x : Entry) : String :=
  x.event.uri

/-- The state of the document after an event, none if it was closed. -/
def document? (x : Entry) : Option OpenDocument :=
  x.event.version?.map fun version => ⟨version, x.revision⟩

/-- What is to be stored for an event. -/
def slot (locale : Locale) (x : Entry) : Slot :=
  ⟨x.revision, x.event.diagnostics locale⟩

/-- What is to be published for an event. -/
def publication (locale : Locale) (x : Entry) : Publication :=
  ⟨x.uri, x.revision, Payload.publish x.uri x.event.version? (x.event.diagnostics locale)⟩

/-- The command to publish what an event asks for. -/
def command (locale : Locale) (x : Entry) : Command :=
  .publish x.uri x.revision (x.publication locale).frame

end Entry

/-- The last event about a document, of events in the opposite order. -/
def latest? (history : List Entry) (uri : String) : Option Entry :=
  history.find? fun x => x.uri = uri

theorem latest?_cons (x : Entry) (history : List Entry) (uri : String) :
  latest? (x :: history) uri = if x.uri = uri then some x else latest? history uri
  := by
  by_cases same : x.uri = uri <;> simp [latest?, same]

/-- The edit that a validation is about, with its revision. -/
def Validation.entry (v : Validation) : Entry :=
  ⟨v.revision, .edit ⟨v.uri, v.version, v.text⟩⟩

/-! ### Moments -/

/-- How far the reader has come with the event that it handles. -/
inductive Reader where
  /-- It can take the next event. -/
  | ready
  /-- It closed a document at a revision, and has to empty what is stored for it. -/
  | emptying (uri : String) (revision : Nat)
  /-- It has to ask for the empty list of the document to be published. -/
  | announcing (uri : String) (revision : Nat)

namespace Reader

/-- The closing that the reader is busy with. -/
def closing? : Reader → Option Entry
  | ready => none
  | emptying uri revision | announcing uri revision => some ⟨revision, .close uri⟩

/-- The closing for which the reader still has to empty what is stored. -/
def unstored? : Reader → Option Entry
  | emptying uri revision => some ⟨revision, .close uri⟩
  | _ => none

end Reader

/-- All parts of a session at one moment. -/
structure Moment where
  /-- The documents. -/
  documents : Documents
  /-- The stored diagnostics. -/
  store : Store
  /-- The reader. -/
  reader : Reader
  /-- The validations that were started. -/
  validations : List Validation
  /-- The commands that wait for the writer, the first of them in front. -/
  queue : List Command
  /-- The writer. -/
  writer : Writer
  /-- The events that the reader has taken, the last of them in front. -/
  history : List Entry
  /-- The publications that were written, the last of them in front. -/
  written : List Publication

namespace Moment

/-- The start of a session. -/
def start : Moment :=
  ⟨.empty, .empty, .ready, [], [], .start, [], []⟩

/-- The reader takes an edit: the document gets a fresh revision, and a validation is started. -/
def edit (s : Moment) (e : Params.Edit) : Moment :=
  let (revision, documents) := s.documents.openAt e.uri e.version
  { s with
    documents
    validations := s.validations ++ [.start e.uri e.version revision e.text]
    history := ⟨revision, .edit e⟩ :: s.history }

/-- The reader takes a closing: the document gets a last revision. -/
def close (s : Moment) (uri : String) : Moment :=
  let (revision, documents) := s.documents.close uri
  { s with documents, reader := .emptying uri revision
           history := ⟨revision, .close uri⟩ :: s.history }

/-- The reader empties what is stored for a document that it closed. -/
def empty (s : Moment) (uri : String) (revision : Nat) : Moment :=
  { s with store := s.store.close uri revision, reader := .announcing uri revision }

/-- The reader asks for the empty list of a document that it closed to be published. -/
def announce (s : Moment) (uri : String) (revision : Nat) : Moment :=
  { s with queue := s.queue ++ [.publish uri revision (Payload.publish uri none [])]
           reader := .ready }

/-- A validation, between others, takes a step. -/
def validate (locale : Locale) (s : Moment) (before : List Validation) (v : Validation)
    (after : List Validation) : Moment :=
  let (v, store, commands) := v.step locale s.documents s.store
  { s with store, validations := before ++ v :: after, queue := s.queue ++ commands }

/-- The writer takes the first command, and leaves the others. -/
def write (s : Moment) (c : Command) (rest : List Command) : Moment :=
  let (frame, writer) := s.writer.step c
  { s with writer, queue := rest, written := (c.publication? frame).toList ++ s.written }

/-- The next moment, after a step of the reader, of a validation or of the writer. -/
inductive Step (locale : Locale) (s : Moment) : Moment → Prop where
  | edit (e : Params.Edit) (ready : s.reader = .ready) : Step locale s (s.edit e)
  | close (uri : String) (ready : s.reader = .ready) : Step locale s (s.close uri)
  | empty {uri : String} {revision : Nat} (busy : s.reader = .emptying uri revision) :
    Step locale s (s.empty uri revision)
  | announce {uri : String} {revision : Nat} (busy : s.reader = .announcing uri revision) :
    Step locale s (s.announce uri revision)
  | validate (before after : List Validation) {v : Validation}
      (among : s.validations = before ++ v :: after) :
    Step locale s (s.validate locale before v after)
  | write {c : Command} {rest : List Command} (first : s.queue = c :: rest) :
    Step locale s (s.write c rest)

/-- Any number of steps. -/
abbrev Run (locale : Locale) : Moment → Moment → Prop :=
  Relation.ReflTransGen (Step locale)

/-- Nothing is left to do for the validations and for the writer. -/
structure Quiet (s : Moment) : Prop where
  /-- All validations have ended. -/
  finished : ∀ v ∈ s.validations, v.stage = .finished
  /-- No command waits. -/
  drained : s.queue = []

/-! ### Work without interleaving -/

/-- The steps of a closing, with nothing in between, do what the server does. -/
theorem server_close_run (locale : Locale) (server : Server) (uri : String) {s : Moment}
    (ready : s.reader = .ready) (documents : s.documents = server.documents)
    (store : s.store = server.store) :
  ∃ t, Run locale s t ∧ t.reader = .ready ∧ t.documents = (server.close uri).1.documents
    ∧ t.store = (server.close uri).1.store
    ∧ t.queue = s.queue ++ (server.close uri).2.commands
  := by
  have closed : Run locale s (s.close uri) := .single (.close uri ready)
  have emptied := closed.tail (.empty rfl)
  have announced := emptied.tail (.announce rfl)
  refine ⟨_, announced, rfl, ?_, ?_, ?_⟩ <;>
    simp only [announce, empty, close, Server.close, Documents.close, documents, store]

/-- The steps of a validation, with nothing in between. -/
theorem validation_run (locale : Locale) (count : Nat) {s : Moment} {before : List Validation}
    {v : Validation} (last : s.validations = before ++ [v]) :
  ∃ t, Run locale s t ∧ t.reader = s.reader ∧ t.documents = s.documents
    ∧ t.store = (Validation.steps locale s.documents count s.store v).1
    ∧ t.queue = s.queue ++ (Validation.steps locale s.documents count s.store v).2
  := by
  induction count generalizing s v with
  | zero => exact ⟨s, .refl, rfl, rfl, rfl, by simp [Validation.steps]⟩
  | succ count ih =>
    have first : Step locale s (s.validate locale before v []) := .validate before [] last
    obtain ⟨t, run, reader, documents, store, queue⟩ :=
      ih (s := s.validate locale before v []) (v := (v.step locale s.documents s.store).1) rfl
    refine ⟨t, .head first run, reader, documents, store, ?_⟩
    rw [queue]
    simp only [validate, Validation.steps, List.append_assoc]

/-- The steps of an edit, with nothing in between, do what the server does. -/
theorem server_edit_run (around : Surroundings) (server : Server) (e : Params.Edit) {s : Moment}
    (ready : s.reader = .ready) (documents : s.documents = server.documents)
    (store : s.store = server.store) {job : Job} (started : (server.edit e).2.job = some job) :
  ∃ t, Run server.settings.locale s t ∧ t.reader = .ready
    ∧ t.documents = ((server.edit e).1.finish around job).1.documents
    ∧ t.store = ((server.edit e).1.finish around job).1.store
    ∧ t.queue = s.queue ++ ((server.edit e).1.finish around job).2
  := by
  obtain rfl := Option.some.inj started
  obtain ⟨t, run, reader, settled, stored, queue⟩ :=
    validation_run server.settings.locale Validation.stepCount (s := s.edit e) rfl
  refine ⟨t, .head (.edit e ready) run, reader.trans ready, ?_, ?_, ?_⟩
  · simp only [settled, edit, Server.finish, Server.edit, documents]
  · simp only [stored, edit, Server.finish, Server.edit, Validation.run, documents, store]
  · simp only [queue, edit, Server.finish, Server.edit, Validation.run, documents, store]

end Moment

end PlanetServer
