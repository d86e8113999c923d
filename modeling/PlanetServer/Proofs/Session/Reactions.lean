import PlanetServer.Proofs.Protocol.Editor
import PlanetServer.Proofs.Session.Interleaving

/-!
# What the server does about a message

A message ends the session, tells an event of a document, asks for a build, or concerns neither the
documents nor the stored diagnostics.

* `Event.ofFrame?` is the event that a message tells.
* `Server.Passes` says what stays as it is when a message concerns no document.
* `Server.dispatch_handles` says all that the server does about a message that asks for no build.
-/

namespace PlanetServer

/-! ### Messages of the client -/

namespace Session

/-- Whether a message ends the session. -/
def isExit (frame : Json) : Bool :=
  match Incoming.ofFrame? frame with
  | some (.notification method _) => method = "exit"
  | _ => false

/-- Whether a message starts a session that was not started yet. -/
def isStart (frame : Json) : Bool :=
  match Incoming.ofFrame? frame with
  | some (.request _ method params) =>
    method = "initialize" && (Server.initializeParams? params).isSome
  | _ => false

/-- Whether a message asks for a build. -/
def isBuild (frame : Json) : Bool :=
  match Incoming.ofFrame? frame with
  | some (.request _ method params) =>
    method = "workspace/executeCommand" && Params.command? params = some Payload.compileCommand
  | _ => false

end Session

namespace Event

/-- The event that a notification tells, none if it tells none or cannot be read. -/
def ofNotification? (method : String) (params : Json) : Option Event :=
  match method with
  | "textDocument/didOpen" => (Params.opened? params).map edit
  | "textDocument/didChange" => (Params.changed? params).join.map edit
  | "textDocument/didClose" => (Params.closed? params).map close
  | _ => none

/-- The event that a message tells. -/
def ofFrame? (frame : Json) : Option Event :=
  match Incoming.ofFrame? frame with
  | some (.notification method params) => ofNotification? method params
  | _ => none

/-- The message that publishes the diagnostics of the document after an event. -/
def publication (locale : Locale) (event : Event) : Json :=
  Payload.publish event.uri event.version? (event.diagnostics locale)

end Event

/-! ### Messages to the client -/

namespace Payload

theorem method?_success (id result : Json) :
  (success id result).method? = none
  := rfl

theorem method?_failure (id : Json) (code : Int) (message : String) :
  (failure id code message).method? = none
  := rfl

theorem isPublication_success (id result : Json) :
  isPublication (success id result) = false
  := by
  rw [isPublication, method?_success]
  rfl

theorem isPublication_failure (id : Json) (code : Int) (message : String) :
  isPublication (failure id code message) = false
  := by
  rw [isPublication, method?_failure]
  rfl

theorem isPublication_logMessage (level : Level) (message : String) :
  isPublication (logMessage level message) = false
  := by
  rw [isPublication, logMessage, method?_notification]
  decide

end Payload

/-! ### What the server does about a message -/

namespace Server

/-- Takes an event. -/
def take (s : Server) : Event → Server × Reaction
  | .edit e => s.edit e
  | .close uri => s.close uri

theorem noticeDocument_eq (s : Server) (method : String) (params : Json) :
  s.noticeDocument method params
    = match Event.ofNotification? method params with
      | some event => s.take event
      | none => (s, .none)
  := by
  unfold noticeDocument
  split
  · rw [Event.ofNotification?]
    cases Params.opened? params <;> rfl
  · rw [Event.ofNotification?]
    rcases Params.changed? params with _ | _ | e <;> rfl
  · rw [Event.ofNotification?]
    cases Params.closed? params <;> rfl
  · rw [Event.ofNotification?] <;> assumption

/-- A message is handled without regard to the documents: nothing is published, no job is started
and the session goes on. -/
structure Passes (s : Server) (starts : Bool) (result : Server × Reaction) : Prop where
  /-- The documents stay. -/
  documents : result.1.documents = s.documents
  /-- The stored diagnostics stay. -/
  store : result.1.store = s.store
  /-- The settings stay. -/
  settings : result.1.settings = s.settings
  /-- The session may be started. -/
  initialized : result.1.initialized = (s.initialized || starts)
  /-- No job is started. -/
  job : result.2.job = none
  /-- The session does not end. -/
  ended : result.2.ended = none
  /-- Nothing is published. -/
  quiet : ∀ c ∈ result.2.commands, ∃ frame, c = .send frame ∧ isPublication frame = false

theorem passes_none (s : Server) : s.Passes false (s, .none) where
  documents := rfl
  store := rfl
  settings := rfl
  initialized := (Bool.or_false _).symm
  job := rfl
  ended := rfl
  quiet := nofun

/-- An answer passes, though it may start the session or announce its end. -/
theorem passes_send {s t : Server} {starts : Bool} {frame : Json}
    (documents : t.documents = s.documents) (store : t.store = s.store)
    (settings : t.settings = s.settings) (initialized : t.initialized = (s.initialized || starts))
    (other : isPublication frame = false) :
  s.Passes starts (t, .send frame) where
  documents := documents
  store := store
  settings := settings
  initialized := initialized
  job := rfl
  ended := rfl
  quiet _ member := ⟨frame, List.mem_singleton.mp member, other⟩

theorem passes_refused (s : Server) (id : Json) (e : RequestError) :
  s.Passes false (s, e.response id)
  := by
  apply passes_send rfl rfl rfl (Bool.or_false _).symm
  apply Payload.isPublication_failure

theorem Passes.of_initialized {s : Server} {starts : Bool} {result : Server × Reaction}
    (passes : s.Passes false result) (started : s.initialized = true) :
  s.Passes starts result :=
  { passes with
    initialized := by rw [passes.initialized, started, Bool.true_or, Bool.true_or] }

theorem openSession_passes {s : Server} {id params : Json} :
  s.Passes (initializeParams? params).isSome (s.openSession id params)
  := by
  unfold openSession
  split
  · rename_i given known
    rw [known]
    exact passes_send rfl rfl rfl (Bool.or_true _).symm (Payload.isPublication_success ..)
  · rename_i unread
    rw [unread]
    apply passes_refused

theorem answerActive_passes {s : Server} {directory : Path} {id params : Json} {method : String}
    (noBuild : (method = "workspace/executeCommand"
      && Params.command? params = some Payload.compileCommand) = false) :
  s.Passes false (s.answerActive directory id method params)
  := by
  unfold answerActive
  split
  · exact passes_send rfl rfl rfl (Bool.or_false _).symm (Payload.isPublication_success ..)
  · exact passes_send rfl rfl rfl (Bool.or_false _).symm (Payload.isPublication_success ..)
  · unfold execute
    split
    · apply passes_refused
    · rename_i command given
      have other : command ≠ Payload.compileCommand := by
        rintro rfl
        simp [given] at noBuild
      rw [if_neg other]
      apply passes_refused
  · apply passes_refused

/-- A request that asks for no build passes. -/
theorem answer_passes {s : Server} {directory : Path} {id params : Json} {method : String}
    (noBuild : (method = "workspace/executeCommand"
      && Params.command? params = some Payload.compileCommand) = false) :
  s.Passes (method = "initialize" && (initializeParams? params).isSome)
    (s.answer directory id method params)
  := by
  unfold answer
  split
  · rename_i opens
    rw [decide_eq_true opens, Bool.true_and]
    split
    · apply (passes_refused ..).of_initialized ‹_›
    · apply openSession_passes
  · rename_i other
    rw [decide_eq_false other, Bool.false_and]
    split
    · apply passes_refused
    split
    · apply passes_refused
    · apply answerActive_passes noBuild

/-- All that the server does about a message that asks for no build. -/
inductive Handles (s : Server) (frame : Json) : Server × Reaction → Prop where
  /-- The session ends. -/
  | exits (exit : Session.isExit frame = true) :
    Handles s frame (s, ⟨[], none, some s.shutdownRequested⟩)
  /-- The server takes an event. -/
  | takes (stays : Session.isExit frame = false) (started : s.initialized = true) {event : Event}
      (tells : Event.ofFrame? frame = some event) :
    Handles s frame (s.take event)
  /-- The message passes. -/
  | passes (stays : Session.isExit frame = false)
      (untold : s.initialized = false ∨ Event.ofFrame? frame = none)
      {result : Server × Reaction} (passes : s.Passes (Session.isStart frame) result) :
    Handles s frame result

theorem Handles.ignored {s : Server} {frame : Json} (stays : Session.isExit frame = false)
    (untold : s.initialized = false ∨ Event.ofFrame? frame = none)
    (unstarted : Session.isStart frame = false) :
  s.Handles frame (s, .none)
  := by
  apply Handles.passes stays untold
  rw [unstarted]
  apply passes_none

theorem notice_handles {s : Server} {frame params : Json} {method : String}
    (told : Incoming.ofFrame? frame = some (.notification method params)) :
  s.Handles frame (s.notice method params)
  := by
  have exit : Session.isExit frame = decide (method = "exit") := by simp [Session.isExit, told]
  have starts : Session.isStart frame = false := by simp [Session.isStart, told]
  have tells : Event.ofFrame? frame = Event.ofNotification? method params := by
    simp [Event.ofFrame?, told]
  unfold notice
  split
  · apply Handles.exits
    rwa [exit, decide_eq_true_eq]
  rename_i other
  have stays : Session.isExit frame = false := by rw [exit, decide_eq_false other]
  split
  · rename_i same
    subst same
    apply Handles.passes stays (.inr tells)
    rw [starts]
    apply passes_send rfl rfl rfl (Bool.or_false _).symm
    apply Payload.isPublication_logMessage
  split
  · rename_i started
    rw [noticeDocument_eq]
    cases known : Event.ofNotification? method params with
    | some event => apply Handles.takes stays started (tells.trans known)
    | none => apply Handles.ignored stays (.inr (tells.trans known)) starts
  · rename_i unstarted
    apply Handles.ignored stays (.inl (by simpa using unstarted)) starts

theorem dispatch_handles (s : Server) (directory : Path) {frame : Json}
    (noBuild : Session.isBuild frame = false) :
  s.Handles frame (s.dispatch directory frame)
  := by
  unfold dispatch
  split
  · rename_i id method params told
    have starts : Session.isStart frame
        = (decide (method = "initialize") && (initializeParams? params).isSome) := by
      simp [Session.isStart, told]
    rw [Session.isBuild, told] at noBuild
    apply Handles.passes (by simp [Session.isExit, told]) (.inr (by simp [Event.ofFrame?, told]))
    rw [starts]
    apply answer_passes noBuild
  · apply notice_handles ‹_›
  · rename_i told
    apply Handles.ignored (by simp [Session.isExit, told]) (.inr (by simp [Event.ofFrame?, told]))
      (by simp [Session.isStart, told])
  · rename_i told
    apply Handles.ignored (by simp [Session.isExit, told]) (.inr (by simp [Event.ofFrame?, told]))
      (by simp [Session.isStart, told])

end Server

end PlanetServer
