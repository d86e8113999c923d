import PlanetServer.Proofs.Session.Lifecycle

/-!
# Messages without effect

A message that the server does not understand, or that comes at the wrong time, changes nothing. If it
is a request, it is answered with an error, and else it is ignored. So a session goes on as if such a
message had never come.

* `Server.Ignores` lists the messages that are ignored, and `Server.Refuses` the requests that are
  answered with an error, with the error.
* `Server.ignores_iff` and `Server.dispatch_of_refuses` say what the server does about them, and
  `Session.refuses_of_hasError` that no other request is answered with an error.
* `leaveOut` leaves out some of the members of a list, and `Session.exchanges_leaveOut` says that
  messages which are rejected can be left out of a session.
-/

namespace PlanetServer

/-! ### Changes without a text -/

theorem array_of_list? {json : Json} {items : List Json} (listed : json.list? = some items) :
  json = .array items
  := by
  cases json with
  | array => rw [Option.some.inj listed]
  | _ => cases listed

/-- A change of a document tells no edit if it is not understood, or if its list of changes is empty,
and only then. -/
theorem Params.join_changed?_eq_none_iff (params : Json) :
  (changed? params).join = none
    ↔ changed? params = none
      ∨ ∃ document, two? "textDocument" "contentChanges" params = some (document, .array [])
  := by
  constructor
  · intro untold
    cases read : changed? params with
    | none => exact .inl rfl
    | some edit =>
      right
      rw [read, Option.join_some] at untold
      subst untold
      unfold changed? at read
      -- one bind for each part that is read; only the list of changes matters
      obtain ⟨⟨document, changes⟩, given, read⟩ := Option.bind_eq_some_iff.mp read
      obtain ⟨_, -, read⟩ := Option.bind_eq_some_iff.mp read
      obtain ⟨_, -, read⟩ := Option.bind_eq_some_iff.mp read
      obtain ⟨_, -, read⟩ := Option.bind_eq_some_iff.mp read
      obtain ⟨items, listed, read⟩ := Option.bind_eq_some_iff.mp read
      obtain ⟨texts, read, last⟩ := Option.bind_eq_some_iff.mp read
      have empty : texts = [] := by simpa using last
      subst empty
      cases items with
      | nil =>
        use document
        rw [given, array_of_list? listed]
      | cons item items =>
        obtain ⟨_, -, more⟩ := Option.bind_eq_some_iff.mp (List.mapM_cons.symm.trans read)
        obtain ⟨_, -, more⟩ := Option.bind_eq_some_iff.mp more
        cases more
  · rintro (unread | ⟨document, given⟩)
    · rw [unread]
      rfl
    · unfold changed?
      rw [given]
      simp only [Option.bind_eq_bind, Option.bind_some]
      cases two? "uri" "version" document with
      | none => rfl
      | some pair =>
        cases uri : pair.1.string? with
        | none => simp [uri]
        | some _ =>
          cases version : version? pair.2 with
          | none => simp [uri, version]
          | some _ => simp [uri, version, Json.list?]

namespace Server

/-! ### Messages that are ignored -/

/-- The notifications that the server knows. -/
def notifications : List String :=
  ["exit", "initialized", "textDocument/didOpen", "textDocument/didChange",
    "textDocument/didClose"]

/-- The messages that are ignored. -/
inductive Ignores (s : Server) (frame : Json) : Prop where
  /-- The frame holds no message. -/
  | malformed (unread : Incoming.ofFrame? frame = none)
  /-- It is the answer to a request, though the server asks for nothing. -/
  | response {id : Json} (told : Incoming.ofFrame? frame = some (.response id))
  /-- It is a notification that comes before the start of the session. -/
  | early {method : String} {params : Json}
      (told : Incoming.ofFrame? frame = some (.notification method params))
      (unstarted : s.initialized = false) (stays : method ≠ "exit") (other : method ≠ "initialized")
  /-- It is a notification that the server does not know. -/
  | unknown {method : String} {params : Json}
      (told : Incoming.ofFrame? frame = some (.notification method params))
      (unknown : method ∉ notifications)
  /-- A document was saved. -/
  | saved {params : Json}
      (told : Incoming.ofFrame? frame = some (.notification "textDocument/didSave" params))
  /-- A document was opened, with parameters that are not understood. -/
  | opened {params : Json}
      (told : Incoming.ofFrame? frame = some (.notification "textDocument/didOpen" params))
      (unread : Params.opened? params = none)
  /-- A document was changed, with parameters that are not understood. -/
  | changed {params : Json}
      (told : Incoming.ofFrame? frame = some (.notification "textDocument/didChange" params))
      (unread : Params.changed? params = none)
  /-- A document was changed, but the list of changes is empty. -/
  | unchanged {params document : Json}
      (told : Incoming.ofFrame? frame = some (.notification "textDocument/didChange" params))
      (empty : Params.two? "textDocument" "contentChanges" params = some (document, .array []))
  /-- A document was closed, with parameters that are not understood. -/
  | closed {params : Json}
      (told : Incoming.ofFrame? frame = some (.notification "textDocument/didClose" params))
      (unread : Params.closed? params = none)

theorem dispatch_notification {s : Server} {frame params : Json} {method : String}
    (told : Incoming.ofFrame? frame = some (.notification method params)) (directory : Path) :
  s.dispatch directory frame = s.notice method params
  := by
  rw [dispatch, told]

theorem dispatch_request {s : Server} {frame id params : Json} {method : String}
    (told : Incoming.ofFrame? frame = some (.request id method params)) (directory : Path) :
  s.dispatch directory frame = s.answer directory id method params
  := by
  rw [dispatch, told]

/-- A notification is ignored if it comes too early or tells no event. -/
theorem dispatch_of_untold {s : Server} {frame params : Json} {method : String}
    (told : Incoming.ofFrame? frame = some (.notification method params)) (stays : method ≠ "exit")
    (other : method ≠ "initialized")
    (untold : s.initialized = false ∨ Event.ofNotification? method params = none)
    (directory : Path) :
  s.dispatch directory frame = (s, .none)
  := by
  rw [dispatch_notification told, notice, if_neg stays, if_neg other]
  split
  · rename_i started
    have none : Event.ofNotification? method params = none := by simpa [started] using untold
    rw [noticeDocument_eq, none]
  · rfl

/-- A notification that the server does not know tells no event. -/
theorem ofNotification?_of_unknown {method : String} (unknown : method ∉ notifications)
    (params : Json) :
  Event.ofNotification? method params = none
  := by
  unfold Event.ofNotification?
  split
  · exact absurd (by decide) unknown
  · exact absurd (by decide) unknown
  · exact absurd (by decide) unknown
  · rfl

theorem dispatch_of_ignores {s : Server} {frame : Json} (ignores : s.Ignores frame)
    (directory : Path) :
  s.dispatch directory frame = (s, .none)
  := by
  cases ignores with
  | malformed unread => rw [dispatch, unread]
  | response told => rw [dispatch, told]
  | early told unstarted stays other => exact dispatch_of_untold told stays other (.inl unstarted) _
  | @unknown method params told unknown =>
    have known {name : String} (among : name ∈ notifications) : method ≠ name := by
      rintro rfl
      exact unknown among
    apply dispatch_of_untold told (known (by decide)) (known (by decide))
    exact .inr (ofNotification?_of_unknown unknown params)
  | @saved params told =>
    apply dispatch_of_untold told (by decide) (by decide)
    exact .inr (ofNotification?_of_unknown (by decide) params)
  | opened told unread =>
    apply dispatch_of_untold told (by decide) (by decide)
    simp [Event.ofNotification?, unread]
  | changed told unread =>
    apply dispatch_of_untold told (by decide) (by decide)
    simp [Event.ofNotification?, unread]
  | @unchanged params document told empty =>
    have untold := (Params.join_changed?_eq_none_iff params).mpr (.inr ⟨document, empty⟩)
    apply dispatch_of_untold told (by decide) (by decide)
    simp [Event.ofNotification?, untold]
  | closed told unread =>
    apply dispatch_of_untold told (by decide) (by decide)
    simp [Event.ofNotification?, unread]

theorem take_ne_none (s t : Server) (event : Event) :
  s.take event ≠ (t, .none)
  := by
  cases event with
  | edit e =>
    intro same
    cases congrArg (fun result => result.2.job.isSome) same
  | close uri =>
    intro same
    cases congrArg (fun result => result.2.commands.length) same

/-- A notification about which nothing is done is one of those that are ignored. -/
theorem ignores_of_notice {s t : Server} {frame params : Json} {method : String}
    (told : Incoming.ofFrame? frame = some (.notification method params))
    (nothing : s.notice method params = (t, .none)) :
  s.Ignores frame
  := by
  unfold notice at nothing
  split at nothing
  · cases congrArg (fun result => result.2.ended.isSome) nothing
  rename_i stays
  split at nothing
  · cases congrArg (fun result => result.2.commands.length) nothing
  rename_i other
  split at nothing
  · rw [noticeDocument_eq] at nothing
    cases told' : Event.ofNotification? method params with
    | some event =>
      rw [told'] at nothing
      exact absurd nothing (s.take_ne_none t event)
    | none =>
      unfold Event.ofNotification? at told'
      split at told'
      · apply Ignores.opened told
        simpa using told'
      · rcases (Params.join_changed?_eq_none_iff params).mp (by simpa using told')
          with unread | ⟨document, empty⟩
        · apply Ignores.changed told unread
        · apply Ignores.unchanged told empty
      · apply Ignores.closed told
        simpa using told'
      · rename_i opened changed closed
        apply Ignores.unknown told
        simpa [notifications, stays, other] using ⟨opened, changed, closed⟩
  · rename_i unstarted
    apply Ignores.early told (by simpa using unstarted) stays other

/-- The server does nothing about the messages that it ignores, and about no others. -/
theorem ignores_iff (s : Server) (directory : Path) (frame : Json) :
  s.Ignores frame ↔ s.dispatch directory frame = (s, .none)
  := by
  constructor
  · intro ignores
    apply dispatch_of_ignores ignores
  · intro nothing
    cases told : Incoming.ofFrame? frame with
    | none => exact .malformed told
    | some incoming =>
      cases incoming with
      | response id => exact .response told
      | notification method params =>
        rw [dispatch_notification told] at nothing
        apply ignores_of_notice told nothing
      | request id method params =>
        have decides := s.answer_decides directory id params method
        rw [← dispatch_request told, nothing] at decides
        generalize nothing' : (s, Reaction.none) = result at decides
        cases decides with
        | replies t reply verdict => cases congrArg (fun result => result.2.commands.length) nothing'
        | builds c asked verdict => cases congrArg (fun result => result.2.job.isSome) nothing'

/-! ### Requests that are refused -/

/-- The requests that the server knows. -/
def requests : List String :=
  ["initialize", "shutdown", "textDocument/completion", "workspace/executeCommand"]

/-- The requests that are refused, with their identifiers and the errors. -/
inductive Refuses (s : Server) (frame id : Json) : RequestError → Prop where
  /-- The session was not started yet. -/
  | early {method : String} {params : Json}
      (told : Incoming.ofFrame? frame = some (.request id method params))
      (unstarted : s.initialized = false) (other : method ≠ "initialize") :
    Refuses s frame id .notInitialized
  /-- The session was already started. -/
  | again {params : Json}
      (told : Incoming.ofFrame? frame = some (.request id "initialize" params))
      (started : s.initialized = true) :
    Refuses s frame id .alreadyInitialized
  /-- The parameters that start the session are not understood. -/
  | start {params : Json}
      (told : Incoming.ofFrame? frame = some (.request id "initialize" params))
      (unstarted : s.initialized = false) (unread : initializeParams? params = none) :
    Refuses s frame id .invalidInitialize
  /-- The end of the session was announced. -/
  | late {method : String} {params : Json}
      (told : Incoming.ofFrame? frame = some (.request id method params))
      (started : s.initialized = true) (closing : s.shutdownRequested = true)
      (other : method ≠ "initialize") :
    Refuses s frame id .shuttingDown
  /-- The parameters of a command are not understood. -/
  | command {params : Json}
      (told : Incoming.ofFrame? frame = some (.request id "workspace/executeCommand" params))
      (started : s.initialized = true) (goesOn : s.shutdownRequested = false)
      (unread : Params.command? params = none) :
    Refuses s frame id .invalidCommand
  /-- The server does not know the command. -/
  | unknownCommand {params : Json} {command : String}
      (told : Incoming.ofFrame? frame = some (.request id "workspace/executeCommand" params))
      (started : s.initialized = true) (goesOn : s.shutdownRequested = false)
      (given : Params.command? params = some command) (other : command ≠ Payload.compileCommand) :
    Refuses s frame id (.unknownCommand command)
  /-- The server does not know the method. -/
  | unknownMethod {method : String} {params : Json}
      (told : Incoming.ofFrame? frame = some (.request id method params))
      (started : s.initialized = true) (goesOn : s.shutdownRequested = false)
      (unknown : method ∉ requests) :
    Refuses s frame id (.unknownMethod method)

theorem Refuses.told {s : Server} {frame id : Json} {e : RequestError}
    (refuses : s.Refuses frame id e) :
  ∃ method params, Incoming.ofFrame? frame = some (.request id method params)
  := by
  cases refuses <;> exact ⟨_, _, ‹_›⟩

theorem answerActive_of_unknown {method : String} (unknown : method ∉ requests) (s : Server)
    (directory : Path) (id params : Json) :
  s.answerActive directory id method params = (s, (RequestError.unknownMethod method).response id)
  := by
  unfold answerActive
  split
  · exact absurd (by decide) unknown
  · exact absurd (by decide) unknown
  · exact absurd (by decide) unknown
  · rfl

/-- A request within a session that goes on is handled as such. -/
theorem answer_active {s : Server} (started : s.initialized = true)
    (goesOn : s.shutdownRequested = false) {method : String} (other : method ≠ "initialize")
    (directory : Path) (id params : Json) :
  s.answer directory id method params = s.answerActive directory id method params
  := by
  simp [answer, started, goesOn, other]

/-- A request that is refused is answered with the error, and nothing changes. -/
theorem dispatch_of_refuses {s : Server} {frame id : Json} {e : RequestError}
    (refuses : s.Refuses frame id e) (directory : Path) :
  s.dispatch directory frame = (s, e.response id)
  := by
  cases refuses with
  | early told unstarted other => simp [dispatch_request told, answer, unstarted, other]
  | again told started => simp [dispatch_request told, answer, started]
  | start told unstarted unread =>
    simp [dispatch_request told, answer, unstarted, openSession, unread]
  | late told started closing other => simp [dispatch_request told, answer, started, closing, other]
  | command told started goesOn unread =>
    rw [dispatch_request told, answer_active started goesOn (by decide)]
    simp [answerActive, execute, unread]
  | unknownCommand told started goesOn given other =>
    rw [dispatch_request told, answer_active started goesOn (by decide)]
    simp [answerActive, execute, given, other]
  | @unknownMethod method params told started goesOn unknown =>
    have other : method ≠ "initialize" := by
      rintro rfl
      exact unknown (by decide)
    rw [dispatch_request told, answer_active started goesOn other]
    apply answerActive_of_unknown unknown

/-- What is done about a request that is not refused: it is answered with a result, at once or by the
build that it starts. -/
inductive Grants (s : Server) (id : Json) : Server × Reaction → Prop where
  /-- It is answered at once. -/
  | replies (t : Server) (result : Json) : Grants s id (t, .send (Payload.success id result))
  /-- It starts a build. -/
  | builds (settings : BuildSettings) (root : Path) :
    Grants s id (s, .start (.compile ⟨id, settings, root⟩))

/-- A request within a session that goes on is refused, or it is answered with a result. -/
theorem refuses_or_grants_active {s : Server} {frame id params : Json} {method : String}
    (told : Incoming.ofFrame? frame = some (.request id method params))
    (started : s.initialized = true) (goesOn : s.shutdownRequested = false)
    (other : method ≠ "initialize") (directory : Path) :
  (∃ e, s.Refuses frame id e) ∨ s.Grants id (s.answerActive directory id method params)
  := by
  unfold answerActive
  split
  · exact .inr (.replies _ _)
  · exact .inr (.replies _ _)
  · unfold execute
    split
    · rename_i unread
      exact .inl ⟨_, .command told started goesOn unread⟩
    rename_i command given
    split
    · exact .inr (.builds _ _)
    · rename_i unknown
      exact .inl ⟨_, .unknownCommand told started goesOn given unknown⟩
  · rename_i shutdown completion command
    refine .inl ⟨_, .unknownMethod told started goesOn ?_⟩
    simpa [requests, other] using ⟨shutdown, completion, command⟩

/-- A request is refused, or it is answered with a result. -/
theorem refuses_or_grants {s : Server} {frame id params : Json} {method : String}
    (told : Incoming.ofFrame? frame = some (.request id method params)) (directory : Path) :
  (∃ e, s.Refuses frame id e) ∨ s.Grants id (s.dispatch directory frame)
  := by
  rw [dispatch_request told]
  unfold answer
  split
  · rename_i opens
    subst opens
    split
    · exact .inl ⟨_, .again told ‹_›⟩
    rename_i unstarted
    unfold openSession
    split
    · exact .inr (.replies _ _)
    · exact .inl ⟨_, .start told (by simpa using unstarted) ‹_›⟩
  rename_i other
  split
  · rename_i unstarted
    exact .inl ⟨_, .early told (by simpa using unstarted) other⟩
  rename_i started
  have started : s.initialized = true := by simpa using started
  split
  · exact .inl ⟨_, .late told started ‹_› other⟩
  · rename_i goesOn
    apply refuses_or_grants_active told started (by simpa using goesOn) other

/-- The messages that change nothing. -/
def Rejects (s : Server) (frame : Json) : Prop :=
  s.Ignores frame ∨ ∃ id e, s.Refuses frame id e

end Server

/-! ### One message -/

namespace Session

/-- A message that is ignored leaves the session as it was, and nothing is written. -/
theorem handle_of_ignores {s : Session} {frame : Json} (ignores : s.server.Ignores frame) :
  s.handle frame = (s, [])
  := by
  rw [handle, work, Server.dispatch_of_ignores ignores]
  rfl

/-- A request that is refused leaves the session as it was, and only the error is written. -/
theorem handle_of_refuses {s : Session} (running : s.writer.stopped = false) {frame id : Json}
    {e : RequestError} (refuses : s.server.Refuses frame id e) :
  s.handle frame = (s, [Payload.failure id e.code e.message])
  := by
  have work : s.work frame = (s, [Payload.failure id e.code e.message].map .send, none) := by
    rw [work, Server.dispatch_of_refuses refuses]
    rfl
  rw [handle_of_work work, Writer.write_sends running]

theorem isExit_of_rejects {s : Server} {frame : Json} (rejects : s.Rejects frame) :
  isExit frame = false
  := by
  rcases rejects with ignores | ⟨id, e, refuses⟩
  · cases ignores with
    | malformed unread => simp [isExit, unread]
    | response told => simp [isExit, told]
    | early told unstarted stays other => simp [isExit, told, stays]
    | @unknown method params told unknown =>
      have stays : method ≠ "exit" := by
        rintro rfl
        exact unknown (by decide)
      simp [isExit, told, stays]
    | _ told => simp [isExit, told]
  · obtain ⟨method, params, told⟩ := refuses.told
    simp [isExit, told]

/-- A session is as it was after a message that is rejected. -/
theorem handle_of_rejects {s : Session} (running : s.writer.stopped = false) {frame : Json}
    (rejects : s.server.Rejects frame) :
  (s.handle frame).1 = s
  := by
  rcases rejects with ignores | ⟨id, e, refuses⟩
  · rw [handle_of_ignores ignores]
  · rw [handle_of_refuses running refuses]

/-- What is asked of the writer about a request that is not refused ends with its result. -/
theorem work_of_grants {s : Session} {frame id : Json}
    (grants : s.server.Grants id (s.server.dispatch s.around.directory frame)) :
  ∃ server built notes result,
    s.work frame = ({ s with server, built }, (notes ++ [Payload.success id result]).map .send, none)
      ∧ ∀ note ∈ notes, isResponse note = false
  := by
  unfold work
  generalize s.server.dispatch s.around.directory frame = result at grants
  cases grants with
  | replies t result => exact ⟨t, s.built, [], result, rfl, nofun⟩
  | builds settings root =>
    obtain ⟨notes, result, run, quiet⟩ := Compile.run_ends s.around ⟨id, settings, root⟩
    simp only [Reaction.start, Server.finish, List.nil_append, run]
    exact ⟨s.server, _, notes, result, rfl, quiet⟩

/-- A message that is answered with an error is a request that is refused. -/
theorem refuses_of_hasError {s : Session} (running : s.writer.stopped = false) {frame reply : Json}
    (written : reply ∈ (s.handle frame).2) (answers : isResponse reply = true)
    (fails : hasError reply = true) :
  ∃ id e, s.server.Refuses frame id e
  := by
  by_cases asked : ∃ id method, IsRequest frame id method
  · obtain ⟨id, method, asks⟩ := asked
    obtain ⟨params, told⟩ := asks.ofFrame?
    rcases Server.refuses_or_grants told s.around.directory with ⟨e, refuses⟩ | grants
    · exact ⟨id, e, refuses⟩
    · obtain ⟨server, built, notes, result, work, quiet⟩ := work_of_grants grants
      rw [handle_of_work work, Writer.write_sends running, List.mem_append,
        List.mem_singleton] at written
      rcases written with note | rfl
      · simp [quiet reply note] at answers
      · cases fails
  · have unasked : ∀ id method, ¬ IsRequest frame id method := by simpa using asked
    cases exit : isExit frame with
    | true =>
      rw [handle_exit (isBuild_of_isExit exit) exit] at written
      cases written
    | false =>
      obtain ⟨server, commands, work, notes, -, -⟩ := s.work_other exit unasked
      obtain ⟨-, quiet⟩ := Writer.write_notes running notes
      rw [handle_of_work work] at written
      simp [quiet reply written] at answers

end Session

/-! ### Messages that are left out -/

/-- The members of a list without those at some positions. -/
def leaveOut {α : Type} (out : Nat → Bool) : List α → List α
  | [] => []
  | a :: l =>
    let rest := leaveOut (fun n => out (n + 1)) l
    if out 0 then rest else a :: rest

theorem map_leaveOut {α β : Type} (f : α → β) (out : Nat → Bool) (l : List α) :
  (leaveOut out l).map f = leaveOut out (l.map f)
  := by
  induction l generalizing out with
  | nil => rfl
  | cons a l ih =>
    rw [List.map_cons, leaveOut, leaveOut, ← ih]
    split <;> rfl

theorem forall₂_leaveOut {α β : Type} {R : α → β → Prop} {l : List α} {m : List β}
    (related : List.Forall₂ R l m) (out : Nat → Bool) :
  List.Forall₂ R (leaveOut out l) (leaveOut out m)
  := by
  induction related generalizing out with
  | nil => exact .nil
  | cons first _ ih =>
    rw [leaveOut, leaveOut]
    split
    · apply ih
    · apply List.Forall₂.cons first (ih _)

namespace Session

/-- Messages that are rejected where they stand can be left out: the others are handled as before, and
the session is the same after all of them. The induction is on the messages; a message that is left
out leaves the session as it was, so the others find it unchanged. -/
theorem exchanges_leaveOut {s : Session} (lives : s.Lives) {frames : List Json} {out : Nat → Bool}
    (rejected : ∀ n frame, out n = true → frames[n]? = some frame →
      (s.afterAll (frames.take n)).ended = none →
      (s.afterAll (frames.take n)).server.Rejects frame) :
  s.exchanges (leaveOut out frames) = leaveOut out (s.exchanges frames)
    ∧ s.afterAll (leaveOut out frames) = s.afterAll frames
  := by
  induction frames generalizing s out with
  | nil => exact ⟨rfl, rfl⟩
  | cons frame frames ih =>
    have later (stays : isExit frame = false) :
        ∀ n other, out (n + 1) = true → frames[n]? = some other →
          ((s.handle frame).1.afterAll (frames.take n)).ended = none →
          ((s.handle frame).1.afterAll (frames.take n)).server.Rejects other := by
      intro n other left known
      have shifted := rejected (n + 1) other left known
      rwa [List.take_succ_cons, afterAll, stays, if_neg Bool.false_ne_true] at shifted
    rw [leaveOut, exchanges, leaveOut, afterAll]
    cases first : out 0 with
    | true =>
      have rejects : s.server.Rejects frame := rejected 0 frame first rfl lives.ended
      have stays := isExit_of_rejects rejects
      have same := handle_of_rejects lives.running rejects
      rw [same] at later
      simp only [stays, same, Bool.false_eq_true, ↓reduceIte]
      apply ih lives (later stays)
    | false =>
      rw [if_neg Bool.false_ne_true, if_neg Bool.false_ne_true, exchanges, afterAll]
      cases exit : isExit frame with
      | true => exact ⟨rfl, rfl⟩
      | false =>
        obtain ⟨-, proceeds⟩ := handle_proceeds lives frame
        obtain ⟨others, after⟩ := ih (proceeds exit).lives (later exit)
        simp only [Bool.false_eq_true, ↓reduceIte]
        exact ⟨congrArg _ others, after⟩

/-- Messages that are rejected where they stand can be left out of the input. -/
theorem feedAll_leaveOut {surroundings : Nat → Surroundings} {settings : Settings} {pieces : List Utf8.Bytes}
    {frames : List Json} (carry : List.Forall₂ Frame.Carries pieces frames) {out : Nat → Bool}
    (rejected : ∀ n frame, out n = true → frames[n]? = some frame →
      ((start surroundings settings).feedAll (pieces.take n)).1.ended = none →
      ((start surroundings settings).feedAll (pieces.take n)).1.server.Rejects frame) :
  ((start surroundings settings).feedAll (leaveOut out pieces)).1
      = ((start surroundings settings).feedAll pieces).1
    ∧ ((start surroundings settings).feedAll (leaveOut out pieces)).2
      = leaveOut out ((start surroundings settings).feedAll pieces).2
  := by
  have lives := start_lives surroundings settings
  have before (n : Nat) := (feedAll_exchanges lives (List.forall₂_take n carry) rfl).1
  simp only [before] at rejected
  obtain ⟨session, written⟩ := feedAll_exchanges lives carry rfl
  obtain ⟨session', written'⟩ := feedAll_exchanges lives (forall₂_leaveOut carry out) rfl
  obtain ⟨others, after⟩ := exchanges_leaveOut lives rejected
  constructor
  · rw [session, session', after]
  · rw [written, written', others, map_leaveOut]

/-- How a session ends is told by the session after all pieces of its input. -/
theorem serve_eq_of_feedAll {surroundings : Nat → Surroundings} {settings : Settings}
    {pieces pieces' : List Utf8.Bytes}
    (same : ((start surroundings settings).feedAll pieces').1
      = ((start surroundings settings).feedAll pieces).1) :
  (serve surroundings settings pieces').1 = (serve surroundings settings pieces).1
  := by
  rw [serve, serve]
  simp only [same]
  split <;> rfl

/-- Messages that are rejected have no effect. The server does nothing about the messages that it
ignores, and about no others. A request that it refuses is answered with its identifier, the code of the
error and no result, nothing else is written and nothing changes, and no other message is answered with
an error. So if messages are left out of a session, and each was rejected where it stood, then the same
is written for each of the others, and the session comes to the same end, whatever comes of the builds
that it asks for. -/
theorem rejections_without_effect :
  (∀ (s : Server) (directory : Path) (frame : Json),
    (s.Ignores frame ↔ s.dispatch directory frame = (s, .none))
    ∧ ∀ id e, s.Refuses frame id e →
      ∃ reply, s.dispatch directory frame = (s, .send reply) ∧ Declines id e.code reply)
  ∧ (∀ (s : Session) (frame : Json), s.writer.stopped = false →
    (s.server.Ignores frame → s.handle frame = (s, []))
    ∧ (∀ id e, s.server.Refuses frame id e →
      ∃ reply, s.handle frame = (s, [reply]) ∧ Declines id e.code reply)
    ∧ ∀ reply ∈ (s.handle frame).2, isResponse reply = true → hasError reply = true →
      ∃ id e, s.server.Refuses frame id e)
  ∧ ∀ (surroundings : Nat → Surroundings) (settings : Settings) (pieces : List Utf8.Bytes)
      (frames : List Json) (out : Nat → Bool), List.Forall₂ Frame.Carries pieces frames →
    (∀ n frame, out n = true → frames[n]? = some frame →
      ((start surroundings settings).feedAll (pieces.take n)).1.ended = none →
      ((start surroundings settings).feedAll (pieces.take n)).1.server.Rejects frame) →
    ((start surroundings settings).feedAll (leaveOut out pieces)).2
        = leaveOut out ((start surroundings settings).feedAll pieces).2
      ∧ ((start surroundings settings).feedAll (leaveOut out pieces)).1
        = ((start surroundings settings).feedAll pieces).1
      ∧ (serve surroundings settings (leaveOut out pieces)).1 = (serve surroundings settings pieces).1
  := by
  refine ⟨?_, ?_, ?_⟩
  · intro s directory frame
    refine ⟨s.ignores_iff directory frame, ?_⟩
    intro id e refuses
    exact ⟨_, Server.dispatch_of_refuses refuses directory, declines_failure ..⟩
  · intro s frame running
    refine ⟨handle_of_ignores, ?_, ?_⟩
    · intro id e refuses
      exact ⟨_, handle_of_refuses running refuses, declines_failure ..⟩
    · intro reply written answers fails
      apply refuses_of_hasError running written answers fails
  · intro surroundings settings pieces frames out carry rejected
    obtain ⟨session, written⟩ := feedAll_leaveOut carry rejected
    exact ⟨written, session, serve_eq_of_feedAll session⟩

/-- Without the requests that come too early and too late, the others are answered as before, the
request for a build among them. -/
theorem rejections_without_effect_farewell :
  (start alone .default).handle (.object [("method", .string "textDocument/didSave")])
    = (start alone .default, [])
  ∧ (∃ reply, (start alone .default).handle (ask 1 "shutdown") = (start alone .default, [reply])
    ∧ Declines (.int 1) (-32002) reply)
  ∧ ((start alone .default).feedAll
      (leaveOut (fun n => n = 0 || n = 4) (farewell.map Frame.write))).2
    = [[Payload.success (.int 2) Payload.initializeResult],
        [Payload.showMessage .error "Planet build failed: build tool `cometc` not found in PATH",
          Payload.success (.int 3) .null],
        [Payload.success (.int 4) .null], []]
  := by
  obtain ⟨-, handled, without⟩ := rejections_without_effect
  have carry := Frame.carries_map_write sendable_farewell
  have lives := start_lives alone .default
  refine ⟨?_, ?_, ?_⟩
  · apply (handled _ _ lives.running).1
    exact .saved rfl
  · apply (handled _ _ lives.running).2.1 (.int 1) .notInitialized
    exact .early rfl rfl (by decide)
  · have rest := without alone .default _ farewell
      (fun n => n = 0 || n = 4) carry (by
        intro n frame left known _
        rw [(feedAll_exchanges lives (List.forall₂_take n carry) rfl).1]
        simp only [Bool.or_eq_true, decide_eq_true_eq] at left
        rcases left with rfl | rfl
        · obtain rfl := Option.some.inj known
          exact .inr ⟨.int 1, _, .early rfl rfl (by decide)⟩
        · obtain rfl := Option.some.inj known
          exact .inr ⟨.int 5, _, .late rfl rfl rfl (by decide)⟩)
    rw [rest.1, (feedAll_exchanges lives carry rfl).2]
    rfl

end Session

end PlanetServer
