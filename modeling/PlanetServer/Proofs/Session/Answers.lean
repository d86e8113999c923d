import Mathlib.Tactic.Common
import PlanetServer.Proofs.Session.Reactions
import PlanetServer.Session.Basic

/-!
# What the client is answered

A request is answered by one response, which comes last of what is written for it, and what the
response brings depends on how far the session has come: before its start, while it goes on, and
after its end was announced. No other message is answered.

* `IsRequest` says that a frame asks for a response, `Answers` that a message is the response, and
  `Declines` that it is one with an error.
* `Server.Verdict` says what a response brings, and what becomes of the session.
* `Session.work_request` and `Session.work_other` say all that is asked of the writer about a message.
-/

namespace PlanetServer

/-! ### Requests and responses -/

/-- A frame that has to be answered: it has an identifier other than null and names a method. -/
structure IsRequest (frame id : Json) (method : String) : Prop where
  /-- It has an identifier. -/
  identified : frame.get? "id" = some id
  /-- The identifier is not null. -/
  nonNull : id ≠ .null
  /-- It names a method. -/
  named : frame.get? "method" = some (.string method)

/-- Whether a message to the client is a response. -/
def isResponse (frame : Json) : Bool :=
  (frame.get? "id").isSome

/-- Whether a response brings a result. -/
def hasResult (reply : Json) : Bool :=
  (reply.get? "result").isSome

/-- Whether a response brings an error. -/
def hasError (reply : Json) : Bool :=
  (reply.get? "error").isSome

/-- The code of the error that a response brings. -/
def errorCode? (reply : Json) : Option Int :=
  ((reply.get? "error").bind (·.get? "code")).bind Json.int?

/-- A response to the request with an identifier: it brings a result or an error, and not both. -/
structure Answers (id reply : Json) : Prop where
  /-- It carries the identifier. -/
  identified : reply.get? "id" = some id
  /-- It brings a result or an error, and not both. -/
  either : hasResult reply = !hasError reply

/-- A response to the request with an identifier that brings an error with a code, and no result. -/
structure Declines (id : Json) (code : Int) (reply : Json) : Prop where
  /-- It carries the identifier. -/
  identified : reply.get? "id" = some id
  /-- It brings an error with the code. -/
  refused : errorCode? reply = some code
  /-- It brings no result. -/
  empty : hasResult reply = false

theorem hasError_of_errorCode? {reply : Json} {code : Int} (refused : errorCode? reply = some code) :
  hasError reply = true
  := by
  obtain ⟨_, found, -⟩ := Option.bind_eq_some_iff.mp refused
  obtain ⟨error, brings, -⟩ := Option.bind_eq_some_iff.mp found
  rw [hasError, brings]
  rfl

theorem Declines.answers {id reply : Json} {code : Int} (declines : Declines id code reply) :
    Answers id reply where
  identified := declines.identified
  either := by rw [declines.empty, hasError_of_errorCode? declines.refused, Bool.not_true]

theorem Json.nonNull?_of_ne {json : Json} (other : json ≠ .null) :
  json.nonNull? = some json
  := by
  cases json with
  | null => exact absurd rfl other
  | _ => rfl

theorem IsRequest.ofFrame? {frame id : Json} {method : String} (asks : IsRequest frame id method) :
  ∃ params, Incoming.ofFrame? frame = some (.request id method params)
  := by
  use (frame.get? "params").getD .null
  rw [Incoming.ofFrame?, asks.identified, asks.named, Option.bind_some,
    Json.nonNull?_of_ne asks.nonNull]
  rfl

theorem isRequest_of_ofFrame? {frame id params : Json} {method : String}
    (told : Incoming.ofFrame? frame = some (.request id method params)) :
  IsRequest frame id method
  := by
  simp only [Incoming.ofFrame?] at told
  split at told
  · rename_i id' method' foundId foundMethod
    obtain ⟨rfl, rfl, -⟩ := Incoming.request.inj (Option.some.inj told)
    obtain ⟨json, known, value⟩ := Option.bind_eq_some_iff.mp foundId
    obtain ⟨json', known', value'⟩ := Option.bind_eq_some_iff.mp foundMethod
    have nonNull : json ≠ .null := by
      rintro rfl
      cases value
    obtain rfl := Option.some.inj ((Json.nonNull?_of_ne nonNull).symm.trans value)
    refine ⟨known, nonNull, ?_⟩
    cases json' with
    | string s =>
      obtain rfl := Option.some.inj value'
      exact known'
    | _ => cases value'
  · cases told
  · split at told <;> cases told
  · cases told

theorem answers_success (id result : Json) : Answers id (Payload.success id result) where
  identified := rfl
  either := rfl

/-- The response to a request that failed carries its identifier and the code, and no result. -/
theorem declines_failure (id : Json) (code : Int) (message : String) :
    Declines id code (Payload.failure id code message) where
  identified := rfl
  refused := rfl
  empty := rfl

theorem hasResult_success (id result : Json) :
  hasResult (Payload.success id result) = true
  := rfl

theorem isResponse_notification (method : String) (params : Json) :
  isResponse (Payload.notification method params) = false
  := rfl

/-- A response with the code of an error brings no result. -/
theorem Answers.hasResult_eq_false {id reply : Json} (answers : Answers id reply) {code : Int}
    (refused : errorCode? reply = some code) :
  hasResult reply = false
  := by
  rw [answers.either, hasError_of_errorCode? refused, Bool.not_true]

/-! ### How requests are answered -/

namespace Server

/-- What the response to a request brings, by how far the session has come, and how far it then has
come. -/
structure Verdict (s t : Server) (id : Json) (method : String) (reply : Json) : Prop where
  /-- The request is answered. -/
  answers : Answers id reply
  /-- A request to start the session that brings a result starts it. -/
  initialized : t.initialized = (s.initialized || (method = "initialize" && hasResult reply))
  /-- A request to end the session that brings a result announces its end. -/
  shutdown : t.shutdownRequested = (s.shutdownRequested || (method = "shutdown" && hasResult reply))
  /-- Before the start of the session all other requests are refused. -/
  early : s.initialized = false → method ≠ "initialize" → errorCode? reply = some (-32002)
  /-- A session is not started twice. -/
  again : s.initialized = true → method = "initialize" → errorCode? reply = some (-32600)
  /-- Once its end was announced, all requests are refused. -/
  late : s.initialized = true → s.shutdownRequested = true → errorCode? reply = some (-32600)

/-- A request is refused with an error, and the session does not change. -/
theorem Verdict.refused {s : Server} {method : String} (id : Json) (e : RequestError)
    (early : s.initialized = false → method ≠ "initialize" → e.code = -32002)
    (again : s.initialized = true → method = "initialize" → e.code = -32600)
    (late : s.initialized = true → s.shutdownRequested = true → e.code = -32600) :
    Verdict s s id method (Payload.failure id e.code e.message) where
  answers := (declines_failure ..).answers
  initialized := by rw [(declines_failure ..).empty, Bool.and_false, Bool.or_false]
  shutdown := by rw [(declines_failure ..).empty, Bool.and_false, Bool.or_false]
  early unstarted other := congrArg some (early unstarted other)
  again started opens := congrArg some (again started opens)
  late started closing := congrArg some (late started closing)

/-- A request of a session that goes on is answered with any result, or refused with any error. -/
theorem Verdict.active {s : Server} {method : String} {id reply : Json} (answers : Answers id reply)
    (started : s.initialized = true) (open' : s.shutdownRequested = false)
    (other : method ≠ "initialize") (stays : method ≠ "shutdown") :
    Verdict s s id method reply where
  answers := answers
  initialized := by rw [started, Bool.true_or]
  shutdown := by rw [decide_eq_false stays, Bool.false_and, Bool.or_false]
  early unstarted := by simp [started] at unstarted
  again _ opens := absurd opens other
  late _ closing := by simp [open'] at closing

/-- A request is answered at once, or by the build that it starts. -/
inductive Decides (s : Server) (id : Json) (method : String) : Server × Reaction → Prop where
  /-- It is answered at once. -/
  | replies (t : Server) (reply : Json) (verdict : Verdict s t id method reply) :
    Decides s id method (t, .send reply)
  /-- It is answered with the result of a build, whatever that is. -/
  | builds (c : Compile) (asked : c.id = id)
      (verdict : ∀ result, Verdict s s id method (Payload.success id result)) :
    Decides s id method (s, .start (.compile c))

theorem openSession_decides {s : Server} {id params : Json} (unstarted : s.initialized = false) :
  s.Decides id "initialize" (s.openSession id params)
  := by
  unfold openSession
  split
  · refine .replies _ _ ⟨answers_success .., ?_, ?_, ?_, ?_, ?_⟩
    · rw [hasResult_success, decide_eq_true rfl, Bool.and_self, Bool.or_true]
    · rw [decide_eq_false (by decide), Bool.false_and, Bool.or_false]
    · exact fun _ other => absurd rfl other
    · exact fun started => by simp [unstarted] at started
    · exact fun started => by simp [unstarted] at started
  · apply Decides.replies
    apply Verdict.refused
    · exact fun _ other => absurd rfl other
    · exact fun started => by simp [unstarted] at started
    · exact fun started => by simp [unstarted] at started

theorem answerActive_decides {s : Server} {directory : Path} {id params : Json} {method : String}
    (started : s.initialized = true) (open' : s.shutdownRequested = false)
    (other : method ≠ "initialize") :
  s.Decides id method (s.answerActive directory id method params)
  := by
  unfold answerActive
  split
  · refine .replies _ _ ⟨answers_success .., ?_, ?_, ?_, ?_, ?_⟩
    · rw [started, Bool.true_or]
    · rw [hasResult_success, decide_eq_true rfl, Bool.and_self, Bool.or_true]
    · exact fun unstarted => by simp [started] at unstarted
    · exact fun _ opens => absurd opens other
    · exact fun _ closing => by simp [open'] at closing
  · exact .replies _ _ (.active (answers_success ..) started open' other (by decide))
  · unfold execute
    split
    · exact .replies _ _ (.active (declines_failure ..).answers started open' other (by decide))
    split
    · exact .builds _ rfl fun result => .active (answers_success ..) started open' other (by decide)
    · exact .replies _ _ (.active (declines_failure ..).answers started open' other (by decide))
  · rename_i stays _ _
    exact .replies _ _ (.active (declines_failure ..).answers started open' other stays)

/-- All requests are answered, by how far the session has come. -/
theorem answer_decides (s : Server) (directory : Path) (id params : Json) (method : String) :
  s.Decides id method (s.answer directory id method params)
  := by
  unfold answer
  split
  · rename_i opens
    subst opens
    split
    · rename_i started
      apply Decides.replies
      apply Verdict.refused
      · exact fun unstarted => by simp [started] at unstarted
      · exact fun _ _ => rfl
      · exact fun _ _ => rfl
    · rename_i unstarted
      apply openSession_decides (by simpa using unstarted)
  rename_i other
  split
  · rename_i unstarted
    apply Decides.replies
    apply Verdict.refused
    · exact fun _ _ => rfl
    · exact fun _ opens => absurd opens other
    · exact fun started => by simp [started] at unstarted
  rename_i started
  split
  · apply Decides.replies
    apply Verdict.refused
    · exact fun unstarted => by simp [unstarted] at started
    · exact fun _ opens => absurd opens other
    · exact fun _ _ => rfl
  · rename_i open'
    apply answerActive_decides (by simpa using started) (by simpa using open') other

end Server

/-! ### Messages that are no responses -/

/-- Whether a command asks for a message that is no response. -/
def Command.isNote : Command → Bool
  | .send frame | .publish _ _ frame => !isResponse frame
  | .shutdown => false

theorem Compile.isResponse_of_mem_outcome (settings : BuildSettings) (root : Path)
    (result : Except Build.Failure Build.Report) :
  ∀ note ∈ (outcome settings root result).1, isResponse note = false
  := by
  intro note member
  cases result with
  | error why =>
    obtain rfl := List.mem_singleton.mp member
    apply isResponse_notification
  | ok report =>
    rcases List.mem_append.mp member with published | summary
    · obtain ⟨file, -, shown⟩ := List.mem_filterMap.mp published
      obtain ⟨uri, -, rfl⟩ := Option.map_eq_some_iff.mp shown
      apply isResponse_notification
    · obtain rfl := List.mem_singleton.mp summary
      apply isResponse_notification

/-- A build asks for messages that are no responses, and then for the response. -/
theorem Compile.run_ends (around : Surroundings) (c : Compile) :
  ∃ notes result, c.run around = (notes ++ [Payload.success c.id result]).map .send
    ∧ ∀ note ∈ notes, isResponse note = false
  := by
  have quiet := isResponse_of_mem_outcome c.settings c.root (around.build c.settings c.root)
  rw [run]
  -- whatever comes of the build, only the two parts of its outcome matter
  generalize outcome c.settings c.root (around.build c.settings c.root) = told at quiet
  exact ⟨told.1, told.2, rfl, quiet⟩

theorem Validation.isNote_of_mem_steps (locale : Locale) (documents : Documents) (count : Nat)
    (store : Store) (v : Validation) :
  ∀ c ∈ (steps locale documents count store v).2, c.isNote = true
  := by
  induction count generalizing store v with
  | zero => exact nofun
  | succ count ih =>
    have moves := v.step_moves locale documents store
    generalize stepped : v.step locale documents store = result at moves
    intro c member
    rw [steps, stepped] at member
    rcases List.mem_append.mp member with now | later
    · cases moves with
      | publishes diagnostics =>
        obtain rfl := List.mem_singleton.mp now
        rfl
      | _ => cases now
    · apply ih _ _ c later

/-! ### What is asked of the writer -/

namespace Session

/-- A request is answered at the end of all that is asked about it. -/
theorem work_request (s : Session) {frame id : Json} {method : String}
    (asks : IsRequest frame id method) :
  ∃ server built notes reply,
    s.work frame = ({ s with server, built }, (notes ++ [reply]).map .send, none)
      ∧ (∀ note ∈ notes, isResponse note = false) ∧ s.server.Verdict server id method reply
  := by
  obtain ⟨params, told⟩ := asks.ofFrame?
  have decides := s.server.answer_decides s.around.directory id params method
  have dispatched : s.server.dispatch s.around.directory frame
      = s.server.answer s.around.directory id method params := by
    rw [Server.dispatch, told]
  rw [work, dispatched]
  generalize s.server.answer s.around.directory id method params = result at decides
  cases decides with
  | replies t reply verdict => exact ⟨t, s.built, [], reply, rfl, nofun, verdict⟩
  | builds c asked verdict =>
    subst asked
    obtain ⟨notes, result, run, quiet⟩ := c.run_ends s.around
    simp only [Reaction.start, Server.finish, List.nil_append, run]
    exact ⟨s.server, _, notes, Payload.success c.id result, rfl, quiet, verdict result⟩

/-- All that is asked of the writer about a message is no response, and the session has come as far as
before. -/
def WorksQuietly (s : Session) (frame : Json) : Prop :=
  ∃ server commands, s.work frame = ({ s with server }, commands, none)
    ∧ (∀ c ∈ commands, c.isNote = true) ∧ server.initialized = s.server.initialized
    ∧ server.shutdownRequested = s.server.shutdownRequested

theorem worksQuietly_of_ignored {s : Session} {frame : Json}
    (ignored : s.server.dispatch s.around.directory frame = (s.server, .none)) :
  s.WorksQuietly frame
  := by
  rw [WorksQuietly, work, ignored]
  exact ⟨s.server, [], rfl, nofun, rfl, rfl⟩

/-- An event asks for no response. -/
theorem work_take (s : Session) {frame : Json} {event : Event}
    (taken : s.server.dispatch s.around.directory frame = s.server.take event) :
  s.WorksQuietly frame
  := by
  rw [WorksQuietly, work, taken]
  cases event with
  | edit e =>
    simp only [Server.take, Server.edit, Reaction.start, Server.finish, List.nil_append]
    refine ⟨_, _, rfl, ?_, rfl, rfl⟩
    apply Validation.isNote_of_mem_steps
  | close uri =>
    refine ⟨_, _, rfl, ?_, rfl, rfl⟩
    intro c member
    obtain rfl := List.mem_singleton.mp member
    rfl

/-- A message that is no request, and does not end the session, asks for no response. -/
theorem work_other (s : Session) {frame : Json} (stays : isExit frame = false)
    (unasked : ∀ id method, ¬ IsRequest frame id method) :
  s.WorksQuietly frame
  := by
  cases told : Incoming.ofFrame? frame with
  | none => exact worksQuietly_of_ignored (by rw [Server.dispatch, told])
  | some incoming =>
    cases incoming with
    | response id => exact worksQuietly_of_ignored (by rw [Server.dispatch, told])
    | request id method params => exact absurd (isRequest_of_ofFrame? told) (unasked id method)
    | notification method params =>
      have other : method ≠ "exit" := by simpa [isExit, told] using stays
      have dispatched : s.server.dispatch s.around.directory frame = s.server.notice method params := by
        rw [Server.dispatch, told]
      rw [Server.notice, if_neg other] at dispatched
      split at dispatched
      · rw [WorksQuietly, work, dispatched]
        refine ⟨s.server, _, rfl, ?_, rfl, rfl⟩
        intro c member
        obtain rfl := List.mem_singleton.mp member
        rfl
      split at dispatched
      · rw [Server.noticeDocument_eq] at dispatched
        cases event : Event.ofNotification? method params with
        | none => exact worksQuietly_of_ignored (by rw [dispatched, event])
        | some event => exact s.work_take (by rw [dispatched, event])
      · exact worksQuietly_of_ignored dispatched

end Session

end PlanetServer
