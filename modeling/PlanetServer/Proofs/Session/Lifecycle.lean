import PlanetServer.Proofs.Session.Answers
import PlanetServer.Proofs.Session.Publications
import PlanetServer.Session.Cli

/-!
# The course of a session

A session is started once, its end is announced once, and it ends with the first message that says
so. Each request is answered before the next message is handled, and how it is answered depends on how
far the session has come.

* `Exchange` is a message with what was written for it, and `Session.log` lists them in order.
* `Exchange.Fits` says how a message is answered, by how far the session has come.
* `Session.handle_proceeds` is the step, for one message, and `Session.fits_of_exchanges` the run: how
  far the session had come before a message is told by the exchanges before it.
-/

namespace PlanetServer

/-! ### Exchanges -/

/-- A message of the client with the messages that were written for it. -/
structure Exchange where
  /-- The message. -/
  message : Json
  /-- What was written for it. -/
  written : List Json

namespace Exchange

/-- The responses that were written for a message. -/
def responses (e : Exchange) : List Json :=
  e.written.filter isResponse

/-- The message asked for a method and was answered with a result. -/
def Succeeds (e : Exchange) (method : String) : Prop :=
  (∃ id, IsRequest e.message id method) ∧ ∃ reply ∈ e.responses, hasResult reply = true

/-- The message was answered with an error of a code. -/
def RefusedWith (e : Exchange) (code : Int) : Prop :=
  ∃ reply, e.responses = [reply] ∧ errorCode? reply = some code

/-- The message was answered as it has to be when the session was started, or not, and its end was
announced, or not. -/
structure Fits (e : Exchange) (started closing : Prop) : Prop where
  /-- A request gets one response. -/
  answered : ∀ id method, IsRequest e.message id method →
    ∃ reply, e.responses = [reply] ∧ Answers id reply
  /-- Nothing else gets a response. -/
  unasked : (∀ id method, ¬ IsRequest e.message id method) → e.responses = []
  /-- Before the start of the session all other requests are refused. -/
  early : ¬ started → ∀ id method, IsRequest e.message id method → method ≠ "initialize" →
    e.RefusedWith (-32002)
  /-- A session is not started twice. -/
  again : started → ¬ e.Succeeds "initialize"
  /-- Once its end was announced, all requests are refused. -/
  late : closing → ∀ id method, IsRequest e.message id method → e.RefusedWith (-32600)

/-- A message that is refused once the end of the session was announced does not succeed. -/
theorem Fits.not_succeeds {e : Exchange} {started closing : Prop} (fits : e.Fits started closing)
    (announced : closing) (method : String) :
  ¬ e.Succeeds method
  := by
  rintro ⟨⟨id, asks⟩, reply, member, brings⟩
  obtain ⟨reply', answered, refused⟩ := fits.late announced id method asks
  obtain ⟨reply'', answered', answers⟩ := fits.answered id method asks
  obtain rfl := List.singleton_inj.mp (answered.symm.trans answered')
  rw [answered, List.mem_singleton] at member
  subst member
  simp [answers.hasResult_eq_false refused] at brings

end Exchange

/-- Exchanges in which each request gets one response, the session is started at most once and its end
is announced at most once, and requests that come too early or too late are refused. -/
structure Orderly (log : List Exchange) : Prop where
  /-- A request gets one response, which carries its identifier and a result or an error. -/
  answered : ∀ e ∈ log, ∀ id method, IsRequest e.message id method →
    ∃ reply, e.responses = [reply] ∧ Answers id reply
  /-- Nothing else gets a response. -/
  unasked : ∀ e ∈ log, (∀ id method, ¬ IsRequest e.message id method) → e.responses = []
  /-- At most one request starts the session. -/
  startsOnce : log.Pairwise fun e e' => e.Succeeds "initialize" → ¬ e'.Succeeds "initialize"
  /-- At most one request announces its end. -/
  endsOnce : log.Pairwise fun e e' => e.Succeeds "shutdown" → ¬ e'.Succeeds "shutdown"
  /-- Before the start of the session all other requests are refused. -/
  early : ∀ before e after, log = before ++ e :: after →
    (∀ e' ∈ before, ¬ e'.Succeeds "initialize") →
    ∀ id method, IsRequest e.message id method → method ≠ "initialize" → e.RefusedWith (-32002)
  /-- Once its end was announced, all requests are refused. -/
  late : ∀ before e after, log = before ++ e :: after →
    (∃ e' ∈ before, e'.Succeeds "shutdown") →
    ∀ id method, IsRequest e.message id method → e.RefusedWith (-32600)

/-! ### The writer -/

theorem Writer.write_sends {w : Writer} (running : w.stopped = false) (frames : List Json) :
  w.write (frames.map .send) = (frames, w)
  := by
  induction frames with
  | nil => rfl
  | cons frame frames ih =>
    rw [List.map_cons, write, step, running]
    simp [ih]

/-- A writer that is asked for no responses writes none, and goes on. -/
theorem Writer.write_notes {w : Writer} (running : w.stopped = false) {commands : List Command}
    (notes : ∀ c ∈ commands, c.isNote = true) :
  (w.write commands).2.stopped = false ∧ ∀ frame ∈ (w.write commands).1, isResponse frame = false
  := by
  induction commands generalizing w with
  | nil =>
    constructor
    · apply running
    · intro frame member
      cases member
  | cons c commands ih =>
    obtain ⟨note, later⟩ := List.forall_mem_cons.mp notes
    have first : (w.step c).2.stopped = false
        ∧ ∀ frame ∈ (w.step c).1, isResponse frame = false := by
      cases c with
      | shutdown => cases note
      | send frame =>
        rw [step, running]
        refine ⟨running, ?_⟩
        intro _ member
        obtain rfl := Option.some.inj member
        simpa [Command.isNote] using note
      | publish uri revision frame =>
        rw [step_publish running]
        split
        · constructor
          · apply running
          · intro _ member
            cases member
        · refine ⟨running, ?_⟩
          intro _ member
          obtain rfl := Option.some.inj member
          simpa [Command.isNote] using note
    obtain ⟨goesOn, rest⟩ := ih first.1 later
    rw [write]
    refine ⟨goesOn, ?_⟩
    intro frame member
    rcases List.mem_append.mp member with now | then'
    · apply first.2 frame (Option.mem_toList.mp now)
    · apply rest frame then'

/-! ### One message -/

namespace Session

/-- A session that goes on. If its end was announced, it was started before. -/
structure Lives (s : Session) : Prop where
  /-- It has not ended. -/
  ended : s.ended = none
  /-- The writer still writes. -/
  running : s.writer.stopped = false
  /-- If its end was announced, it was started before. -/
  ordered : s.server.shutdownRequested = true → s.server.initialized = true

theorem start_lives (surroundings : Nat → Surroundings) (settings : Settings) :
    (start surroundings settings).Lives where
  ended := rfl
  running := rfl
  ordered := nofun

/-- All that happens when a session that goes on handles a message which does not end it: it goes on,
and how far it then has come is told by how the message was answered. -/
structure Proceeds (s : Session) (e : Exchange) (t : Session) : Prop where
  /-- The session goes on. -/
  lives : t.Lives
  /-- It is started by a request for that which is answered with a result. -/
  started : t.server.initialized = true
    ↔ s.server.initialized = true ∨ e.Succeeds "initialize"
  /-- Its end is announced by a request for that which is answered with a result. -/
  closing : t.server.shutdownRequested = true
    ↔ s.server.shutdownRequested = true ∨ e.Succeeds "shutdown"

/-- The exchange when a session handles a message. -/
def exchange (s : Session) (message : Json) : Exchange :=
  ⟨message, (s.handle message).2⟩

theorem isRequest_unique {frame id id' : Json} {method method' : String}
    (asks : IsRequest frame id method) (asks' : IsRequest frame id' method') :
  id = id' ∧ method = method'
  := by
  constructor
  · apply Option.some.inj (asks.identified.symm.trans asks'.identified)
  · apply Json.string.inj (Option.some.inj (asks.named.symm.trans asks'.named))

theorem isExit_of_isRequest {frame id : Json} {method : String} (asks : IsRequest frame id method) :
  isExit frame = false
  := by
  obtain ⟨params, told⟩ := asks.ofFrame?
  simp [isExit, told]

theorem isBuild_of_isExit {frame : Json} (exit : isExit frame = true) :
  isBuild frame = false
  := by
  unfold isExit at exit
  split at exit
  · rename_i told
    simp [isBuild, told]
  · cases exit

theorem handle_request {s : Session} (lives : s.Lives) {frame id : Json} {method : String}
    (asks : IsRequest frame id method) :
  ∃ server built reply, (s.handle frame).1 = { s with server, built }
    ∧ (s.exchange frame).responses = [reply] ∧ s.server.Verdict server id method reply
  := by
  obtain ⟨server, built, notes, reply, work, quiet, verdict⟩ := s.work_request asks
  have handled := handle_of_work work
  simp only [Writer.write_sends lives.running] at handled
  refine ⟨server, built, reply, by rw [handled], ?_, verdict⟩
  have none : notes.filter isResponse = [] := by simpa using quiet
  have last : isResponse reply = true := by rw [isResponse, verdict.answers.identified]; rfl
  rw [Exchange.responses, exchange, handled, List.filter_append, none,
    List.filter_cons_of_pos last]
  rfl

theorem succeeds_iff {e : Exchange} {id reply : Json} {method : String}
    (asks : IsRequest e.message id method) (answered : e.responses = [reply]) (asked : String) :
  e.Succeeds asked ↔ method = asked ∧ hasResult reply = true
  := by
  constructor
  · rintro ⟨⟨id', asks'⟩, reply', member, brings⟩
    rw [answered, List.mem_singleton] at member
    subst member
    exact ⟨(isRequest_unique asks asks').2, brings⟩
  · rintro ⟨rfl, brings⟩
    exact ⟨⟨id, asks⟩, reply, by simp [answered], brings⟩

/-- A request is answered as it has to be, and the session goes on. -/
theorem handle_request_proceeds {s : Session} (lives : s.Lives) {frame id : Json} {method : String}
    (asks : IsRequest frame id method) :
  (s.exchange frame).Fits (s.server.initialized = true) (s.server.shutdownRequested = true)
    ∧ s.Proceeds (s.exchange frame) (s.handle frame).1
  := by
  obtain ⟨server, built, reply, after, answered, verdict⟩ := handle_request lives asks
  have succeeds := succeeds_iff (e := s.exchange frame) asks answered
  constructor
  · constructor
    · intro id' method' asks'
      obtain ⟨rfl, rfl⟩ := isRequest_unique asks asks'
      exact ⟨reply, answered, verdict.answers⟩
    · intro unasked
      exact absurd asks (unasked id method)
    · intro unstarted id' method' asks' other
      obtain ⟨rfl, rfl⟩ := isRequest_unique asks asks'
      exact ⟨reply, answered, verdict.early (by simpa using unstarted) other⟩
    · intro started success
      obtain ⟨opens, brings⟩ := (succeeds "initialize").mp success
      have refused := verdict.answers.hasResult_eq_false (verdict.again started opens)
      simp [refused] at brings
    · intro closing id' method' asks'
      exact ⟨reply, answered, verdict.late (lives.ordered closing) closing⟩
  · rw [after]
    constructor
    · refine ⟨lives.ended, lives.running, ?_⟩
      intro closing
      rw [verdict.shutdown, Bool.or_eq_true, Bool.and_eq_true, decide_eq_true_eq] at closing
      rw [verdict.initialized]
      rcases closing with already | ⟨rfl, brings⟩
      · rw [lives.ordered already, Bool.true_or]
      · cases started : s.server.initialized with
        | true => rfl
        | false =>
          have refused := verdict.answers.hasResult_eq_false (verdict.early started (by decide))
          simp [refused] at brings
    · rw [succeeds, verdict.initialized, Bool.or_eq_true, Bool.and_eq_true, decide_eq_true_eq]
    · rw [succeeds, verdict.shutdown, Bool.or_eq_true, Bool.and_eq_true, decide_eq_true_eq]

theorem not_succeeds_of_unasked {e : Exchange}
    (unasked : ∀ id method, ¬ IsRequest e.message id method) (method : String) :
  ¬ e.Succeeds method
  := by
  rintro ⟨⟨id, asks⟩, -⟩
  exact unasked id method asks

theorem fits_of_unasked {e : Exchange} (unasked : ∀ id method, ¬ IsRequest e.message id method)
    (none : e.responses = []) (started closing : Prop) :
    e.Fits started closing where
  answered id method asks := absurd asks (unasked id method)
  unasked _ := none
  early _ id method asks := absurd asks (unasked id method)
  again _ := not_succeeds_of_unasked unasked "initialize"
  late _ id method asks := absurd asks (unasked id method)

/-- A message that is no request is not answered, and the session goes on. -/
theorem handle_other_proceeds {s : Session} (lives : s.Lives) {frame : Json}
    (stays : isExit frame = false) (unasked : ∀ id method, ¬ IsRequest frame id method) :
  (s.exchange frame).responses = [] ∧ s.Proceeds (s.exchange frame) (s.handle frame).1
  := by
  obtain ⟨server, commands, work, notes, started, closing⟩ := s.work_other stays unasked
  obtain ⟨running, quiet⟩ := Writer.write_notes lives.running notes
  have handled := handle_of_work work
  have fails := not_succeeds_of_unasked (e := s.exchange frame) unasked
  constructor
  · rw [Exchange.responses, exchange, handled]
    simpa using quiet
  · rw [handled]
    refine ⟨⟨lives.ended, running, ?_⟩, ?_, ?_⟩
    · rw [started, closing]
      apply lives.ordered
    · simp only [started, fails, or_false]
    · simp only [closing, fails, or_false]

/-- Every message is answered as it has to be, and the session goes on unless the message ends it. -/
theorem handle_proceeds {s : Session} (lives : s.Lives) (frame : Json) :
  (s.exchange frame).Fits (s.server.initialized = true) (s.server.shutdownRequested = true)
    ∧ (isExit frame = false → s.Proceeds (s.exchange frame) (s.handle frame).1)
  := by
  by_cases asked : ∃ id method, IsRequest frame id method
  · obtain ⟨id, method, asks⟩ := asked
    obtain ⟨fits, proceeds⟩ := handle_request_proceeds lives asks
    exact ⟨fits, fun _ => proceeds⟩
  · have unasked : ∀ id method, ¬ IsRequest frame id method := by simpa using asked
    cases exit : isExit frame with
    | true =>
      have none : (s.exchange frame).responses = [] := by
        rw [Exchange.responses, exchange, handle_exit (isBuild_of_isExit exit) exit]
        rfl
      exact ⟨fits_of_unasked unasked none _ _, nofun⟩
    | false =>
      obtain ⟨none, proceeds⟩ := handle_other_proceeds lives exit unasked
      exact ⟨fits_of_unasked unasked none _ _, fun _ => proceeds⟩

/-! ### All messages -/

/-- The messages up to the first one that ends the session, and that one. -/
def served : List Json → List Json
  | [] => []
  | frame :: frames => if isExit frame then [frame] else frame :: served frames

/-- The exchanges of a session with messages, up to the first one that ends it. -/
def exchanges (s : Session) : List Json → List Exchange
  | [] => []
  | frame :: frames =>
    s.exchange frame
      :: if isExit frame then [] else exchanges (s.handle frame).1 frames

/-- The session after messages, up to the first one that ends it. -/
def afterAll (s : Session) : List Json → Session
  | [] => s
  | frame :: frames =>
    if isExit frame then (s.handle frame).1 else afterAll (s.handle frame).1 frames

theorem message_exchanges (s : Session) (frames : List Json) :
  (s.exchanges frames).map Exchange.message = served frames
  := by
  induction frames generalizing s with
  | nil => rfl
  | cons frame frames ih =>
    rw [exchanges, served, List.map_cons]
    split
    · rfl
    · rw [ih]
      rfl

theorem exchanges_take (s : Session) (frames : List Json) (n : Nat) :
  s.exchanges (frames.take n) = (s.exchanges frames).take n
  := by
  induction frames generalizing s n with
  | nil => simp [exchanges]
  | cons frame frames ih =>
    cases n with
    | zero => rfl
    | succ n =>
      rw [List.take_succ_cons, exchanges, exchanges, List.take_succ_cons]
      split
      · rw [List.take_nil]
      · rw [ih]

/-- How far a session has come before an exchange is told by the exchanges before it, and the exchange
fits that. The induction is on the messages; each but the last of them is a step. -/
theorem fits_of_exchanges {s : Session} (lives : s.Lives) {frames : List Json}
    {before after : List Exchange} {e : Exchange}
    (split : s.exchanges frames = before ++ e :: after) :
  e.Fits (s.server.initialized = true ∨ ∃ e' ∈ before, e'.Succeeds "initialize")
    (s.server.shutdownRequested = true ∨ ∃ e' ∈ before, e'.Succeeds "shutdown")
  := by
  induction frames generalizing s before with
  | nil => simp [exchanges] at split
  | cons frame frames ih =>
    obtain ⟨fits, proceeds⟩ := handle_proceeds lives frame
    rw [exchanges] at split
    cases before with
    | nil =>
      obtain ⟨rfl, -⟩ := List.cons.inj split
      simpa using fits
    | cons first before =>
      obtain ⟨rfl, later⟩ := List.cons.inj split
      cases exit : isExit frame with
      | true => simp [exit] at later
      | false =>
        have step := proceeds exit
        rw [exit, if_neg Bool.false_ne_true] at later
        have rest := ih step.lives later
        rw [step.started, step.closing, or_assoc, or_assoc] at rest
        simpa only [List.mem_cons, exists_eq_or_imp] using rest

/-- How far a session has come at the end is told by all exchanges. -/
theorem afterAll_flags {s : Session} (lives : s.Lives) (frames : List Json) :
  ((s.afterAll frames).server.initialized = true
      ↔ s.server.initialized = true ∨ ∃ e ∈ s.exchanges frames, e.Succeeds "initialize")
    ∧ ((s.afterAll frames).server.shutdownRequested = true
      ↔ s.server.shutdownRequested = true ∨ ∃ e ∈ s.exchanges frames, e.Succeeds "shutdown")
    ∧ ((s.afterAll frames).server.shutdownRequested = true →
      (s.afterAll frames).server.initialized = true)
  := by
  induction frames generalizing s with
  | nil => simpa [afterAll, exchanges] using lives.ordered
  | cons frame frames ih =>
    obtain ⟨fits, proceeds⟩ := handle_proceeds lives frame
    rw [afterAll, exchanges]
    cases exit : isExit frame with
    | true =>
      have unasked : ∀ id method, ¬ IsRequest frame id method := by
        intro id method asks
        simp [isExit_of_isRequest asks] at exit
      have fails := not_succeeds_of_unasked (e := s.exchange frame) unasked
      have ended := handle_exit (s := s) (isBuild_of_isExit exit) exit
      have same : (s.handle frame).1.server = s.server := by rw [ended]; rfl
      simpa [same, fails] using lives.ordered
    | false =>
      have step := proceeds exit
      have rest := ih step.lives
      rw [step.started, step.closing, or_assoc, or_assoc] at rest
      simpa only [List.mem_cons, exists_eq_or_imp, Bool.false_eq_true, ↓reduceIte] using rest

theorem afterAll_ended {s : Session} (lives : s.Lives) (frames : List Json) :
  (s.afterAll frames).ended
    = if frames.any isExit then some (.exit (s.afterAll frames).server.shutdownRequested) else none
  := by
  induction frames generalizing s with
  | nil => exact lives.ended
  | cons frame frames ih =>
    rw [afterAll, List.any_cons]
    cases exit : isExit frame with
    | true =>
      have ended := handle_exit (s := s) (isBuild_of_isExit exit) exit
      rw [ended]
      rfl
    | false =>
      obtain ⟨-, proceeds⟩ := handle_proceeds lives frame
      rw [Bool.false_or, if_neg Bool.false_ne_true]
      apply ih (proceeds exit).lives

/-- To receive the frames of messages one by one is to handle the messages. -/
theorem feedAll_exchanges {s : Session} (lives : s.Lives) {pieces : List Utf8.Bytes}
    {frames : List Json} (carry : List.Forall₂ Frame.Carries pieces frames)
    (unread : s.pending = []) :
  (s.feedAll pieces).1 = s.afterAll frames
    ∧ (s.feedAll pieces).2 = (s.exchanges frames).map Exchange.written
  := by
  induction carry generalizing s with
  | nil => exact ⟨rfl, rfl⟩
  | @cons piece frame pieces frames carries later ih =>
    obtain ⟨-, proceeds⟩ := handle_proceeds lives frame
    rw [feedAll, feed_of_carries carries unread, afterAll, exchanges]
    cases exit : isExit frame with
    | true =>
      have ended := handle_exit (s := s) (isBuild_of_isExit exit) exit
      have closed : (s.handle frame).1.ended = some (.exit s.server.shutdownRequested) := by
        rw [ended]
        rfl
      rw [if_pos rfl, if_pos rfl]
      simp only [closed, true_and]
      rfl
    | false =>
      have step := proceeds exit
      obtain ⟨session, rest⟩ := ih step.lives (by rw [handle_pending, unread])
      simp only [step.lives.ended]
      exact ⟨session, congrArg ((s.handle frame).2 :: ·) rest⟩

theorem pairwise_of_split {α : Type} {R : α → α → Prop} {l : List α}
    (h : ∀ before b after, l = before ++ b :: after → ∀ a ∈ before, R a b) :
  l.Pairwise R
  := by
  apply List.pairwise_iff_forall_sublist.mpr
  intro a b both
  obtain ⟨front, back, rfl, inFront, inBack⟩ := List.cons_sublist_iff.mp both
  obtain ⟨between, after, rfl⟩ := List.append_of_mem (List.singleton_sublist.mp inBack)
  apply h (front ++ between) b after (by rw [List.append_assoc]) a (List.mem_append_left _ inFront)

/-- The exchanges of a session that was not started yet are in order. -/
theorem exchanges_orderly {s : Session} (lives : s.Lives) (unstarted : s.server.initialized = false)
    (frames : List Json) :
  Orderly (s.exchanges frames)
  := by
  have fits {before after : List Exchange} {e : Exchange}
      (split : s.exchanges frames = before ++ e :: after) :
      e.Fits (∃ e' ∈ before, e'.Succeeds "initialize")
        (∃ e' ∈ before, e'.Succeeds "shutdown") := by
    have told := fits_of_exchanges lives split
    have open' : s.server.shutdownRequested = false := by
      cases closing : s.server.shutdownRequested with
      | false => rfl
      | true => simp [lives.ordered closing] at unstarted
    simpa [unstarted, open'] using told
  have member {e : Exchange} (known : e ∈ s.exchanges frames) :
      ∃ started closing, e.Fits started closing := by
    obtain ⟨before, after, split⟩ := List.append_of_mem known
    exact ⟨_, _, fits split⟩
  constructor
  · intro e known
    obtain ⟨_, _, told⟩ := member known
    apply told.answered
  · intro e known
    obtain ⟨_, _, told⟩ := member known
    apply told.unasked
  · apply pairwise_of_split
    intro before e after split first known success
    apply (fits split).again ⟨first, known, success⟩
  · apply pairwise_of_split
    intro before e after split first known success
    apply (fits split).not_succeeds ⟨first, known, success⟩
  · intro before e after split none id method asks other
    apply (fits split).early (by simpa using none) id method asks other
  · intro before e after split some id method asks
    apply (fits split).late some id method asks

/-! ### The whole session -/

/-- The exchanges of a session that receives messages in pieces of its input, up to the first message
that ends it. -/
def log (surroundings : Nat → Surroundings) (settings : Settings) (pieces : List Utf8.Bytes)
    (frames : List Json) : List Exchange :=
  List.zipWith Exchange.mk (served frames) ((start surroundings settings).feedAll pieces).2

theorem log_eq_exchanges {surroundings : Nat → Surroundings} {settings : Settings} {pieces : List Utf8.Bytes}
    {frames : List Json} (carry : List.Forall₂ Frame.Carries pieces frames) :
  log surroundings settings pieces frames = (start surroundings settings).exchanges frames
  := by
  obtain ⟨-, written⟩ := feedAll_exchanges (start_lives surroundings settings) carry rfl
  rw [log, written, ← message_exchanges (start surroundings settings), List.zipWith_map,
    List.zipWith_self]
  apply List.map_id

theorem serve_of_ended {surroundings : Nat → Surroundings} {settings : Settings} {pieces : List Utf8.Bytes}
    {how : SessionEnd} (ended : ((start surroundings settings).feedAll pieces).1.ended = some how) :
  (serve surroundings settings pieces).1 = how
  := by
  rw [serve]
  simp only [ended]

theorem afterAll_pending (s : Session) (frames : List Json) :
  (s.afterAll frames).pending = s.pending
  := by
  induction frames generalizing s with
  | nil => rfl
  | cons frame frames ih =>
    rw [afterAll]
    split
    · apply handle_pending
    · rw [ih, handle_pending]

/-- A session of which the input ends between two messages is disconnected. -/
theorem serve_of_not_ended {surroundings : Nat → Surroundings} {settings : Settings}
    {pieces : List Utf8.Bytes} (ended : ((start surroundings settings).feedAll pieces).1.ended = none)
    (unread : ((start surroundings settings).feedAll pieces).1.pending = []) :
  (serve surroundings settings pieces).1 = .disconnected
  := by
  rw [serve]
  simp only [ended, close, unread]
  rw [advance]
  rfl

theorem exitCode_eq_zero_iff (how : SessionEnd) :
  Cli.exitCode how = 0 ↔ how = .exit true ∨ how = .disconnected
  := by
  rcases how with (_ | _) | _ | _
  · simp [Cli.exitCode]
  · simp [Cli.exitCode]
  · simp [Cli.exitCode]
  · simp [Cli.exitCode]

/-- The course of a session that receives messages one at a time. The messages are handled up to the
first one that ends the session, and their exchanges are in order. How far the session has come never
goes back. It ends with the first message that says so, cleanly if its end was announced, and it is
disconnected if there is none. The exit code of the program tells a clean end and a disconnection from
all other ends. All this holds whatever comes of the builds. -/
theorem course_of_messages (surroundings : Nat → Surroundings) (settings : Settings)
    (pieces : List Utf8.Bytes) (frames : List Json) (carry : List.Forall₂ Frame.Carries pieces frames) :
  ((start surroundings settings).feedAll pieces).2.length = (served frames).length
  ∧ Orderly (log surroundings settings pieces frames)
  ∧ (∀ n,
    (((start surroundings settings).feedAll (pieces.take n)).1.server.initialized = true →
      ((start surroundings settings).feedAll pieces).1.server.initialized = true)
    ∧ (((start surroundings settings).feedAll (pieces.take n)).1.server.shutdownRequested = true →
      ((start surroundings settings).feedAll pieces).1.server.shutdownRequested = true)
    ∧ (((start surroundings settings).feedAll (pieces.take n)).1.server.shutdownRequested = true →
      ((start surroundings settings).feedAll (pieces.take n)).1.server.initialized = true)
    ∧ (((start surroundings settings).feedAll (pieces.take n)).1.ended.isSome
      ↔ ∃ frame ∈ frames.take n, isExit frame = true))
  ∧ ((∃ frame ∈ frames, isExit frame = true) →
    ∃ clean, ((start surroundings settings).feedAll pieces).1.ended = some (.exit clean)
      ∧ (serve surroundings settings pieces).1 = .exit clean
      ∧ (clean = true ↔ ∃ e ∈ log surroundings settings pieces frames, e.Succeeds "shutdown"))
  ∧ ((∀ frame ∈ frames, isExit frame = false) → (serve surroundings settings pieces).1 = .disconnected)
  ∧ ∀ world input, (Cli.run surroundings world input).exitCode = 0
    ↔ (serve surroundings (Settings.load world) [input]).1 = .exit true
      ∨ (serve surroundings (Settings.load world) [input]).1 = .disconnected
  := by
  have lives := start_lives surroundings settings
  obtain ⟨session, exchanged⟩ := feedAll_exchanges lives carry rfl
  obtain ⟨started, closing, -⟩ := afterAll_flags lives frames
  have ended := afterAll_ended lives frames
  rw [log_eq_exchanges carry]
  refine ⟨?_, ?_, ?_, ?_, ?_, ?_⟩
  · rw [exchanged, ← message_exchanges (start surroundings settings), List.length_map, List.length_map]
  · apply exchanges_orderly lives rfl
  · intro n
    obtain ⟨session', -⟩ := feedAll_exchanges lives (List.forall₂_take n carry) rfl
    obtain ⟨started', closing', ordered⟩ := afterAll_flags lives (frames.take n)
    have ended' := afterAll_ended lives (frames.take n)
    have lasting (method : String) :
        (∃ e ∈ ((start surroundings settings).exchanges frames).take n, e.Succeeds method) →
          ∃ e ∈ (start surroundings settings).exchanges frames, e.Succeeds method := by
      rintro ⟨e, member, success⟩
      exact ⟨e, List.mem_of_mem_take member, success⟩
    rw [session, session']
    refine ⟨?_, ?_, ordered, ?_⟩
    · rw [started, started', exchanges_take]
      apply Or.imp_right (lasting "initialize")
    · rw [closing, closing', exchanges_take]
      apply Or.imp_right (lasting "shutdown")
    · rw [ended', ← List.any_eq_true]
      cases (frames.take n).any isExit <;> simp
  · intro exits
    rw [if_pos (List.any_eq_true.mpr exits), ← session] at ended
    refine ⟨_, ended, serve_of_ended ended, ?_⟩
    rw [session, closing]
    apply or_iff_right
    nofun
  · intro none
    rw [if_neg (by simpa using none), ← session] at ended
    apply serve_of_not_ended ended
    rw [session, afterAll_pending]
    rfl
  · intro world input
    apply exitCode_eq_zero_iff

/-- A request without parameters. -/
def ask (id : Int) (method : String) : Json :=
  .object [("id", .int id), ("method", .string method)]

/-- A request for a build. -/
def askBuild (id : Int) : Json :=
  .object [("id", .int id), ("method", .string "workspace/executeCommand"),
    ("params", .object [("command", .string Payload.compileCommand)])]

/-- A session with a build, whose end is announced before its start, and then twice. -/
def farewell : List Json :=
  [ask 1 "shutdown", ask 2 "initialize", askBuild 3, ask 4 "shutdown", ask 5 "shutdown",
    .object [("method", .string "exit")]]

theorem sendable_farewell :
  ∀ frame ∈ farewell, Frame.Sendable frame
  := by
  have asked (id : Int) (method : String) (small : (Json.int id).Held) :
      (ask id method).Held := by
    apply Json.Held.object (List.pairwise_pair.mpr (by decide : "id" < "method"))
    simp only [List.forall_mem_cons]
    exact ⟨small, .string _, nofun⟩
  have held : ∀ frame ∈ farewell, frame.Held := by
    simp only [farewell, List.forall_mem_cons]
    refine ⟨asked _ _ (.int (by decide)), asked _ _ (.int (by decide)), ?build,
      asked _ _ (.int (by decide)), asked _ _ (.int (by decide)), ?exit, nofun⟩
    case build =>
      apply Json.Held.object (by decide)
      simp only [List.forall_mem_cons]
      refine ⟨.int (by decide), .string _, .object (List.pairwise_singleton ..) ?_, nofun⟩
      simp only [List.forall_mem_cons]
      exact ⟨.string _, nofun⟩
    case exit =>
      apply Json.Held.object (by decide)
      simp only [List.forall_mem_cons]
      exact ⟨.string _, nofun⟩
  have nested : ∀ frame ∈ farewell, frame.depth ≤ Json.maxLevels := by decide
  have short : ∀ frame ∈ farewell, (Utf8.encode frame.compact).length ≤ Frame.maxBytes := by
    decide +kernel
  intro frame member
  exact ⟨held frame member, nested frame member, short frame member⟩

/-- A build of which no compiler is found is answered all the same. The end of the session is announced
once, and so it ends cleanly. -/
theorem course_of_messages_farewell :
  Orderly (log alone .default (farewell.map Frame.write) farewell)
    ∧ (serve alone .default (farewell.map Frame.write)).1 = .exit true
  := by
  have carry := Frame.carries_map_write sendable_farewell
  obtain ⟨-, orderly, -, exits, -⟩ :=
    course_of_messages alone .default _ farewell carry
  obtain ⟨clean, -, how, announced⟩ := exits ⟨_, List.mem_of_getLast? rfl, rfl⟩
  have member : ⟨ask 4 "shutdown", [Payload.success (.int 4) .null]⟩
      ∈ (start alone .default).exchanges farewell :=
    .tail _ (.tail _ (.tail _ (.head _)))
  refine ⟨orderly, ?_⟩
  rw [how, announced.mpr]
  rw [log_eq_exchanges carry]
  exact ⟨_, member, ⟨.int 4, rfl, nofun, rfl⟩, _, List.mem_singleton.mpr rfl, rfl⟩

end Session

end PlanetServer
