import Mathlib.Data.List.Nodup
import Mathlib.Tactic.Common
import PlanetServer.Proofs.Protocol.Editor
import PlanetServer.Proofs.Session.Interleaving

/-!
# Diagnostics are never stale

Whatever the order of the steps, the client and the store end up with the diagnostics of the last
event of each document. Each of the three guards leaves a gap between its check and what follows,
so the proof ties them together by the record of the events.

* `Chronicle` ties the documents to the events: an edit is current as long as it is the last event.
* `Consistent` ties all other parts to the events: nothing is stored, queued or written but what
  some event asks for, and what the last event of a document asks for is stored and published, or is
  still somebody's work.
* `Step.consistent` says that every step keeps this.
-/

namespace PlanetServer

/-! ### The record of the events -/

/-- The documents are what the events made of them, and the events got increasing revisions. -/
structure Chronicle (documents : Documents) (history : List Entry) : Prop where
  /-- Every revision was given out. -/
  given : ∀ x ∈ history, x.revision ≤ documents.lastRevision
  /-- Later events have greater revisions. -/
  rising : history.Pairwise fun x y => y.revision < x.revision
  /-- The last event of a document says what its state is. -/
  state (uri : String) : documents.state? uri = (latest? history uri).bind Entry.document?

namespace Chronicle

theorem start : Chronicle .empty [] where
  given _ known := absurd known List.not_mem_nil
  rising := .nil
  state _ := rfl

variable {documents : Documents} {history : List Entry}

/-- The record goes on when an event takes the next revision and changes its document only. -/
theorem record (chronicle : Chronicle documents history) {after : Documents} {x : Entry}
    (next : x.revision = documents.lastRevision + 1) (last : after.lastRevision = x.revision)
    (state : ∀ uri, after.state? uri = if uri = x.uri then x.document? else documents.state? uri) :
  Chronicle after (x :: history)
  := by
  refine ⟨fun y known => ?_, List.pairwise_cons.mpr ⟨fun y known => ?_, chronicle.rising⟩,
    fun uri => ?_⟩
  · rcases List.mem_cons.mp known with rfl | known
    · apply Nat.le_of_eq last.symm
    · have := chronicle.given y known
      omega
  · have := chronicle.given y known
    omega
  · rw [state uri, latest?_cons]
    by_cases same : uri = x.uri
    · simp [same]
    · simp [same, Ne.symm same, chronicle.state uri]

/-- Events with the same revision are the same. -/
theorem eq_of_revision (chronicle : Chronicle documents history) {x y : Entry} (hx : x ∈ history)
    (hy : y ∈ history) (same : x.revision = y.revision) :
  x = y
  := by
  have apart : (history.map Entry.revision).Nodup :=
    List.pairwise_map.mpr (chronicle.rising.imp Nat.ne_of_gt)
  apply List.inj_on_of_nodup_map apart hx hy same

theorem mem_of_latest {uri : String} {x : Entry} (last : latest? history uri = some x) :
  x ∈ history ∧ x.uri = uri
  := ⟨List.mem_of_find?_eq_some last, by simpa using List.find?_some last⟩

/-- No event of a document is newer than the last one. -/
theorem le_latest (chronicle : Chronicle documents history) {uri : String} {x y : Entry}
    (last : latest? history uri = some x) (known : y ∈ history) (about : y.uri = uri) :
  y.revision ≤ x.revision
  := by
  rcases eq_or_before_of_find? chronicle.rising last known (by simpa using about) with rfl | older
  · apply Nat.le_refl
  · apply Nat.le_of_lt older

/-- A validation of the last event of its document is current. -/
theorem isCurrent (chronicle : Chronicle documents history) {v : Validation}
    (last : latest? history v.uri = some v.entry) :
  documents.isCurrent v.uri v.revision = true
  := by
  rw [Documents.isCurrent_iff]
  use v.version
  rw [chronicle.state, last]
  rfl

end Chronicle

/-! ### Work ahead -/

/-- The events of the validations in some stages. -/
def ahead (stages : Stage → Bool) (validations : List Validation) : List Entry :=
  (validations.filter fun v => stages v.stage).map Validation.entry

theorem mem_ahead {stages : Stage → Bool} {validations : List Validation} {x : Entry} :
  x ∈ ahead stages validations ↔ ∃ v ∈ validations, stages v.stage = true ∧ v.entry = x
  := by
  simp [ahead, and_assoc]

/-- When one validation takes a step, the work of the others stays ahead. -/
theorem ahead_replace {stages : Stage → Bool} {before after : List Validation} {v w : Validation}
    {x : Entry} (work : x ∈ ahead stages (before ++ v :: after)) :
  (x = v.entry ∧ stages v.stage = true) ∨ x ∈ ahead stages (before ++ w :: after)
  := by
  obtain ⟨u, known, stage, rfl⟩ := mem_ahead.mp work
  rcases List.mem_append.mp known with first | rest
  · exact .inr (mem_ahead.mpr ⟨u, List.mem_append_left _ first, stage, rfl⟩)
  · rcases List.mem_cons.mp rest with rfl | last
    · exact .inl ⟨rfl, stage⟩
    · exact .inr (mem_ahead.mpr ⟨u, by simp [last], stage, rfl⟩)

namespace Moment

/-- The events whose diagnostics somebody still has to store. -/
def unstored (s : Moment) : List Entry :=
  s.reader.unstored?.toList ++ ahead Stage.isUnstored s.validations

/-- The events whose diagnostics somebody still has to send to the writer. -/
def unsent (s : Moment) : List Entry :=
  s.reader.closing?.toList ++ ahead Stage.isUnfinished s.validations

/-- All parts of a session agree with the events that were taken. -/
structure Consistent (locale : Locale) (s : Moment) : Prop where
  /-- The documents do. -/
  chronicle : Chronicle s.documents s.history
  /-- The reader is busy with the last event of a document. -/
  reading : ∀ x ∈ s.reader.closing?, latest? s.history x.uri = some x
  /-- Every validation is about an event, and its result is that of the event. -/
  validating : ∀ v ∈ s.validations, v.entry ∈ s.history
    ∧ ∀ diagnostics ∈ v.stage.result?, diagnostics = analyze locale v.text
  /-- Only what events ask for is stored. -/
  stored (uri : String) : ∀ slot ∈ s.store.slots.get? uri,
    ∃ x ∈ s.history, x.uri = uri ∧ slot = x.slot locale
  /-- Only what events ask for is queued. -/
  queued : ∀ c ∈ s.queue, ∃ x ∈ s.history, c = x.command locale
  /-- Only what events ask for is written. -/
  published : ∀ p ∈ s.written, ∃ x ∈ s.history, p = x.publication locale
  /-- The writer knows what it has written. -/
  remembered : s.writer.Remembers s.written
  /-- What the last event of a document asks for is stored, or this is ahead. -/
  settled {uri : String} {x : Entry} (last : latest? s.history uri = some x) :
    s.store.slots.get? uri = some (x.slot locale) ∨ x ∈ s.unstored
  /-- What the last event of a document asks for is what was written last about it, or this is
  ahead. -/
  announced {uri : String} {x : Entry} (last : latest? s.history uri = some x) :
    lastPublication? s.written uri = some (x.publication locale) ∨ x.command locale ∈ s.queue
      ∨ x ∈ s.unsent

theorem start_consistent (locale : Locale) : start.Consistent locale where
  chronicle := .start
  reading := by simp [start, Reader.closing?]
  validating := by simp [start]
  stored := by simp [start, Store.empty]
  queued := by simp [start]
  published := by simp [start]
  remembered := Writer.start_remembers
  settled last := by simp [start, latest?] at last
  announced last := by simp [start, latest?] at last

/-! ### Events that are taken -/

variable {locale : Locale} {s : Moment}

/-- A new event whose work is ahead keeps the parts in agreement, as long as the reader was free. -/
theorem Consistent.record (consistent : s.Consistent locale) {documents : Documents} {x : Entry}
    (reader : Reader) (validations : List Validation)
    (chronicle : Chronicle documents (x :: s.history))
    (reading : ∀ y ∈ reader.closing?, y = x)
    (validating : ∀ v ∈ validations, v ∈ s.validations
      ∨ v.entry = x ∧ v.stage.result? = none)
    (unstored : x :: s.unstored
      ⊆ reader.unstored?.toList ++ ahead Stage.isUnstored validations)
    (unsent : x :: s.unsent ⊆ reader.closing?.toList ++ ahead Stage.isUnfinished validations) :
  Consistent locale { s with documents, reader, validations, history := x :: s.history }
  := by
  have still {P : Entry → Prop} (old : ∃ y ∈ s.history, P y) : ∃ y ∈ x :: s.history, P y := by
    obtain ⟨y, known, asked⟩ := old
    exact ⟨y, List.mem_cons_of_mem x known, asked⟩
  constructor
  case chronicle => apply chronicle
  case reading =>
    intro y busy
    rw [reading y busy, latest?_cons, if_pos rfl]
  case validating =>
    intro v known
    rcases validating v known with old | ⟨same, empty⟩
    · obtain ⟨about, result⟩ := consistent.validating v old
      exact ⟨List.mem_cons_of_mem x about, result⟩
    · exact ⟨same ▸ List.mem_cons_self, by simp [empty]⟩
  case stored => exact fun uri slot found => still (consistent.stored uri slot found)
  case queued => exact fun c waiting => still (consistent.queued c waiting)
  case published => exact fun p written => still (consistent.published p written)
  case remembered => apply consistent.remembered
  case settled =>
    intro uri y last
    rw [latest?_cons] at last
    split at last
    · obtain rfl := Option.some.inj last
      exact .inr (unstored List.mem_cons_self)
    · apply (consistent.settled last).imp_right fun work => unstored (List.mem_cons_of_mem x work)
  case announced =>
    intro uri y last
    rw [latest?_cons] at last
    split at last
    · obtain rfl := Option.some.inj last
      exact .inr (.inr (unsent List.mem_cons_self))
    · apply (consistent.announced last).imp_right
        (Or.imp_right fun work => unsent (List.mem_cons_of_mem x work))

theorem Consistent.edit (consistent : s.Consistent locale) (ready : s.reader = .ready)
    (e : Params.Edit) :
  (s.edit e).Consistent locale
  := by
  have old (stages : Stage → Bool) (started : stages .started = true) :
      (⟨s.documents.lastRevision + 1, .edit e⟩ : Entry) :: ahead stages s.validations
        ⊆ ahead stages (s.validations
          ++ [.start e.uri e.version (s.documents.lastRevision + 1) e.text]) := by
    simp [ahead, Validation.start, Validation.entry, started]
  apply consistent.record s.reader
  · apply consistent.chronicle.record rfl rfl (s.documents.state?_openAt e.uri · e.version)
  · simp [ready, Reader.closing?]
  · intro v known
    rcases List.mem_append.mp known with before | new
    · exact .inl before
    · obtain rfl := List.mem_singleton.mp new
      exact .inr ⟨rfl, rfl⟩
  · simpa [unstored, ready, Reader.unstored?] using old Stage.isUnstored rfl
  · simpa [unsent, ready, Reader.closing?] using old Stage.isUnfinished rfl

theorem Consistent.close (consistent : s.Consistent locale) (ready : s.reader = .ready)
    (uri : String) :
  (s.close uri).Consistent locale
  := by
  apply consistent.record (.emptying uri (s.documents.lastRevision + 1)) s.validations
  · apply consistent.chronicle.record rfl rfl (s.documents.state?_close uri)
  · simp [Reader.closing?]
  · exact fun v known => .inl known
  · simp [unstored, ready, Reader.unstored?]
  · simp [unsent, ready, Reader.closing?]

/-! ### Diagnostics that are stored -/

/-- What is stored for a document is not newer than its last event. -/
theorem Consistent.revision_le_latest (consistent : s.Consistent locale) {uri : String} {x : Entry}
    (last : latest? s.history uri = some x) :
  s.store.revision uri ≤ x.revision
  := by
  cases found : s.store.slots.get? uri with
  | none => simp [Store.revision, found]
  | some slot =>
    obtain ⟨y, known, about, rfl⟩ := consistent.stored uri slot found
    rw [s.store.revision_eq_of_slot uri found]
    apply consistent.chronicle.le_latest last known about

/-- The store after the diagnostics of an event were offered to it. -/
def offered (locale : Locale) (s : Moment) (x : Entry) : Store :=
  (s.store.setIfNewer x.uri x.revision (x.event.diagnostics locale)).2

theorem Consistent.offered_stored (consistent : s.Consistent locale) {x : Entry}
    (known : x ∈ s.history) (uri : String) :
  ∀ slot ∈ (s.offered locale x).slots.get? uri,
    ∃ y ∈ s.history, y.uri = uri ∧ slot = y.slot locale
  := by
  intro slot found
  rw [offered, Store.slots_setIfNewer] at found
  split at found
  case isTrue kept =>
    obtain rfl := Option.some.inj found
    exact ⟨x, known, kept.1.symm, rfl⟩
  case isFalse => apply consistent.stored uri slot found

/-- An event that is offered to the store is stored if it is the last one, and does no harm to the
last one otherwise. -/
theorem Consistent.offered_settled (consistent : s.Consistent locale) {x y : Entry} {uri : String}
    (known : x ∈ s.history) (last : latest? s.history uri = some y) :
  (s.offered locale x).slots.get? uri = some (y.slot locale) ∨ y ∈ s.unstored ∧ y ≠ x
  := by
  have limit := consistent.revision_le_latest last
  obtain ⟨member, about⟩ := Chronicle.mem_of_latest last
  rw [offered, Store.slots_setIfNewer]
  by_cases same : y = x
  · subst same
    exact .inl (if_pos ⟨about.symm, about ▸ limit⟩)
  · apply (consistent.settled last).imp _ fun work => ⟨work, same⟩
    intro found
    rw [if_neg, found]
    -- The last event is stored, so one that the store still accepts would have its revision.
    rintro ⟨rfl, kept⟩
    rw [s.store.revision_eq_of_slot _ found] at kept
    have older := consistent.chronicle.le_latest last known rfl
    apply same (consistent.chronicle.eq_of_revision member known (Nat.le_antisymm kept older))

/-! ### Steps of the reader -/

theorem Consistent.empty (consistent : s.Consistent locale) {uri : String} {revision : Nat}
    (busy : s.reader = .emptying uri revision) :
  (s.empty uri revision).Consistent locale
  := by
  have reading : latest? s.history uri = some ⟨revision, .close uri⟩ :=
    consistent.reading ⟨revision, .close uri⟩ (by simp [busy, Reader.closing?])
  have known := (Chronicle.mem_of_latest reading).1
  constructor
  case chronicle => apply consistent.chronicle
  case reading => simpa [Moment.empty, Reader.closing?, Entry.uri, Event.uri] using reading
  case validating => apply consistent.validating
  case stored => apply consistent.offered_stored known
  case queued => apply consistent.queued
  case published => apply consistent.published
  case remembered => apply consistent.remembered
  case settled =>
    intro other y last
    apply (consistent.offered_settled known last).imp_right
    rintro ⟨work, differ⟩
    simpa [unstored, Moment.empty, busy, Reader.unstored?, differ] using work
  case announced =>
    intro other y last
    simpa [unsent, Moment.empty, busy, Reader.closing?] using consistent.announced last

theorem Consistent.announce (consistent : s.Consistent locale) {uri : String} {revision : Nat}
    (busy : s.reader = .announcing uri revision) :
  (s.announce uri revision).Consistent locale
  := by
  have reading : latest? s.history uri = some ⟨revision, .close uri⟩ :=
    consistent.reading ⟨revision, .close uri⟩ (by simp [busy, Reader.closing?])
  constructor
  case chronicle => apply consistent.chronicle
  case reading => simp [Moment.announce, Reader.closing?]
  case validating => apply consistent.validating
  case stored => apply consistent.stored
  case queued =>
    intro c waiting
    rcases List.mem_append.mp waiting with before | new
    · apply consistent.queued c before
    · obtain rfl := List.mem_singleton.mp new
      exact ⟨_, (Chronicle.mem_of_latest reading).1, rfl⟩
  case published => apply consistent.published
  case remembered => apply consistent.remembered
  case settled =>
    intro other y last
    simpa [unstored, Moment.announce, busy, Reader.unstored?] using consistent.settled last
  case announced =>
    intro other y last
    apply (consistent.announced last).imp_right
    rintro (waiting | work)
    · exact .inl (List.mem_append_left _ waiting)
    · rcases List.mem_append.mp work with closing | validation
      · obtain rfl : y = ⟨revision, .close uri⟩ := by
          simpa [busy, Reader.closing?] using closing
        exact .inl (List.mem_append_right _ (List.mem_singleton.mpr rfl))
      · exact .inr (List.mem_append_right _ validation)

/-! ### Steps of validations -/

/-- A guard only stops a validation that is not about the last event of its document. -/
theorem Consistent.superseded (consistent : s.Consistent locale) {v : Validation}
    (guard : s.documents.isCurrent v.uri v.revision = false
      ∨ v.revision < s.store.revision v.uri) {uri : String} :
  latest? s.history uri ≠ some v.entry
  := by
  intro last
  obtain rfl : v.uri = uri := (Chronicle.mem_of_latest last).2
  rcases guard with outdated | refused
  · apply Bool.false_ne_true (outdated.symm.trans (consistent.chronicle.isCurrent last))
  · apply Nat.not_lt_of_le (consistent.revision_le_latest last) refused

/-- A step of a validation keeps the parts in agreement when all that it leaves undone for the last
event of a document is still ahead. -/
theorem Consistent.advance (consistent : s.Consistent locale) {before after : List Validation}
    {v : Validation} (among : s.validations = before ++ v :: after) (stage : Stage) (store : Store)
    (commands : List Command)
    (result : ∀ diagnostics ∈ stage.result?, diagnostics = analyze locale v.text)
    (stored : ∀ uri, ∀ slot ∈ store.slots.get? uri,
      ∃ x ∈ s.history, x.uri = uri ∧ slot = x.slot locale)
    (sends : ∀ c ∈ commands, c = v.entry.command locale)
    (settled : ∀ {uri x}, latest? s.history uri = some x →
      store.slots.get? uri = some (x.slot locale)
      ∨ x ∈ s.unstored ∧ (x = v.entry → v.stage.isUnstored = true → stage.isUnstored = true))
    (sent : ∀ {uri}, latest? s.history uri = some v.entry → v.stage.isUnfinished = true →
      v.entry.command locale ∈ commands ∨ stage.isUnfinished = true) :
  Consistent locale
    { s with
      store
      validations := before ++ { v with stage } :: after
      queue := s.queue ++ commands }
  := by
  have about := (consistent.validating v (by simp [among])).1
  have moved {stages : Stage → Bool} (goes_on : stages stage = true) :
      v.entry ∈ ahead stages (before ++ { v with stage } :: after) :=
    mem_ahead.mpr ⟨{ v with stage }, by simp, goes_on, rfl⟩
  constructor
  case chronicle => apply consistent.chronicle
  case reading => apply consistent.reading
  case validating =>
    intro w known
    rcases List.mem_append.mp known with first | rest
    · apply consistent.validating w (by simp [among, first])
    · rcases List.mem_cons.mp rest with rfl | last
      · exact ⟨about, result⟩
      · apply consistent.validating w (by simp [among, last])
  case stored => apply stored
  case queued =>
    intro c waiting
    rcases List.mem_append.mp waiting with old | new
    · apply consistent.queued c old
    · exact ⟨_, about, sends c new⟩
  case published => apply consistent.published
  case remembered => apply consistent.remembered
  case settled =>
    intro uri x last
    apply (settled last).imp_right
    rintro ⟨work, goes_on⟩
    rcases List.mem_append.mp work with closing | validation
    · apply List.mem_append_left _ closing
    · apply List.mem_append_right
      rcases ahead_replace (among ▸ validation) with ⟨rfl, stage⟩ | rest
      · apply moved (goes_on rfl stage)
      · apply rest
  case announced =>
    intro uri x last
    apply (consistent.announced last).imp_right
    rintro (waiting | work)
    · exact .inl (List.mem_append_left _ waiting)
    · rcases List.mem_append.mp work with closing | validation
      · exact .inr (List.mem_append_left _ closing)
      · rcases ahead_replace (among ▸ validation) with ⟨rfl, stage⟩ | rest
        · apply (sent last stage).imp (List.mem_append_right _)
            fun goes_on => List.mem_append_right _ (moved goes_on)
        · exact .inr (List.mem_append_right _ rest)

theorem Consistent.validate (consistent : s.Consistent locale) {before after : List Validation}
    {v : Validation} (among : s.validations = before ++ v :: after) :
  (s.validate locale before v after).Consistent locale
  := by
  obtain ⟨about, result⟩ := consistent.validating v (by simp [among])
  have moves := v.step_moves locale s.documents s.store
  unfold Moment.validate
  generalize v.step locale s.documents s.store = next at moves
  cases moves with
  | passes stage unstored unfinished same =>
    apply consistent.advance among stage s.store [] (same ▸ result) consistent.stored
    · simp
    · exact fun last => (consistent.settled last).imp_right fun work =>
        ⟨work, fun _ ahead => unstored.trans ahead⟩
    · exact fun _ ahead => .inr (unfinished.trans ahead)
  | stops guard =>
    apply consistent.advance among .finished s.store [] _ consistent.stored
    · simp
    · intro uri x last
      refine (consistent.settled last).imp_right fun work => ⟨work, fun same => ?_⟩
      apply absurd (same ▸ last) (consistent.superseded guard)
    · exact fun last => absurd last (consistent.superseded guard)
    · simp [Stage.result?]
  | stores admitted =>
    apply consistent.advance among (.analyzed (analyze locale v.text)) (s.offered locale v.entry) []
      _ (consistent.offered_stored about)
    · simp
    · exact fun last => (consistent.offered_settled about last).imp_right fun ⟨work, differ⟩ =>
        ⟨work, fun same => absurd same differ⟩
    · exact fun _ _ => .inr rfl
    · simp [Stage.result?]
  | publishes diagnostics confirmed =>
    obtain rfl : diagnostics = analyze locale v.text :=
      result diagnostics (by simp [confirmed, Stage.result?])
    apply consistent.advance among .finished s.store [v.entry.command locale] _ consistent.stored
    · simp
    · exact fun last => (consistent.settled last).imp_right fun work =>
        ⟨work, fun _ unstored => by simp [confirmed, Stage.isUnstored] at unstored⟩
    · exact fun _ _ => .inl (List.mem_singleton.mpr rfl)
    · simp [Stage.result?]

/-! ### Steps of the writer -/

/-- What was written last about a document is not newer than its last event. -/
theorem Consistent.last_le_latest (consistent : s.Consistent locale) {uri : String} {x : Entry}
    {p : Publication} (last : latest? s.history uri = some x)
    (written : lastPublication? s.written uri = some p) :
  p.revision ≤ x.revision
  := by
  obtain ⟨member, about⟩ := mem_of_lastPublication written
  obtain ⟨y, known, rfl⟩ := consistent.published p member
  apply consistent.chronicle.le_latest last known about

theorem Consistent.write (consistent : s.Consistent locale) {c : Command} {rest : List Command}
    (first : s.queue = c :: rest) :
  (s.write c rest).Consistent locale
  := by
  obtain ⟨x, known, rfl⟩ := consistent.queued c (by simp [first])
  -- A command for another event than the one that is taken out stays in the queue.
  have stays {y : Entry} (member : y ∈ s.history) (differ : y ≠ x)
      (waiting : y.command locale ∈ s.queue) : y.command locale ∈ rest := by
    rcases List.mem_cons.mp (first ▸ waiting) with same | behind
    · injection same with _ revision _
      apply absurd (consistent.chronicle.eq_of_revision member known revision) differ
    · apply behind
  have queued : ∀ d ∈ rest, ∃ y ∈ s.history, d = y.command locale :=
    fun d waiting => consistent.queued d (by simp [first, waiting])
  unfold Moment.write
  rcases consistent.remembered.step x.uri x.revision (x.publication locale).frame with
    ⟨p, newest, newer, dropped⟩ | ⟨newest, writer, written, remembers⟩
  · rw [Entry.command, dropped]
    refine { consistent with queued, announced := fun {uri y} last => ?_ }
    refine (consistent.announced last).imp_right (Or.imp_left (stays ?_ ?_))
    · apply (Chronicle.mem_of_latest last).1
    · rintro rfl
      obtain rfl := (Chronicle.mem_of_latest last).2
      apply absurd newer (Nat.not_lt_of_le (consistent.last_le_latest last newest))
  · rw [Entry.command, written]
    refine { consistent with
      queued, remembered := remembers, published := ?_, announced := fun {uri y} last => ?_ }
    · intro p member
      rcases List.mem_cons.mp member with rfl | member
      · exact ⟨x, known, rfl⟩
      · apply consistent.published p member
    · obtain ⟨member, about⟩ := Chronicle.mem_of_latest last
      change lastPublication? (x.publication locale :: s.written) uri = _ ∨ _
      rw [lastPublication?_cons]
      by_cases same : y = x
      · subst same
        exact .inl (if_pos about)
      · refine (consistent.announced last).imp (fun found => ?_) (Or.imp_left (stays member same))
        rw [if_neg, found]
        -- The last event was written, so one that the writer still lets through has its revision.
        intro also
        obtain rfl : x.uri = uri := also
        have later := newest _ found
        have older := consistent.chronicle.le_latest last known rfl
        apply same (consistent.chronicle.eq_of_revision member known (Nat.le_antisymm later older))

/-! ### Runs -/

theorem Step.consistent {t : Moment} (step : Step locale s t) (consistent : s.Consistent locale) :
  t.Consistent locale
  := by
  cases step with
  | edit e ready => apply consistent.edit ready e
  | close uri ready => apply consistent.close ready uri
  | empty busy => apply consistent.empty busy
  | announce busy => apply consistent.announce busy
  | validate before after among => apply consistent.validate among
  | write first => apply consistent.write first

/-- At every moment of a session, its parts agree with the events. -/
theorem Run.consistent (run : Run locale start s) :
  s.Consistent locale
  := by
  induction run with
  | refl => apply start_consistent locale
  | tail _ step ih => apply step.consistent ih

theorem Step.revision_le {t : Moment} (step : Step locale s t) (uri : String) :
  s.store.revision uri ≤ t.store.revision uri
  := by
  cases step with
  | edit | close | announce | write => apply Nat.le_refl _
  | empty => apply Store.revision_le_setIfNewer ..
  | @validate _ _ v =>
    have moves := v.step_moves locale s.documents s.store
    unfold Moment.validate
    generalize v.step locale s.documents s.store = next at moves
    cases moves with
    | passes | stops | publishes => apply Nat.le_refl _
    | stores => apply Store.revision_le_setIfNewer ..

/-- The revision that is stored for a document never decreases. -/
theorem Run.revision_le {t : Moment} (run : Run locale s t) (uri : String) :
  s.store.revision uri ≤ t.store.revision uri
  := by
  induction run with
  | refl => apply Nat.le_refl _
  | tail _ step ih => apply Nat.le_trans ih (step.revision_le uri)

/-! ### Freshness -/

/-- When nothing is left to do, what the last event of a document asks for is stored and was written
last about it, unless the reader is still busy with that event. -/
theorem Consistent.fresh (consistent : s.Consistent locale) (quiet : s.Quiet) {uri : String}
    {x : Entry} (last : latest? s.history uri = some x) (handled : s.reader.closing? ≠ some x) :
  s.store.slots.get? uri = some (x.slot locale)
    ∧ lastPublication? s.written uri = some (x.publication locale)
  := by
  have idle (stages : Stage → Bool) (ended : stages .finished = false) :
      x ∉ ahead stages s.validations := by
    intro work
    obtain ⟨v, known, stage, -⟩ := mem_ahead.mp work
    rw [quiet.finished v known, ended] at stage
    apply Bool.false_ne_true stage
  have unread : s.reader.unstored? ≠ some x := by
    intro work
    cases reader : s.reader <;> simp_all [Reader.unstored?, Reader.closing?]
  constructor
  · apply (consistent.settled last).resolve_right
    simp [unstored, unread, idle Stage.isUnstored rfl]
  · apply (consistent.announced last).resolve_right
    simp [unsent, handled, quiet.drained, idle Stage.isUnfinished rfl]

/-- At every moment of a session and for every order of its steps: the revisions of the publications
about a document never decrease; each of them is what an event asks for, and tells the editor the
diagnostics of the text of the event; after the one of a closing there is none of an event before it;
the revision that is stored for a document never decreases; and when all validations have ended and the
queue is empty, what is stored for each document that had an event, and what the editor was told last
about it, are the diagnostics of the text of its last event, or none if that closed it, unless the
reader is still closing it. -/
theorem diagnostics_never_stale (locale : Locale) (s t : Moment) (reached : Run locale start s)
    (later : Run locale s t) :
  (∀ p q, [q, p].Sublist t.written → p.uri = q.uri → p.revision ≤ q.revision)
    ∧ (∀ p ∈ t.written, ∃ x ∈ t.history, p = x.publication locale
      ∧ Editor.update? p.frame = some ⟨x.uri, x.event.version?, x.event.diagnostics locale⟩)
    ∧ (∀ x earlier, x :: earlier <:+ t.history → ∀ uri, x.event = .close uri →
      ∀ q, [q, x.publication locale].Sublist t.written → q.uri = uri →
        ∀ y ∈ earlier, q ≠ y.publication locale)
    ∧ (∀ uri, s.store.revision uri ≤ t.store.revision uri)
    ∧ (t.Quiet → ∀ uri, (∃ y ∈ t.history, y.uri = uri) →
      (∀ y ∈ t.reader.closing?, y.uri ≠ uri) →
        ∃ x p, latest? t.history uri = some x ∧ lastPublication? t.written uri = some p
          ∧ t.store.slots.get? uri = some ⟨x.revision, x.event.diagnostics locale⟩
          ∧ p.revision = x.revision
          ∧ Editor.update? p.frame = some ⟨uri, x.event.version?, x.event.diagnostics locale⟩)
  := by
  have consistent := Run.consistent (reached.trans later)
  have rising (p q : Publication) (order : [q, p].Sublist t.written) (same : p.uri = q.uri) :
      p.revision ≤ q.revision :=
    (List.pairwise_pair.mp (consistent.remembered.rising.sublist order)) same.symm
  refine ⟨rising, ?_, ?_, later.revision_le, ?_⟩
  · intro p written
    obtain ⟨x, known, rfl⟩ := consistent.published p written
    exact ⟨x, known, rfl, Editor.update?_publish ..⟩
  · rintro ⟨revision, event⟩ earlier order uri rfl q after about y before rfl
    have older : y.revision < revision :=
      (List.pairwise_cons.mp (consistent.chronicle.rising.sublist order.sublist)).1 y before
    apply Nat.not_lt_of_le (rising _ _ after about.symm) older
  · rintro quiet uri ⟨y, known, about⟩ free
    obtain ⟨x, last⟩ : ∃ x, latest? t.history uri = some x := by
      rw [← Option.isSome_iff_exists, latest?, List.find?_isSome]
      exact ⟨y, known, by simpa using about⟩
    obtain rfl := (Chronicle.mem_of_latest last).2
    obtain ⟨stored, written⟩ := consistent.fresh quiet last fun busy => free x busy rfl
    exact ⟨x, x.publication locale, last, written, stored, rfl, Editor.update?_publish ..⟩

/-- A validation that stores its result while the reader is closing the document leaves no trace. -/
theorem diagnostics_cleared_by_close :
  ∃ s t, Run .en start s ∧ Run .en s t ∧ t.Quiet ∧ s.store.revision "a" = 1
    ∧ t.store.slots.get? "a" = some ⟨2, []⟩
    ∧ ∃ p, lastPublication? t.written "a" = some p ∧ p.revision = 2
      ∧ Editor.update? p.frame = some ⟨"a", none, []⟩
  := by
  let v (stage : Stage) : Validation := ⟨"a", 1, 1, "var", stage⟩
  let opened := start.edit ⟨"a", 1, "var"⟩
  let closing := (opened.validate .en [] (v .started) []).close "a"
  let s := closing.validate .en [] (v .admitted) []
  let stopped := (s.empty "a" 2).validate .en [] (v (.analyzed (analyze .en "var"))) []
  let t := (stopped.announce "a" 2).write (.publish "a" 2 (Payload.publish "a" none [])) []
  have reached : Run .en start s :=
    .tail (.tail (.tail (.single (.edit _ rfl)) (.validate [] [] rfl)) (.close "a" rfl))
      (.validate [] [] rfl)
  have later : Run .en s t :=
    .tail (.tail (.tail (.single (.empty rfl)) (.validate [] [] rfl)) (.announce rfl)) (.write rfl)
  have quiet : t.Quiet := ⟨by decide +kernel, rfl⟩
  obtain ⟨x, p, last, written, stored, revision, told⟩ :=
    (diagnostics_never_stale .en s t reached later).2.2.2.2 quiet "a" ⟨⟨2, .close "a"⟩, .head _, rfl⟩
      (by rintro y ⟨⟩)
  obtain rfl : ⟨2, .close "a"⟩ = x := Option.some.inj last
  exact ⟨s, t, reached, later, quiet, rfl, stored, p, written, revision, told⟩

end Moment

end PlanetServer
