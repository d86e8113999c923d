import Mathlib.Data.List.Induction
import Mathlib.Order.Nat
import PlanetServer.Proofs.Session.Guards

/-!
# What the writer drops

The writer drops the diagnostics of a document if it was asked before to publish diagnostics of the same
document for a greater revision. It writes everything else until it is asked to stop.

* `Command.isSuperseded` says so of a command and all commands before it, those that were dropped
  included. `Command.timely` are the commands of a sequence that are not superseded.
* `Writer.Tracks` is the invariant: the writer knows the greatest revision for each document. It is kept
  by one command (`Writer.Tracks.step`), so `Writer.carriedOut_eq` holds for a whole sequence.
* `Command.timely_about` and `Command.last_timely` look at the commands about one document.
-/

namespace PlanetServer

theorem max?_concat (revisions : List Nat) (revision : Nat) :
  (revisions ++ [revision]).max? = some (revisions.max?.elim revision (max · revision))
  := by
  cases revisions with
  | nil => rfl
  | cons first revisions =>
    rw [List.cons_append, List.max?_cons', List.max?_cons', List.foldl_append]
    rfl

/-! ### Commands -/

namespace Command

/-- The message that a command carries. -/
def frame? : Command → Option Json
  | send frame | publish _ _ frame => some frame
  | shutdown => none

/-- Whether a command is to write a message in any case. -/
def isSend : Command → Bool
  | send _ => true
  | _ => false

/-- Whether a command is to stop writing. -/
def isShutdown : Command → Bool
  | shutdown => true
  | _ => false

/-- The revision of the diagnostics of a document that a command is to publish. -/
def revisionOf? (uri : String) : Command → Option Nat
  | publish other revision _ => if other = uri then some revision else none
  | _ => none

/-- Whether a command is to publish diagnostics of a document. -/
def isAbout (uri : String) (c : Command) : Bool :=
  (c.revisionOf? uri).isSome

/-- The greatest revision of the diagnostics of a document that some commands are to publish. -/
def greatest? (cs : List Command) (uri : String) : Option Nat :=
  (cs.filterMap (revisionOf? uri)).max?

/-- Whether a command comes too late: an earlier one was to publish diagnostics of the same document for
a greater revision. -/
def isSuperseded (earlier : List Command) : Command → Bool
  | publish uri revision _ => (greatest? earlier uri).any (revision < ·)
  | _ => false

/-- The commands that do not come too late, where others came before them. -/
def timelyAfter (earlier : List Command) : List Command → List Command
  | [] => []
  | c :: cs =>
    if c.isSuperseded earlier then timelyAfter (earlier ++ [c]) cs
    else c :: timelyAfter (earlier ++ [c]) cs

/-- The commands of a sequence that do not come too late. -/
def timely (cs : List Command) : List Command :=
  timelyAfter [] cs

/-- The commands before the first one that is to stop writing. -/
def untilShutdown (cs : List Command) : List Command :=
  cs.takeWhile fun c => !c.isShutdown

variable {c : Command} {earlier cs : List Command} {uri : String} {revision : Nat}

theorem eq_shutdown (ends : c.isShutdown = true) :
  c = .shutdown
  := by
  cases c with
  | send | publish => cases ends
  | shutdown => rfl

theorem isSome_frame? (c : Command) :
  c.frame?.isSome = !c.isShutdown
  := by
  cases c <;> rfl

/-! ### Greatest revisions -/

theorem greatest?_concat_of_none (other : c.revisionOf? uri = none) :
  greatest? (cs ++ [c]) uri = greatest? cs uri
  := by
  simp [greatest?, other]

theorem greatest?_concat_of_some (about : c.revisionOf? uri = some revision) :
  greatest? (cs ++ [c]) uri = some ((greatest? cs uri).elim revision (max · revision))
  := by
  rw [greatest?, List.filterMap_append, List.filterMap_cons_some about, List.filterMap_nil, max?_concat]
  rfl

/-- A command that comes too late does not change the greatest revision. -/
theorem greatest?_of_superseded (late : c.isSuperseded earlier = true) (uri : String) :
  greatest? (earlier ++ [c]) uri = greatest? earlier uri
  := by
  cases about : c.revisionOf? uri with
  | none => apply greatest?_concat_of_none about
  | some given =>
    cases c with
    | send | shutdown => cases about
    | publish other revision frame =>
      obtain ⟨rfl, rfl⟩ : other = uri ∧ revision = given := by simpa [revisionOf?] using about
      obtain ⟨greatest, found, older⟩ := (Option.any_eq_true ..).mp late
      rw [greatest?_concat_of_some about, found, Option.elim_some,
        max_eq_left (of_decide_eq_true older).le]

/-- A command that does not come too late carries the greatest revision so far. -/
theorem greatest?_of_timely (timely : c.isSuperseded earlier = false)
    (about : c.revisionOf? uri = some revision) :
  greatest? (earlier ++ [c]) uri = some revision
  := by
  rw [greatest?_concat_of_some about]
  cases c with
  | send | shutdown => cases about
  | publish other given frame =>
    obtain ⟨rfl, rfl⟩ : other = uri ∧ given = revision := by simpa [revisionOf?] using about
    cases found : greatest? earlier other with
    | none => rfl
    | some greatest =>
      have newer : greatest ≤ given := by simpa [isSuperseded, found] using timely
      rw [Option.elim_some, max_eq_right newer]

theorem le_greatest? (known : c ∈ cs) (about : c.revisionOf? uri = some revision) :
  ∃ greatest, greatest? cs uri = some greatest ∧ revision ≤ greatest
  := by
  have member : revision ∈ cs.filterMap (revisionOf? uri) := List.mem_filterMap.mpr ⟨c, known, about⟩
  cases found : greatest? cs uri with
  | none =>
    rw [List.max?_eq_none_iff.mp found] at member
    cases member
  | some greatest => exact ⟨greatest, rfl, (List.max?_eq_some_iff.mp found).2 revision member⟩

/-! ### Commands that do not come too late -/

theorem timelyAfter_append (earlier cs ds : List Command) :
  timelyAfter earlier (cs ++ ds) = timelyAfter earlier cs ++ timelyAfter (earlier ++ cs) ds
  := by
  induction cs generalizing earlier with
  | nil => simp [timelyAfter]
  | cons c cs ih =>
    have later := ih (earlier ++ [c])
    rw [List.append_assoc] at later
    rw [List.cons_append, timelyAfter, timelyAfter, later]
    split <;> rfl

theorem timely_concat (cs : List Command) (c : Command) :
  timely (cs ++ [c]) = timely cs ++ if c.isSuperseded cs then [] else [c]
  := by
  rw [timely, timelyAfter_append]
  rfl

/-- Messages that are to be written in any case are never dropped. -/
theorem timely_send (cs : List Command) :
  (timely cs).filter isSend = cs.filter isSend
  := by
  induction cs using List.reverseRecOn with
  | nil => rfl
  | append_singleton cs c ih =>
    rw [timely_concat, List.filter_append, List.filter_append, ih]
    cases c with
    | send | shutdown => rfl
    | publish => split <;> rfl

theorem greatest?_about (cs : List Command) (uri : String) :
  greatest? (cs.filter (isAbout uri)) uri = greatest? cs uri
  := by
  unfold greatest?
  congr 1
  rw [List.filterMap_filter]
  congr 1
  funext c
  cases found : c.revisionOf? uri <;> simp [isAbout, found]

/-- What comes too late about a document is told by the commands about this document. -/
theorem isSuperseded_about (about : c.isAbout uri = true) (cs : List Command) :
  c.isSuperseded (cs.filter (isAbout uri)) = c.isSuperseded cs
  := by
  cases c with
  | send | shutdown => cases about
  | publish other revision frame =>
    obtain rfl : other = uri := by simpa [isAbout, revisionOf?] using about
    rw [isSuperseded, greatest?_about]
    rfl

theorem timely_about (cs : List Command) (uri : String) :
  (timely cs).filter (isAbout uri) = timely (cs.filter (isAbout uri))
  := by
  induction cs using List.reverseRecOn with
  | nil => rfl
  | append_singleton cs c ih =>
    rw [timely_concat, List.filter_append, List.filter_append, ih]
    cases about : c.isAbout uri with
    | false =>
      rw [List.filter_cons_of_neg (by simp [about]), List.filter_nil, List.append_nil]
      split <;> simp [about]
    | true =>
      rw [List.filter_cons_of_pos about, List.filter_nil, timely_concat, isSuperseded_about about]
      split <;> simp [about]

/-- The last timely command about a document carries the greatest revision of all commands about it. -/
theorem last_timely (cs : List Command) (uri : String) :
  ((timely cs).filter (isAbout uri)).getLast?.bind (revisionOf? uri) = greatest? cs uri
  := by
  induction cs using List.reverseRecOn with
  | nil => rfl
  | append_singleton cs c ih =>
    rw [timely_concat, List.filter_append]
    cases late : c.isSuperseded cs with
    | true =>
      rw [greatest?_of_superseded late, ← ih]
      simp
    | false =>
      cases about : c.revisionOf? uri with
      | none =>
        rw [greatest?_concat_of_none about, ← ih]
        simp [isAbout, about]
      | some revision =>
        rw [greatest?_of_timely late about]
        simp [isAbout, about]

/-- Commands about one document, and those to stop, stop where all commands stop. -/
theorem untilShutdown_about (cs : List Command) (uri : String) :
  untilShutdown (cs.filter fun c => c.isAbout uri || c.isShutdown)
    = (untilShutdown cs).filter (isAbout uri)
  := by
  induction cs with
  | nil => rfl
  | cons c cs ih =>
    unfold untilShutdown at ih ⊢
    cases c with
    | send frame => simpa [isAbout, isShutdown, revisionOf?] using ih
    | shutdown => simp [isShutdown]
    | publish other revision frame =>
      by_cases same : other = uri
      · simpa [isAbout, isShutdown, revisionOf?, same] using ih
      · simpa [isAbout, isShutdown, revisionOf?, same] using ih

end Command

/-! ### The writer -/

namespace Writer

open Command

/-- The commands of a sequence for which the writer writes a message. -/
def carriedOut (w : Writer) : List Command → List Command
  | [] => []
  | c :: cs =>
    if (w.step c).1.isSome then c :: (w.step c).2.carriedOut cs
    else (w.step c).2.carriedOut cs

/-- A writer still writes, and knows the greatest revision for each document. -/
structure Tracks (w : Writer) (earlier : List Command) : Prop where
  /-- It still writes. -/
  running : w.stopped = false
  /-- It knows the greatest revision for each document. -/
  greatest (uri : String) : w.published.get? uri = greatest? earlier uri

variable {w : Writer} {earlier : List Command} {c : Command}

theorem start_tracks : start.Tracks [] where
  running := rfl
  greatest _ := rfl

/-- A message is written for a command unless the command comes too late, and the writer then knows the
greatest revisions of one more command. -/
theorem Tracks.step (tracks : w.Tracks earlier) (goes_on : c.isShutdown = false) :
  (w.step c).1 = (if c.isSuperseded earlier then none else c.frame?)
    ∧ (w.step c).2.Tracks (earlier ++ [c])
  := by
  have running := tracks.running
  cases c with
  | shutdown => cases goes_on
  | send frame =>
    have same : w.step (.send frame) = (some frame, w) := by simp [Writer.step, running]
    rw [same]
    refine ⟨rfl, running, fun uri => ?_⟩
    rw [greatest?_concat_of_none rfl]
    apply tracks.greatest
  | publish uri revision frame =>
    rw [step_publish running, tracks.greatest]
    cases late : (Command.publish uri revision frame).isSuperseded earlier with
    | true =>
      obtain ⟨greatest, found, older⟩ := (Option.any_eq_true ..).mp late
      rw [found, Option.getD_some, if_pos (of_decide_eq_true older)]
      refine ⟨rfl, running, fun other => ?_⟩
      rw [greatest?_of_superseded late]
      apply tracks.greatest
    | false =>
      have newer : ¬ revision < (greatest? earlier uri).getD revision := by
        cases found : greatest? earlier uri with
        | none => simp
        | some greatest => simpa [isSuperseded, found] using late
      rw [if_neg newer]
      refine ⟨rfl, running, fun other => ?_⟩
      rw [Table.get?_insert]
      by_cases same : other = uri
      · rw [if_pos same, same, greatest?_of_timely late (if_pos rfl)]
      · have untouched : (Command.publish uri revision frame).revisionOf? other = none :=
          if_neg (Ne.symm same)
        rw [if_neg same, greatest?_concat_of_none untouched]
        apply tracks.greatest

theorem carriedOut_stopped (stopped : w.stopped = true) (cs : List Command) :
  w.carriedOut cs = []
  := by
  induction cs with
  | nil => rfl
  | cons c cs ih =>
    have same : w.step c = (none, w) := by simp [Writer.step, stopped]
    simp [carriedOut, same, ih]

/-- The writer writes for the commands that do not come too late, until it is asked to stop. -/
theorem carriedOut_eq (tracks : w.Tracks earlier) (cs : List Command) :
  w.carriedOut cs = timelyAfter earlier (untilShutdown cs)
  := by
  induction cs generalizing w earlier with
  | nil => rfl
  | cons c cs ih =>
    cases ends : c.isShutdown with
    | true =>
      obtain rfl := eq_shutdown ends
      have stops : w.step .shutdown = (none, { w with stopped := true }) := by
        simp [Writer.step, tracks.running]
      rw [carriedOut, stops]
      apply carriedOut_stopped rfl
    | false =>
      obtain ⟨frame, next⟩ := tracks.step ends
      have more : untilShutdown (c :: cs) = c :: untilShutdown cs := by simp [untilShutdown, ends]
      have carries : c.frame?.isSome = true := by rw [isSome_frame?, ends, Bool.not_false]
      rw [carriedOut, ih next, frame, more, timelyAfter]
      cases c.isSuperseded earlier with
      | true => rfl
      | false => exact if_pos carries

/-- What is written for a command is the message that it carries. -/
theorem frame?_of_step {frame : Json} (written : (w.step c).1 = some frame) :
  c.frame? = some frame
  := by
  unfold Writer.step at written
  split at written
  · cases written
  cases c with
  | send => apply written
  | shutdown => cases written
  | publish =>
    dsimp only at written
    split at written
    · cases written
    · apply written

theorem write_fst (w : Writer) (cs : List Command) :
  (w.write cs).1 = (w.carriedOut cs).filterMap frame?
  := by
  induction cs generalizing w with
  | nil => rfl
  | cons c cs ih =>
    have first : (w.write (c :: cs)).1 = (w.step c).1.toList ++ ((w.step c).2.write cs).1 := rfl
    rw [first, carriedOut, ih]
    cases written : (w.step c).1 with
    | none => rfl
    | some frame =>
      rw [Option.isSome_some, if_pos rfl, List.filterMap_cons_some (frame?_of_step written)]
      rfl

/-! ### Everything that is written -/

/-- The writer drops what is superseded and nothing else. It writes, in order, the messages of the
commands before the first one that stops it, without those to publish diagnostics of a document for a
revision that is lower than the greatest one of the earlier commands about that document. So no message
that is to be written in any case is dropped; what is published of one document does not depend on the
commands about others; and what is published last of a document has the greatest revision. -/
theorem writes_all_but_superseded (cs : List Command) :
  let before := untilShutdown cs
  let written := start.carriedOut cs
  (start.write cs).1 = written.filterMap frame?
    ∧ written = timely before
    ∧ written.filter isSend = before.filter isSend
    ∧ (∀ uri, written.filter (isAbout uri)
        = start.carriedOut (cs.filter fun c => c.isAbout uri || c.isShutdown))
    ∧ (∀ uri, ∀ c ∈ before, c.isAbout uri = true →
        ∃ last greatest, (written.filter (isAbout uri)).getLast? = some last
          ∧ last.revisionOf? uri = some greatest
          ∧ ∀ d ∈ before, ∀ revision ∈ d.revisionOf? uri, revision ≤ greatest)
  := by
  intro before written
  have all : written = timely before := carriedOut_eq start_tracks cs
  refine ⟨write_fst start cs, all, ?_, fun uri => ?_, fun uri c known about => ?_⟩
  · rw [all]
    apply timely_send
  · rw [all, timely_about, carriedOut_eq start_tracks, untilShutdown_about]
    rfl
  · obtain ⟨revision, carried⟩ := Option.isSome_iff_exists.mp about
    obtain ⟨greatest, found, -⟩ := le_greatest? known carried
    have latest := last_timely before uri
    rw [found, ← all] at latest
    obtain ⟨last, ends, carries⟩ := Option.bind_eq_some_iff.mp latest
    refine ⟨last, greatest, ends, carries, fun d member revision given => ?_⟩
    obtain ⟨most, found', within⟩ := le_greatest? member given
    rwa [Option.some.inj (found.symm.trans found')]

/-- Of three revisions of a document the second comes too late, and what follows the end is not looked
at. -/
theorem writes_greatest_revision :
  let cs : List Command :=
    [.publish "a" 6 (.nat 6), .publish "a" 5 (.nat 5), .send (.nat 0), .publish "a" 7 (.nat 7),
      .shutdown, .publish "a" 8 (.nat 8)]
  (start.write cs).1 = [.nat 6, .nat 0, .nat 7]
    ∧ ∃ last greatest, ((start.carriedOut cs).filter (isAbout "a")).getLast? = some last
      ∧ last.revisionOf? "a" = some greatest ∧ 6 ≤ greatest
  := by
  intro cs
  have among : Command.publish "a" 6 (.nat 6) ∈ untilShutdown cs := by
    simp [cs, untilShutdown, isShutdown]
  obtain ⟨frames, written, -, -, latest⟩ := writes_all_but_superseded cs
  obtain ⟨last, greatest, ends, carries, most⟩ := latest "a" _ among rfl
  refine ⟨?_, last, greatest, ends, carries, most _ among 6 rfl⟩
  rw [frames, written]
  rfl

end Writer

end PlanetServer
