import PlanetServer.Session.Validation

/-!
# The guards of a session

Three tables keep diagnostics that come too late from the client: the documents, which a validation
asks twice whether its revision is still the latest one; the store, which refuses what is older than
what it holds; and the writer, which drops what is older than what it has written.

* `Documents.isCurrent_iff` says which revision passes the first guard.
* `Store.slots_setIfNewer` says what the second guard lets through.
* `Writer.step_publish` says what the third guard lets through.
* `Validation.step_moves` says all that one step of a validation can do.
-/

namespace PlanetServer

/-! ### Documents -/

namespace Documents

variable (d : Documents) (uri other : String)

theorem state?_openAt (version : Int) :
  (d.openAt uri version).2.state? other
    = if other = uri then some ⟨version, d.lastRevision + 1⟩ else d.state? other
  := Table.get?_insert ..

theorem state?_close :
  (d.close uri).2.state? other = if other = uri then none else d.state? other
  := Table.get?_erase ..

theorem isCurrent_iff (revision : Nat) :
  d.isCurrent uri revision = true ↔ ∃ version, d.state? uri = some ⟨version, revision⟩
  := by
  rw [isCurrent, Option.any_eq_true]
  constructor
  · rintro ⟨⟨version, given⟩, found, same⟩
    obtain rfl : given = revision := by simpa using same
    exact ⟨version, found⟩
  · rintro ⟨version, found⟩
    exact ⟨_, found, by simp⟩

end Documents

/-! ### The store -/

namespace Store

variable (s : Store) (uri other : String) (revision : Nat) (diagnostics : List Diagnostic)

/-- A result is kept when the stored revision is not newer, and it touches no other document. -/
theorem slots_setIfNewer :
  (s.setIfNewer uri revision diagnostics).2.slots.get? other
    = if other = uri ∧ s.revision uri ≤ revision then some ⟨revision, diagnostics⟩
      else s.slots.get? other
  := by
  by_cases kept : s.revision uri ≤ revision
  · simp [setIfNewer, accepts, kept, Table.get?_insert]
  · simp [setIfNewer, accepts, kept]

theorem revision_eq_of_slot {slot : Slot} (found : s.slots.get? uri = some slot) :
  s.revision uri = slot.revision
  := by
  simp [Store.revision, found]

theorem revision_le_setIfNewer :
  s.revision other ≤ (s.setIfNewer uri revision diagnostics).2.revision other
  := by
  have slots := slots_setIfNewer s uri other revision diagnostics
  by_cases kept : other = uri ∧ s.revision uri ≤ revision
  · rw [if_pos kept] at slots
    rw [revision_eq_of_slot _ _ slots, kept.1]
    apply kept.2
  · rw [if_neg kept] at slots
    simp [Store.revision, slots]

end Store

/-! ### The writer -/

/-- The first element that passes a test stands before all others that pass it. -/
theorem eq_or_before_of_find? {α : Type} {test : α → Bool} {before : α → α → Prop} {l : List α}
    {a b : α} (sorted : l.Pairwise before) (first : l.find? test = some a) (known : b ∈ l)
    (passes : test b = true) :
  b = a ∨ before a b
  := by
  obtain ⟨-, skipped, rest, rfl, failed⟩ := List.find?_eq_some_iff_append.mp first
  rcases List.mem_append.mp known with early | late
  · have fails : test b = false := by simpa using failed b early
    apply absurd passes (by simp [fails])
  · rcases List.mem_cons.mp late with same | behind
    · exact .inl same
    · exact .inr ((List.pairwise_cons.mp (List.pairwise_append.mp sorted).2.1).1 b behind)

/-- The diagnostics of a document that were written. -/
structure Publication where
  /-- The name of the document. -/
  uri : String
  /-- The revision the diagnostics were found for. -/
  revision : Nat
  /-- The message. -/
  frame : Json

/-- What the writing of a message for a command publishes, none if nothing is written. -/
def Command.publication? : Command → Option Json → Option Publication
  | .publish uri revision _, some frame => some ⟨uri, revision, frame⟩
  | _, _ => none

/-- The last publication about a document, of publications in the opposite order of writing. -/
def lastPublication? (written : List Publication) (uri : String) : Option Publication :=
  written.find? fun p => p.uri = uri

theorem lastPublication?_cons (p : Publication) (written : List Publication) (uri : String) :
  lastPublication? (p :: written) uri
    = if p.uri = uri then some p else lastPublication? written uri
  := by
  by_cases same : p.uri = uri <;> simp [lastPublication?, same]

theorem mem_of_lastPublication {written : List Publication} {uri : String} {p : Publication}
    (last : lastPublication? written uri = some p) :
  p ∈ written ∧ p.uri = uri
  := ⟨List.mem_of_find?_eq_some last, by simpa using List.find?_some last⟩

namespace Writer

/-- A writer remembers what was written when it still writes, knows the revision of the last
publication about each document, and has never gone back. -/
structure Remembers (w : Writer) (written : List Publication) : Prop where
  /-- It still writes. -/
  running : w.stopped = false
  /-- It knows the revision of the last publication about each document. -/
  seen (uri : String) :
    w.published.get? uri = (lastPublication? written uri).map Publication.revision
  /-- The revisions of the publications about a document never decrease. -/
  rising : written.Pairwise fun p q => p.uri = q.uri → q.revision ≤ p.revision

theorem start_remembers : start.Remembers [] where
  running := rfl
  seen _ := rfl
  rising := .nil

/-- A running writer drops what is older than the last publication about the document. -/
theorem step_publish {w : Writer} (running : w.stopped = false) (uri : String) (revision : Nat)
    (frame : Json) :
  w.step (.publish uri revision frame)
    = if revision < (w.published.get? uri).getD revision then (none, w)
      else (some frame, { w with published := w.published.insert uri revision })
  := by
  simp [step, running]

variable {w : Writer} {written : List Publication} {uri : String} {revision : Nat}

/-- No publication about a document is newer than the last one. -/
theorem Remembers.le_last (remembers : w.Remembers written) {p q : Publication}
    (last : lastPublication? written uri = some p) (known : q ∈ written) (about : q.uri = uri) :
  q.revision ≤ p.revision
  := by
  rcases eq_or_before_of_find? remembers.rising last known (by simpa using about) with rfl | older
  · apply Nat.le_refl
  · apply older
    rw [about, (mem_of_lastPublication last).2]

/-- The writer drops diagnostics when newer ones of the document were written last, and writes them
otherwise. -/
theorem Remembers.step (remembers : w.Remembers written) (uri : String) (revision : Nat)
    (frame : Json) :
  (∃ p, lastPublication? written uri = some p ∧ revision < p.revision
    ∧ w.step (.publish uri revision frame) = (none, w))
  ∨ ((∀ p, lastPublication? written uri = some p → p.revision ≤ revision)
    ∧ ∃ w', w.step (.publish uri revision frame) = (some frame, w')
      ∧ w'.Remembers (⟨uri, revision, frame⟩ :: written))
  := by
  rw [step_publish remembers.running, remembers.seen uri]
  by_cases old : revision < ((lastPublication? written uri).map Publication.revision).getD revision
  · left
    rw [if_pos old]
    cases last : lastPublication? written uri with
    | none => simp [last] at old
    | some p => exact ⟨p, rfl, by simpa [last] using old, rfl⟩
  · right
    rw [if_neg old]
    have newer (p : Publication) (last : lastPublication? written uri = some p) :
        p.revision ≤ revision := by
      simpa [last] using old
    refine ⟨newer, _, rfl, remembers.running, fun other => ?_, List.pairwise_cons.mpr ⟨?_, ?_⟩⟩
    · rw [lastPublication?_cons, Table.get?_insert, remembers.seen other]
      by_cases same : other = uri
      · simp [same]
      · simp [same, Ne.symm same]
    · intro q known same
      cases last : lastPublication? written uri with
      | none => apply absurd same.symm (by simpa using List.find?_eq_none.mp last q known)
      | some p => apply Nat.le_trans (remembers.le_last last known same.symm) (newer p last)
    · apply remembers.rising

end Writer

/-! ### Validations -/

namespace Stage

/-- Whether the result of the analysis is still to be stored. -/
def isUnstored : Stage → Bool
  | .started | .admitted => true
  | _ => false

/-- Whether the validation goes on. -/
def isUnfinished : Stage → Bool
  | .finished => false
  | _ => true

/-- The result of the analysis, none if it was not made or is not needed any more. -/
def result? : Stage → Option (List Diagnostic)
  | .analyzed diagnostics | .confirmed diagnostics => some diagnostics
  | _ => none

end Stage

namespace Validation

/-- All that a step of a validation can do: the validation after it, the store and the commands. -/
inductive Moves (locale : Locale) (documents : Documents) (store : Store) (v : Validation) :
    Validation × Store × List Command → Prop where
  /-- It goes on to a stage with the same work ahead, or it has ended before. -/
  | passes (stage : Stage) (unstored : stage.isUnstored = v.stage.isUnstored)
      (unfinished : stage.isUnfinished = v.stage.isUnfinished)
      (result : stage.result? = v.stage.result?) :
    Moves locale documents store v ({ v with stage }, store, [])
  /-- A guard stops it. -/
  | stops (guard : documents.isCurrent v.uri v.revision = false
      ∨ v.revision < store.revision v.uri) :
    Moves locale documents store v ({ v with stage := .finished }, store, [])
  /-- It stores its result. -/
  | stores (admitted : v.stage = .admitted) :
    Moves locale documents store v
      ({ v with stage := .analyzed (analyze locale v.text) },
        (store.setIfNewer v.uri v.revision (analyze locale v.text)).2, [])
  /-- It asks for its result to be published. -/
  | publishes (diagnostics : List Diagnostic) (confirmed : v.stage = .confirmed diagnostics) :
    Moves locale documents store v
      ({ v with stage := .finished }, store, [v.publish diagnostics])

theorem step_moves (locale : Locale) (documents : Documents) (store : Store) (v : Validation) :
  v.Moves locale documents store (v.step locale documents store)
  := by
  obtain ⟨uri, version, revision, text, stage⟩ := v
  cases stage with
  | started =>
    by_cases current : documents.isCurrent uri revision
    · simp only [step, checked, current, ↓reduceIte]
      exact .passes .admitted rfl rfl rfl
    · simp only [step, checked, current]
      exact .stops (.inl (by simpa using current))
  | admitted =>
    have stored := @Moves.stores locale documents store
      ⟨uri, version, revision, text, .admitted⟩ rfl
    by_cases kept : store.revision uri ≤ revision
    · simpa [step, Store.revalidateAt, Store.setIfNewer, Store.accepts, kept] using stored
    · simp only [step, Store.revalidateAt, Store.setIfNewer, Store.accepts, kept]
      exact .stops (.inr (by simpa using kept))
  | analyzed diagnostics =>
    by_cases current : documents.isCurrent uri revision
    · simp only [step, checked, current, ↓reduceIte]
      exact .passes (.confirmed diagnostics) rfl rfl rfl
    · simp only [step, checked, current]
      exact .stops (.inl (by simpa using current))
  | confirmed diagnostics => exact .publishes diagnostics rfl
  | finished => exact .passes .finished rfl rfl rfl

end Validation

end PlanetServer
