import Mathlib.Data.List.DropRight
import Mathlib.Data.List.MinMax
import Mathlib.Order.Nat
import Mathlib.Tactic.Common
import PlanetServer.Proofs.Session.Guards

/-!
# The store and its history

What the store holds for a document is told by the operations that took effect on the document since
it was last cleared: the last of them wrote the diagnostics, and the greatest revision among them is
the one that later results are measured against.

* `Store.Operation` is one change of the store, and `Store.run` makes a sequence of them.
* `Store.past` lists the operations that took effect on a document since it was last cleared.
* `Store.Reflects` is the invariant: it is kept by one operation (`Store.Reflects.step`) and so it
  holds after all of them (`Store.run_reflects`).
* Operations that carry different revisions may come in any order: `Store.get_run_perm`.
-/

namespace PlanetServer.Store

/-! ### Operations -/

/-- A change of the store. -/
inductive Operation where
  /-- The diagnostics of a document are replaced. -/
  | set (uri : String) (diagnostics : List Diagnostic)
  /-- They are replaced unless a newer revision is stored. -/
  | setIfNewer (uri : String) (revision : Nat) (diagnostics : List Diagnostic)
  /-- A document is emptied as of a revision. -/
  | close (uri : String) (revision : Nat)
  /-- Everything about a document is forgotten. -/
  | clear (uri : String)

namespace Operation

/-- The document that an operation is about. -/
def uri : Operation → String
  | set uri _ | setIfNewer uri _ _ | close uri _ | clear uri => uri

/-- The revision that an operation carries. -/
def revision? : Operation → Option Nat
  | setIfNewer _ revision _ | close _ revision => some revision
  | set .. | clear _ => none

/-- The diagnostics that an operation writes. -/
def diagnostics : Operation → List Diagnostic
  | set _ diagnostics | setIfNewer _ _ diagnostics => diagnostics
  | close .. | clear _ => []

/-- Whether an operation forgets a document. -/
def isClear : Operation → Bool
  | clear _ => true
  | _ => false

/-- The store after an operation. -/
def apply (s : Store) : Operation → Store
  | set uri diagnostics => s.set uri diagnostics
  | setIfNewer uri revision diagnostics => (s.setIfNewer uri revision diagnostics).2
  | close uri revision => s.close uri revision
  | clear uri => s.clear uri

/-- Whether an operation takes effect. A guarded write says so itself. A closing took effect when the
store then holds the empty list as of its revision. -/
def takesEffect (s : Store) : Operation → Bool
  | setIfNewer uri revision diagnostics => (s.setIfNewer uri revision diagnostics).1
  | close uri revision => (s.close uri revision).slots.get? uri = some ⟨revision, []⟩
  | set .. | clear _ => true

end Operation

/-- The store after a sequence of operations. -/
def run (s : Store) (ops : List Operation) : Store :=
  ops.foldl Operation.apply s

/-- The operations of a sequence that take effect. -/
def effective (s : Store) : List Operation → List Operation
  | [] => []
  | op :: ops =>
    if op.takesEffect s then op :: effective (op.apply s) ops else effective (op.apply s) ops

/-- The operations on a document since it was last cleared. -/
def sinceClear (uri : String) (ops : List Operation) : List Operation :=
  (ops.filter (·.uri = uri)).rtakeWhile (!·.isClear)

/-- The operations of a sequence that took effect on a document since it was last cleared, where the
store held nothing at the start. -/
def past (ops : List Operation) (uri : String) : List Operation :=
  sinceClear uri (effective empty ops)

/-- The greatest revision that some operations carry, zero if they carry none. -/
def greatestRevision (ops : List Operation) : Nat :=
  (ops.filterMap Operation.revision?).foldr max 0

/-! ### Sequences of operations -/

theorem run_concat (s : Store) (ops : List Operation) (op : Operation) :
  s.run (ops ++ [op]) = op.apply (s.run ops)
  := by
  simp [run]

theorem effective_concat (s : Store) (ops : List Operation) (op : Operation) :
  s.effective (ops ++ [op])
    = s.effective ops ++ if op.takesEffect (s.run ops) then [op] else []
  := by
  induction ops generalizing s with
  | nil => rfl
  | cons first ops ih =>
    have later := ih (first.apply s)
    simp only [List.cons_append, effective]
    split
    · rw [later]
      rfl
    · rw [later]
      rfl

theorem sinceClear_concat (uri : String) (ops : List Operation) (op : Operation) :
  sinceClear uri (ops ++ [op])
    = if op.uri = uri then if op.isClear then [] else sinceClear uri ops ++ [op]
      else sinceClear uri ops
  := by
  unfold sinceClear
  by_cases about : op.uri = uri
  · rw [List.filter_append, List.filter_cons_of_pos (by simpa using about), List.filter_nil,
      List.rtakeWhile_concat, if_pos about]
    cases op.isClear <;> rfl
  · rw [List.filter_append, List.filter_cons_of_neg (by simpa using about), List.filter_nil,
      List.append_nil, if_neg about]

theorem past_concat (ops : List Operation) (op : Operation) (uri : String) :
  past (ops ++ [op]) uri
    = if op.takesEffect (empty.run ops) ∧ op.uri = uri then
        if op.isClear then [] else past ops uri ++ [op]
      else past ops uri
  := by
  unfold past
  rw [effective_concat]
  by_cases takes : op.takesEffect (empty.run ops) = true
  · rw [if_pos takes, sinceClear_concat]
    simp only [takes, true_and]
  · simp [takes]

theorem greatestRevision_concat (ops : List Operation) (op : Operation) :
  greatestRevision (ops ++ [op]) = max (greatestRevision ops) (op.revision?.getD 0)
  := by
  induction ops with
  | nil => cases found : op.revision? <;> simp [greatestRevision, found]
  | cons first ops ih =>
    unfold greatestRevision at ih ⊢
    cases found : first.revision? with
    | none => simpa [List.filterMap_cons, found] using ih
    | some revision =>
      simp only [List.cons_append, List.filterMap_cons, found, List.foldr_cons, ih]
      rw [max_assoc]

/-! ### What one operation does -/

theorem slots_set (s : Store) (uri other : String) (diagnostics : List Diagnostic) :
  (s.set uri diagnostics).slots.get? other
    = if other = uri then some ⟨s.revision uri, diagnostics⟩ else s.slots.get? other
  := Table.get?_insert ..

theorem slots_clear (s : Store) (uri other : String) :
  (s.clear uri).slots.get? other = if other = uri then none else s.slots.get? other
  := Table.get?_erase ..

theorem slots_close (s : Store) (uri other : String) (revision : Nat) :
  (s.close uri revision).slots.get? other
    = if other = uri ∧ s.revision uri ≤ revision then some ⟨revision, []⟩ else s.slots.get? other
  := slots_setIfNewer ..

theorem setIfNewer_fst (s : Store) (uri : String) (revision : Nat) (diagnostics : List Diagnostic) :
  (s.setIfNewer uri revision diagnostics).1 = decide (s.revision uri ≤ revision)
  := by
  by_cases kept : s.revision uri ≤ revision
  · simp [setIfNewer, accepts, kept]
  · simp [setIfNewer, accepts, kept]

namespace Operation

variable {s : Store} {op : Operation} {uri : String} {revision : Nat}

/-- An operation on one document does not touch the others. -/
theorem slots_apply_of_ne (other : op.uri ≠ uri) :
  (op.apply s).slots.get? uri = s.slots.get? uri
  := by
  cases op with
  | set =>
    rw [apply, slots_set]
    exact if_neg other.symm
  | setIfNewer =>
    rw [apply, slots_setIfNewer]
    exact if_neg fun both => other both.1.symm
  | close =>
    rw [apply, slots_close]
    exact if_neg fun both => other both.1.symm
  | clear =>
    rw [apply, slots_clear]
    exact if_neg other.symm

/-- An operation that carries a revision takes effect when no newer one is stored. -/
theorem takesEffect_iff (carries : op.revision? = some revision) :
  op.takesEffect s = true ↔ s.revision op.uri ≤ revision
  := by
  cases op with
  | set => cases carries
  | clear => cases carries
  | setIfNewer uri given diagnostics =>
    obtain rfl : given = revision := Option.some.inj carries
    rw [takesEffect, setIfNewer_fst, decide_eq_true_eq]
    rfl
  | close uri given =>
    obtain rfl : given = revision := Option.some.inj carries
    rw [takesEffect, decide_eq_true_eq, slots_close]
    constructor
    · intro held
      by_contra newer
      rw [if_neg fun both => newer both.2] at held
      exact newer (revision_eq_of_slot s uri held).le
    · intro older
      rw [if_pos ⟨rfl, older⟩]

/-- An operation that writes and takes effect leaves what it writes. Without a revision of its own it
keeps the stored one. -/
theorem slots_apply_of_takesEffect (takes : op.takesEffect s = true) (writes : op.isClear = false) :
  (op.apply s).slots.get? op.uri
    = some ⟨op.revision?.getD (s.revision op.uri), op.diagnostics⟩
  := by
  cases op with
  | clear => cases writes
  | set uri diagnostics =>
    rw [apply, slots_set]
    exact if_pos rfl
  | setIfNewer uri revision diagnostics =>
    rw [apply, slots_setIfNewer]
    exact if_pos ⟨rfl, (takesEffect_iff rfl).mp takes⟩
  | close uri revision =>
    rw [apply, slots_close]
    exact if_pos ⟨rfl, (takesEffect_iff rfl).mp takes⟩

/-- An operation that does not take effect leaves everything as it was. -/
theorem slots_apply_of_not_takesEffect (fails : ¬ op.takesEffect s = true) (uri : String) :
  (op.apply s).slots.get? uri = s.slots.get? uri
  := by
  cases op with
  | set => exact absurd rfl fails
  | clear => exact absurd rfl fails
  | setIfNewer about revision diagnostics =>
    rw [apply, slots_setIfNewer]
    exact if_neg fun both => fails ((takesEffect_iff rfl).mpr both.2)
  | close about revision =>
    rw [apply, slots_close]
    exact if_neg fun both => fails ((takesEffect_iff rfl).mpr both.2)

end Operation

/-! ### What all operations do -/

/-- The store holds for a document what the operations that took effect on it tell. -/
def Reflects (s : Store) (uri : String) (past : List Operation) : Prop :=
  s.slots.get? uri = past.getLast?.map fun op => ⟨greatestRevision past, op.diagnostics⟩

namespace Reflects

variable {s : Store} {uri : String} {past : List Operation}

theorem revision (reflects : s.Reflects uri past) :
  s.revision uri = greatestRevision past
  := by
  rw [Store.revision, reflects]
  cases last : past.getLast? with
  | none =>
    obtain rfl := List.getLast?_eq_none_iff.mp last
    rfl
  | some op => rfl

theorem get (reflects : s.Reflects uri past) :
  s.get uri = (past.getLast?.map Operation.diagnostics).getD []
  := by
  rw [Store.get, reflects, Option.map_map]
  rfl

/-- One operation keeps the invariant. -/
theorem step (reflects : s.Reflects uri past) (op : Operation) :
  (op.apply s).Reflects uri
    (if op.takesEffect s ∧ op.uri = uri then if op.isClear then [] else past ++ [op] else past)
  := by
  by_cases about : op.uri = uri
  · by_cases takes : op.takesEffect s = true
    · subst about
      rw [if_pos ⟨takes, rfl⟩]
      cases clears : op.isClear with
      | true =>
        obtain ⟨uri, rfl⟩ : ∃ uri, op = .clear uri := by
          cases op <;> simp_all [Operation.isClear]
        exact (slots_clear ..).trans (if_pos rfl)
      | false =>
        -- the revision that is stored then is the greatest one: the new one, or the old one again
        have newest : op.revision?.getD (s.revision op.uri)
            = greatestRevision (past ++ [op]) := by
          rw [greatestRevision_concat, ← reflects.revision]
          cases carried : op.revision? with
          | none => simp
          | some revision =>
            have older := (Operation.takesEffect_iff carried).mp takes
            simp [older]
        have written := Operation.slots_apply_of_takesEffect takes clears
        rw [newest] at written
        rw [if_neg Bool.false_ne_true, Reflects, written, List.getLast?_concat]
        rfl
    · rw [if_neg fun both => takes both.1, Reflects, Operation.slots_apply_of_not_takesEffect takes]
      apply reflects
  · rw [if_neg fun both => about both.2, Reflects, Operation.slots_apply_of_ne about]
    apply reflects

end Reflects

/-- What the store holds for a document is told by the past of the document. -/
theorem run_reflects (ops : List Operation) (uri : String) :
  (empty.run ops).Reflects uri (past ops uri)
  := by
  induction ops using List.reverseRecOn with
  | nil => rfl
  | append_singleton ops op ih =>
    rw [run_concat, past_concat]
    apply ih.step op

/-! ### Operations in any order -/

/-- Operations that carry revisions, no two of them on one document with the same revision. -/
structure Distinct (ops : List Operation) : Prop where
  /-- All of them carry revisions. -/
  carried : ∀ op ∈ ops, ∃ revision, op.revision? = some revision
  /-- The revisions for one document differ. -/
  apart : ops.Pairwise fun op op' => op.uri = op'.uri → op.revision? ≠ op'.revision?

/-- An operation that carries the greatest revision of those on its document. -/
structure IsNewest (ops : List Operation) (op : Operation) : Prop where
  /-- It is one of them. -/
  member : op ∈ ops
  /-- No other one on its document carries a greater revision. -/
  greatest : ∀ other ∈ ops, other.uri = op.uri → other.revision?.getD 0 ≤ op.revision?.getD 0

theorem Distinct.perm {ops ops' : List Operation} (distinct : Distinct ops) (perm : ops.Perm ops') :
  Distinct ops'
  := by
  constructor
  · intro op member
    apply distinct.carried op (perm.mem_iff.mpr member)
  · apply (perm.pairwise_iff ?_).mp distinct.apart
    intro op op' differ same
    exact (differ same.symm).symm

theorem IsNewest.perm {ops ops' : List Operation} {op : Operation} (newest : IsNewest ops op)
    (perm : ops.Perm ops') :
  IsNewest ops' op
  := by
  constructor
  · apply perm.mem_iff.mp newest.member
  · intro other member
    apply newest.greatest other (perm.mem_iff.mpr member)

theorem effective_sublist (s : Store) (ops : List Operation) :
  (s.effective ops).Sublist ops
  := by
  induction ops generalizing s with
  | nil => exact .slnil
  | cons op ops ih =>
    rw [effective]
    split
    · exact (ih _).cons_cons op
    · exact (ih _).cons op

theorem mem_of_mem_past {ops : List Operation} {uri : String} {op : Operation}
    (member : op ∈ past ops uri) :
  op ∈ ops ∧ op.uri = uri
  := by
  have kept := (List.rtakeWhile_suffix _ _).subset member
  obtain ⟨took, about⟩ := List.mem_filter.mp kept
  constructor
  · apply (effective_sublist empty ops).subset took
  · simpa using about

/-- The store holds no revision that is greater than all that came. -/
theorem revision_run_le {ops : List Operation} {uri : String} {bound : Nat}
    (bounded : ∀ op ∈ ops, op.uri = uri → op.revision?.getD 0 ≤ bound) :
  (empty.run ops).revision uri ≤ bound
  := by
  rw [(run_reflects ops uri).revision]
  apply List.max_le_of_forall_le ((past ops uri).filterMap Operation.revision?)
  intro revision member
  obtain ⟨op, took, carries⟩ := List.mem_filterMap.mp member
  obtain ⟨came, about⟩ := mem_of_mem_past took
  have within := bounded op came about
  rwa [carries] at within

/-- Whatever the order, the operation with the greatest revision on a document is the one that
counts. The induction is on the operations in the order in which they come: the newest one takes
effect when it comes, and no later one does. -/
theorem slot_of_newest {ops : List Operation} (distinct : Distinct ops) {op : Operation}
    (newest : IsNewest ops op) :
  (empty.run ops).slots.get? op.uri = some ⟨op.revision?.getD 0, op.diagnostics⟩
  := by
  induction ops using List.reverseRecOn with
  | nil => cases newest.member
  | append_singleton ops last ih =>
    obtain ⟨apart, -, differ⟩ := List.pairwise_append.mp distinct.apart
    obtain ⟨revision, carries⟩ := distinct.carried last (by simp)
    rw [run_concat]
    rcases List.mem_append.mp newest.member with earlier | same
    · have held := ih ⟨fun op member => distinct.carried op (by simp [member]), apart⟩
        ⟨earlier, fun other member => newest.greatest other (by simp [member])⟩
      by_cases about : last.uri = op.uri
      · have fails : ¬ last.takesEffect (empty.run ops) = true := by
          rw [Operation.takesEffect_iff carries, about, revision_eq_of_slot _ _ held, not_le]
          have older := newest.greatest last (by simp) about
          have other := differ op earlier last (by simp) about.symm
          obtain ⟨given, carries'⟩ := distinct.carried op (by simp [earlier])
          rw [carries, carries'] at older other
          rw [carries']
          exact lt_of_le_of_ne older fun same => other (congrArg some same.symm)
        rw [Operation.slots_apply_of_not_takesEffect fails, held]
      · rw [Operation.slots_apply_of_ne about, held]
    · obtain rfl := List.mem_singleton.mp same
      have older : (empty.run ops).revision op.uri ≤ revision := by
        apply revision_run_le
        intro other member about
        have within := newest.greatest other (by simp [member]) about
        rwa [carries] at within
      have writes : op.isClear = false := by
        cases op <;> simp_all [Operation.isClear, Operation.revision?]
      rw [Operation.slots_apply_of_takesEffect ((Operation.takesEffect_iff carries).mpr older) writes,
        carries]
      rfl

/-- A document that no operation is about has no diagnostics. -/
theorem get_of_untouched {ops : List Operation} {uri : String}
    (untouched : ∀ op ∈ ops, op.uri ≠ uri) :
  (empty.run ops).get uri = []
  := by
  have none : past ops uri = [] := by
    apply List.eq_nil_iff_forall_not_mem.mpr
    intro op member
    obtain ⟨came, about⟩ := mem_of_mem_past member
    exact untouched op came about
  rw [(run_reflects ops uri).get, none]
  rfl

theorem get_of_newest {ops : List Operation} (distinct : Distinct ops) {op : Operation}
    (newest : IsNewest ops op) :
  (empty.run ops).get op.uri = op.diagnostics
  := by
  rw [get, slot_of_newest distinct newest]
  rfl

/-- Of the operations on a document, if there are any, one carries the greatest revision. -/
theorem untouched_or_newest (ops : List Operation) (uri : String) :
  (∀ op ∈ ops, op.uri ≠ uri) ∨ ∃ op, IsNewest ops op ∧ op.uri = uri
  := by
  cases found : (ops.filter (·.uri = uri)).argmax fun op => op.revision?.getD 0 with
  | none =>
    left
    simpa using List.argmax_eq_none.mp found
  | some op =>
    right
    obtain ⟨member, about⟩ := List.mem_filter.mp (List.argmax_mem found)
    refine ⟨op, ⟨member, ?_⟩, by simpa using about⟩
    intro other member' about'
    apply List.le_of_mem_argmax (l := ops.filter (·.uri = uri)) _ found
    rw [List.mem_filter, about']
    exact ⟨member', about⟩

/-- The order of operations with different revisions does not matter. -/
theorem get_run_perm {ops ops' : List Operation} (distinct : Distinct ops) (perm : ops.Perm ops')
    (uri : String) :
  (empty.run ops').get uri = (empty.run ops).get uri
  := by
  rcases untouched_or_newest ops uri with untouched | ⟨op, newest, rfl⟩
  · rw [get_of_untouched untouched, get_of_untouched]
    intro op member
    apply untouched op (perm.mem_iff.mpr member)
  · rw [get_of_newest distinct newest, get_of_newest (distinct.perm perm) (newest.perm perm)]

/-! ### The whole history -/

/-- The store is determined by its history: a guarded write is kept, and a closing takes effect, if no
greater revision was accepted for the document since it was last cleared; the diagnostics of a
document are those of the last write that took effect since then; and operations on other documents
change nothing. Operations with different revisions leave the same lists in any order, those of the
greatest revisions. -/
theorem determined_by_history (ops : List Operation) :
  (∀ uri,
    (∀ revision diagnostics, ((empty.run ops).setIfNewer uri revision diagnostics).1 = true
      ↔ greatestRevision (past ops uri) ≤ revision)
    ∧ (∀ revision, (Operation.close uri revision).takesEffect (empty.run ops) = true
      ↔ greatestRevision (past ops uri) ≤ revision)
    ∧ (empty.run ops).get uri = ((past ops uri).getLast?.map Operation.diagnostics).getD []
    ∧ ∀ op : Operation, op.uri ≠ uri →
      (op.apply (empty.run ops)).slots.get? uri = (empty.run ops).slots.get? uri)
  ∧ (Distinct ops → ∀ ops', ops.Perm ops' →
    (∀ uri, (empty.run ops').get uri = (empty.run ops).get uri)
    ∧ ∀ op, IsNewest ops op → (empty.run ops').get op.uri = op.diagnostics)
  := by
  constructor
  · intro uri
    have reflects := run_reflects ops uri
    refine ⟨?_, ?_, reflects.get, ?_⟩
    · intro revision diagnostics
      rw [setIfNewer_fst, decide_eq_true_eq, reflects.revision]
    · intro revision
      rw [Operation.takesEffect_iff rfl, ← reflects.revision]
      rfl
    · intro op other
      apply Operation.slots_apply_of_ne other
  · intro distinct ops' perm
    constructor
    · apply get_run_perm distinct perm
    · intro op newest
      apply get_of_newest (distinct.perm perm) (newest.perm perm)

/-- Two results for a document and a closing between them. -/
def reopened : List Operation :=
  [.setIfNewer "a" 1 [], .close "a" 2, .setIfNewer "a" 3 (analyze .en "var")]

theorem distinct_reopened : Distinct reopened where
  carried := by
    simp only [reopened, List.forall_mem_cons]
    exact ⟨⟨1, rfl⟩, ⟨2, rfl⟩, ⟨3, rfl⟩, nofun⟩
  apart := by
    simp [reopened, Operation.uri, Operation.revision?]

/-- When they come the other way round, the newest result is still the one that counts, and an older
one is refused after it. -/
theorem determined_by_history_reversed :
  (empty.run reopened.reverse).get "a" = analyze .en "var"
    ∧ ((empty.run reopened.reverse).setIfNewer "a" 2 []).1 = false
  := by
  have newest : IsNewest reopened (.setIfNewer "a" 3 (analyze .en "var")) := by
    constructor
    · simp [reopened]
    · simp [reopened, Operation.uri, Operation.revision?]
  have past : past reopened.reverse "a" = [.setIfNewer "a" 3 (analyze .en "var")] := rfl
  constructor
  · apply ((determined_by_history reopened).2 distinct_reopened _ (List.reverse_perm _).symm).2 _
      newest
  · have refused := ((determined_by_history reopened.reverse).1 "a").1 2 []
    rw [past] at refused
    simpa [greatestRevision, Operation.revision?] using refused

end PlanetServer.Store
