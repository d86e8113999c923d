import Mathlib.Data.Set.Card
import PlanetServer.Proofs.Session.Guards

/-!
# The documents and their history

The operations of a session take the revisions one, two, three and so on, whatever documents they are
about. The last operation on a document tells its state, and it is the only one whose revision is
current.

* `Table.encard_names` counts the names in a table, of which no two are the same.
* `Documents.Operation` is one change of the documents, and `Documents.run` makes a sequence of them.
* `Documents.Follows` is the invariant: it is kept by one operation (`Documents.Follows.step`) and so it
  holds after all of them (`Documents.run_follows`).
* `Documents.Retired` is what a revision becomes when another operation follows, and it stays so.

Revisions are numbers without a bound here. The revision of an operation is at most the number of
operations, so it fits into 64 bits as long as that number does.
-/

namespace PlanetServer

/-! ### Names in a table -/

namespace Table

variable {α : Type} {t : Table α}

/-- No two values of a table are under the same name. -/
def Distinct (t : Table α) : Prop :=
  (t.entries.map Prod.fst).Nodup

theorem distinct_empty :
  (empty : Table α).Distinct
  := List.nodup_nil

theorem Distinct.erase (distinct : t.Distinct) (name : String) :
  (t.erase name).Distinct
  := distinct.sublist (List.filter_sublist.map Prod.fst)

theorem Distinct.insert (distinct : t.Distinct) (name : String) (value : α) :
  (t.insert name value).Distinct
  := by
  apply List.nodup_cons.mpr
  constructor
  · simp [Table.erase]
  · apply distinct.erase name

theorem mem_names_iff {name : String} :
  name ∈ t.entries.map Prod.fst ↔ ∃ value, t.get? name = some value
  := by
  obtain ⟨entries⟩ := t
  induction entries with
  | nil => simp [get?]
  | cons entry entries ih =>
    obtain ⟨key, value⟩ := entry
    by_cases same : name = key
    · simp [get?, same]
    · have miss : (name == key) = false := beq_eq_false_iff_ne.mpr same
      simpa [get?, List.lookup_cons, miss, same] using ih

/-- The size of a table is the number of names that have a value. -/
theorem encard_names (distinct : t.Distinct) :
  {name | ∃ value, t.get? name = some value}.encard = t.size
  := by
  have names : {name | ∃ value, t.get? name = some value}
      = ((t.entries.map Prod.fst).toFinset : Set String) := by
    ext name
    rw [Set.mem_ofPred_eq, List.coe_toFinset, Set.mem_ofPred_eq, mem_names_iff]
  rw [names, Set.encard_coe_eq_coe_finsetCard, List.toFinset_card_of_nodup distinct, List.length_map]
  rfl

end Table

namespace Documents

/-! ### Operations -/

/-- A change of the documents. -/
inductive Operation where
  /-- A document is opened. -/
  | opening (uri : String) (version : Int)
  /-- A document gets a new version. -/
  | change (uri : String) (version : Int)
  /-- A document is closed. -/
  | close (uri : String)

namespace Operation

/-- The document that an operation is about. -/
def uri : Operation → String
  | opening uri _ | change uri _ | close uri => uri

/-- Whether the document is open after an operation. -/
def opens : Operation → Bool
  | opening .. | change .. => true
  | close _ => false

/-- The revision that an operation returns, and the documents after it. -/
def apply (d : Documents) : Operation → Nat × Documents
  | opening uri version | change uri version => d.openAt uri version
  | close uri => d.close uri

end Operation

/-- The revisions that a sequence of operations returns, and the documents after it. -/
def run (d : Documents) : List Operation → List Nat × Documents
  | [] => ([], d)
  | op :: ops =>
    let (revision, d) := op.apply d
    let (revisions, d) := d.run ops
    (revision :: revisions, d)

/-- An operation and the revision that it returned. -/
structure Record where
  /-- The operation. -/
  operation : Operation
  /-- The revision. -/
  revision : Nat

/-- The state of the document after an operation, none if it was closed. -/
def Record.document? : Record → Option OpenDocument
  | ⟨.opening _ version, revision⟩ | ⟨.change _ version, revision⟩ => some ⟨version, revision⟩
  | ⟨.close _, _⟩ => none

/-- The operations of a sequence with the revisions that they return, from the start of a session. -/
def records (ops : List Operation) : List Record :=
  List.zipWith .mk ops (empty.run ops).1

/-- The last record about a document. -/
def last? (records : List Record) (uri : String) : Option Record :=
  (records.filter (·.operation.uri = uri)).getLast?

variable {d : Documents} {ops : List Operation} {rs : List Record} {uri : String} {revision : Nat}

theorem Record.isSome_document? (r : Record) :
  r.document?.isSome = r.operation.opens
  := by
  obtain ⟨_ | _ | _, _⟩ := r <;> rfl

theorem Record.revision_of_document? {r : Record} {document : OpenDocument}
    (found : r.document? = some document) :
  document.revision = r.revision
  := by
  obtain ⟨_ | _ | _, _⟩ := r <;> cases found <;> rfl

/-! ### Sequences of operations -/

theorem run_append (d : Documents) (ops ops' : List Operation) :
  d.run (ops ++ ops')
    = ((d.run ops).1 ++ ((d.run ops).2.run ops').1, ((d.run ops).2.run ops').2)
  := by
  induction ops generalizing d with
  | nil => rfl
  | cons op ops ih => simp [run, ih]

theorem length_run (d : Documents) (ops : List Operation) :
  (d.run ops).1.length = ops.length
  := by
  induction ops generalizing d with
  | nil => rfl
  | cons op ops ih => simp [run, ih]

theorem length_records (ops : List Operation) :
  (records ops).length = ops.length
  := by
  simp [records, length_run]

theorem records_concat (ops : List Operation) (op : Operation) :
  records (ops ++ [op]) = records ops ++ [⟨op, (op.apply (empty.run ops).2).1⟩]
  := by
  rw [records, run_append, List.zipWith_append (length_run empty ops).symm]
  rfl

theorem last?_concat (rs : List Record) (r : Record) (uri : String) :
  last? (rs ++ [r]) uri = if r.operation.uri = uri then some r else last? rs uri
  := by
  by_cases about : r.operation.uri = uri <;> simp [last?, about]

theorem mem_of_last? {r : Record} (last : last? rs uri = some r) :
  r ∈ rs
  := (List.mem_filter.mp (List.mem_of_getLast? last)).1

/-! ### What one operation does -/

theorem apply_fst (d : Documents) (op : Operation) :
  (op.apply d).1 = d.lastRevision + 1
  := by
  cases op <;> rfl

theorem lastRevision_apply (d : Documents) (op : Operation) :
  (op.apply d).2.lastRevision = d.lastRevision + 1
  := by
  cases op <;> rfl

/-- An operation changes the state of its own document only. -/
theorem state?_apply (d : Documents) (op : Operation) (uri : String) :
  (op.apply d).2.state? uri
    = if op.uri = uri then (Record.mk op (op.apply d).1).document? else d.state? uri
  := by
  cases op with
  | opening other version | change other version =>
    rw [Operation.apply, state?_openAt]
    simp only [eq_comm (a := uri)]
    rfl
  | close other =>
    rw [Operation.apply, state?_close]
    simp only [eq_comm (a := uri)]
    rfl

theorem distinct_apply (distinct : d.opened.Distinct) (op : Operation) :
  (op.apply d).2.opened.Distinct
  := by
  cases op with
  | opening uri version | change uri version => apply distinct.insert
  | close uri => apply distinct.erase

/-! ### What all operations do -/

/-- The documents are what the records of all operations tell. -/
structure Follows (d : Documents) (rs : List Record) : Prop where
  /-- Every operation took one revision. -/
  counted : d.lastRevision = rs.length
  /-- The revisions were given out. -/
  given : ∀ r ∈ rs, r.revision ≤ d.lastRevision
  /-- The last record about a document tells its state. -/
  state (uri : String) : d.state? uri = (last? rs uri).bind Record.document?
  /-- No document is open twice. -/
  distinct : d.opened.Distinct

namespace Follows

theorem start : empty.Follows [] where
  counted := rfl
  given _ known := absurd known List.not_mem_nil
  state _ := rfl
  distinct := Table.distinct_empty

/-- One operation keeps the invariant. -/
theorem step (follows : d.Follows rs) (op : Operation) :
  (op.apply d).2.Follows (rs ++ [⟨op, (op.apply d).1⟩])
  := by
  constructor
  case counted => rw [lastRevision_apply, follows.counted, List.length_append, List.length_singleton]
  case given =>
    intro r known
    rw [lastRevision_apply]
    rcases List.mem_append.mp known with old | new
    · apply Nat.le_succ_of_le (follows.given r old)
    · rw [List.mem_singleton.mp new, apply_fst]
  case state =>
    intro other
    rw [state?_apply, last?_concat, follows.state]
    by_cases about : op.uri = other
    · simp [about]
    · simp [about]
  case distinct => apply distinct_apply follows.distinct

/-- The current revision of a document is the one of its last operation, unless that closed it. -/
theorem isCurrent_iff (follows : d.Follows rs) (uri : String) (revision : Nat) :
  d.isCurrent uri revision = true
    ↔ ∃ r, last? rs uri = some r ∧ r.operation.opens = true ∧ r.revision = revision
  := by
  rw [Documents.isCurrent_iff, follows.state]
  constructor
  · rintro ⟨version, found⟩
    obtain ⟨r, last, document⟩ := Option.bind_eq_some_iff.mp found
    refine ⟨r, last, ?_, (Record.revision_of_document? document).symm⟩
    rw [← r.isSome_document?, document, Option.isSome_some]
  · rintro ⟨r, last, opens, rfl⟩
    rw [← r.isSome_document?] at opens
    obtain ⟨⟨version, given⟩, document⟩ := Option.isSome_iff_exists.mp opens
    obtain rfl := Record.revision_of_document? document
    exact ⟨version, by rw [last, Option.bind_some, document]⟩

/-- The open documents are those that the last operation on them opened. -/
theorem encard_openCount (follows : d.Follows rs) :
  {uri | ∃ r, last? rs uri = some r ∧ r.operation.opens = true}.encard = d.openCount
  := by
  rw [openCount, ← Table.encard_names follows.distinct]
  congr 1
  ext uri
  have state := follows.state uri
  constructor
  · rintro ⟨r, last, opens⟩
    rw [← r.isSome_document?] at opens
    obtain ⟨document, found⟩ := Option.isSome_iff_exists.mp opens
    exact ⟨document, state.trans (by rw [last, Option.bind_some, found])⟩
  · rintro ⟨document, found⟩
    obtain ⟨r, last, found⟩ := Option.bind_eq_some_iff.mp (state.symm.trans found)
    exact ⟨r, last, by rw [← r.isSome_document?, found, Option.isSome_some]⟩

end Follows

theorem run_follows (ops : List Operation) :
  (empty.run ops).2.Follows (records ops)
  := by
  induction ops using List.reverseRecOn with
  | nil => apply Follows.start
  | append_singleton ops op ih =>
    rw [records_concat, run_append]
    apply ih.step op

theorem lastRevision_run (ops : List Operation) :
  (empty.run ops).2.lastRevision = ops.length
  := by
  rw [(run_follows ops).counted, length_records]

/-- The operations of a session return the revisions one, two, three and so on. -/
theorem revisions_run (ops : List Operation) :
  (empty.run ops).1 = List.range' 1 ops.length
  := by
  induction ops using List.reverseRecOn with
  | nil => rfl
  | append_singleton ops op ih =>
    have next : (op.apply (empty.run ops).2).1 = 1 + ops.length := by
      rw [apply_fst, lastRevision_run, Nat.add_comm]
    rw [run_append, ih, List.length_append, List.length_singleton, List.range'_1_concat, ← next]
    rfl

/-! ### Revisions that are not current any more -/

/-- A revision was given out and is not the current one of a document. -/
def Retired (d : Documents) (uri : String) (revision : Nat) : Prop :=
  revision ≤ d.lastRevision ∧ d.isCurrent uri revision = false

/-- New revisions are greater than all that were given out, so no operation brings one back. -/
theorem Retired.step (retired : d.Retired uri revision) (op : Operation) :
  (op.apply d).2.Retired uri revision
  := by
  obtain ⟨given, outdated⟩ := retired
  constructor
  · rw [lastRevision_apply]
    apply Nat.le_succ_of_le given
  · rw [Bool.eq_false_iff, Ne, Documents.isCurrent_iff, state?_apply] at *
    rintro ⟨version, found⟩
    split at found
    · have next : revision = d.lastRevision + 1 :=
        (Record.revision_of_document? found).trans (apply_fst d op)
      omega
    · apply outdated ⟨version, found⟩

theorem Retired.run (retired : d.Retired uri revision) (ops : List Operation) :
  (d.run ops).2.Retired uri revision
  := by
  induction ops generalizing d with
  | nil => apply retired
  | cons op ops ih => apply ih (retired.step op)

theorem retired_of_outdated {more : List Operation}
    (current : (empty.run ops).2.isCurrent uri revision = true)
    (outdated : (empty.run (ops ++ more)).2.isCurrent uri revision = false) :
  (empty.run (ops ++ more)).2.Retired uri revision
  := by
  obtain ⟨r, last, -, rfl⟩ := ((run_follows ops).isCurrent_iff uri revision).mp current
  have given := (run_follows ops).given r (mem_of_last? last)
  rw [lastRevision_run] at given
  refine ⟨?_, outdated⟩
  rw [lastRevision_run, List.length_append]
  omega

/-! ### The whole history -/

/-- The documents follow their history. The operations return the revisions one, two, three and so on,
across all documents; a revision of a document is current if the last operation on the document opened
or changed it and returned that revision, so there is at most one, and one that is not current any more
never is again; the state of a document is what that last operation tells; and the number of open
documents is the number of those that the last operation on them opened or changed. -/
theorem follow_history (ops : List Operation) :
  let table := (empty.run ops).2
  (empty.run ops).1 = List.range' 1 ops.length
    ∧ (empty.run ops).1.Pairwise (· < ·)
    ∧ (∀ uri revision, table.isCurrent uri revision = true
        ↔ ∃ r, last? (records ops) uri = some r ∧ r.operation.opens = true ∧ r.revision = revision)
    ∧ (∀ uri revision revision', table.isCurrent uri revision = true →
        table.isCurrent uri revision' = true → revision = revision')
    ∧ (∀ uri revision more rest, table.isCurrent uri revision = true →
        (empty.run (ops ++ more)).2.isCurrent uri revision = false →
        (empty.run (ops ++ more ++ rest)).2.isCurrent uri revision = false)
    ∧ (∀ uri, table.state? uri = (last? (records ops) uri).bind Record.document?)
    ∧ {uri | ∃ r, last? (records ops) uri = some r ∧ r.operation.opens = true}.encard
        = table.openCount
  := by
  intro table
  have follows := run_follows ops
  have numbered := revisions_run ops
  refine ⟨numbered, ?_, follows.isCurrent_iff, ?_, ?_, follows.state, follows.encard_openCount⟩
  · rw [numbered]
    exact List.pairwise_lt_range'
  · intro uri revision revision' current current'
    obtain ⟨r, last, -, rfl⟩ := (follows.isCurrent_iff uri revision).mp current
    obtain ⟨r', last', -, rfl⟩ := (follows.isCurrent_iff uri revision').mp current'
    rw [Option.some.inj (last.symm.trans last')]
  · intro uri revision more rest current outdated
    have retired := (retired_of_outdated current outdated).run rest
    rw [run_append empty (ops ++ more) rest]
    apply retired.2

/-- A document that is closed and opened again with a lower version: its first revision, which the
closing ended, stays outdated, and the opening is the third operation. -/
theorem follow_history_reopened :
  let first : List Operation := [.opening "a" 5]
  let second : List Operation := [.close "a"]
  let third : List Operation := [.opening "a" 1]
  (empty.run first).2.isCurrent "a" 1 = true
    ∧ (empty.run (first ++ second ++ third)).2.isCurrent "a" 1 = false
    ∧ (empty.run (first ++ second ++ third)).2.state? "a" = some ⟨1, 3⟩
  := by
  intro first second third
  have current : (empty.run first).2.isCurrent "a" 1 = true := by decide
  have outdated : (empty.run (first ++ second)).2.isCurrent "a" 1 = false := by decide
  refine ⟨current, ?_, ?_⟩
  · apply (follow_history first).2.2.2.2.1 "a" 1 second third current outdated
  · apply (follow_history (first ++ second ++ third)).2.2.2.2.2.1 "a"

end Documents

end PlanetServer
