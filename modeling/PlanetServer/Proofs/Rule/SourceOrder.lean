import PlanetServer.Proofs.Rule.Accounts
import PlanetServer.Proofs.Rule.Hidden

/-!
# Failures in the order of the document

The failures of a document come in the order of its tokens, and those at its end come last. This follows
from the accounts of its failures: the tokens at fault are, in order, some of the tokens of the document,
each as often as it may be at fault, and after them the end of the document.

* `Program.faults_sublist` says that of every stream.
* `Program.failures_in_source_order` says what follows for the order of the failures, for their places,
  and for their number.
* `Program.unreadable_reported_once` says that the unreadable tokens are all reported, each in its place.
-/

namespace PlanetServer

open Rule

/-! ### Places of failures -/

/-- The place of a failure is that of the token at fault, or the end of the document. -/
def Failure.IsPlaced (finish : Mark) (f : Failure) : Prop :=
  f.mark = f.offending.elim finish Token.mark

namespace Rule

variable {α : Type}

theorem isPlaced_unreadable (finish : Mark) {f : Failure} {ts : List Token}
    (member : f ∈ unreadable ts) :
  f.IsPlaced finish
  := by
  obtain ⟨t, -, rfl⟩ := List.mem_map.mp member
  rfl

theorem isPlaced_failureAt (cause : Cause) (site : Site) (ahead : List Word) :
  (failureAt cause site ahead).IsPlaced site.finish
  := by
  cases ahead with
  | nil => rfl
  | cons w ahead => rfl

/-- Every failure of a rule is placed at the token at fault. -/
theorem Built.isPlaced {rule : Rule α} (built : Built rule) (site : Site) (ahead : List Word) :
  ∀ f ∈ (rule site ahead).failures, f.IsPlaced site.finish
  := by
  apply built.forall_failures site (P := fun _ f => f.IsPlaced site.finish)
  · exact fun _ placed => placed
  · exact fun _ _ _ member => isPlaced_unreadable site.finish member
  · exact fun cause depth ahead => isPlaced_failureAt cause ⟨site.finish, depth⟩ ahead

/-! ### What is at fault, in order -/

/-- What is at fault is not after something else that is: tokens are in the order of the stream, and the
end of the document is after them. -/
def InOrder : Option Token → Option Token → Prop
  | _, none => True
  | none, some _ => False
  | some t, some u => t.index ≤ u.index

theorem shares_pairwise {R : Option Token → Option Token → Prop} (refl : ∀ t, R (some t) (some t))
    (share : Share) {ts : List Token} (ordered : ts.Pairwise fun t u => R (some t) (some u)) :
  (shares share ts).Pairwise R
  := by
  apply List.pairwise_flatMap.mpr
  constructor
  · intro t _
    exact List.pairwise_replicate.mpr (.inr (refl t))
  · apply ordered.imp
    intro t u related a first b second
    rwa [List.eq_of_mem_replicate first, List.eq_of_mem_replicate second]

theorem count_shares (share : Share) (ts : List Token) (t : Token) :
  (shares share ts).count (some t) = ts.count t * share t
  := by
  induction ts with
  | nil => simp [shares]
  | cons u ts ih =>
    have more : shares share (u :: ts) = List.replicate (share u) (some u) ++ shares share ts := rfl
    rw [more, List.count_append, List.count_replicate, ih, List.count_cons]
    by_cases same : u = t
    · simp [same, Nat.add_mul, Nat.add_comm]
    · simp [same]

theorem count_none_shares (share : Share) (ts : List Token) :
  (shares share ts).count none = 0
  := by
  simp [List.count_eq_zero, shares]

theorem countP_offending (fs : List Failure) (o : Option Token) :
  fs.countP (fun f => f.offending = o) = (faults fs).count o
  := by
  rw [faults, List.count, List.countP_map]
  apply List.countP_congr
  simp

end Rule

/-! ### Streams -/

namespace Stream

variable {s : Stream}

/-- The number of opening braces of a stream. -/
def openingBraces (s : Stream) : Nat :=
  s.tokens.countP fun t => t.kind = .leftBrace

theorem braces_gather (s : Stream) :
  braces (Word.gather s.tokens).2 ≤ s.openingBraces
  := by
  have tokens : braces (Word.gather s.tokens).2
      = (Word.tokens (Word.gather s.tokens).2).countP fun t => t.kind = .leftBrace := by
    rw [Word.tokens, List.countP_map]
    rfl
  rw [tokens, Word.tokens_gather]
  apply List.filter_sublist.countP_le

theorem IsIndexed.pairwise (indexed : s.IsIndexed) :
  s.tokens.Pairwise fun t u => t.index < u.index
  := by
  apply List.pairwise_iff_getElem.mpr
  intro i j first second before
  rw [indexed i _ (List.getElem?_eq_getElem first), indexed j _ (List.getElem?_eq_getElem second)]
  exact before

theorem IsIndexed.tokens_nodup (indexed : s.IsIndexed) :
  s.tokens.Nodup
  := by
  apply indexed.pairwise.imp
  rintro t u before rfl
  exact Nat.lt_irrefl _ before

theorem IsIndexed.count_le (indexed : s.IsIndexed) (t : Token) :
  s.tokens.count t ≤ 1
  := List.nodup_iff_count_le_one.mp indexed.tokens_nodup t

end Stream

/-- The tokens at fault in a stream are, in order, some of its tokens, each as often as it may be, and
after them the end of the document, once more at most than there are opening braces. -/
theorem Program.faults_sublist (levels : Nat) (s : Stream) :
  (faults (ofStreamWithin levels s).failures).Sublist
    (shares braceTwice s.tokens ++ List.replicate (s.openingBraces + 1) none)
  := by
  obtain ⟨read, whole, paid⟩ := program_settles (n := levels) ⟨s.finish, 0⟩ (Word.gather s.tokens).2
    (Nat.lt_succ_self _) (.nothing _)
  have finish : (List.replicate (braces (Word.gather s.tokens).2 + 1) (none : Option Token)).Sublist
      (List.replicate (s.openingBraces + 1) none) := by
    apply (List.replicate_sublist_replicate none).mpr
    apply Nat.succ_le_succ s.braces_gather
  rw [List.append_nil] at whole
  rw [← whole] at paid
  have both := (faults_unreadable_braceTwice (Word.gather s.tokens).1).append
    (paid.trans ((List.Sublist.refl _).append finish))
  rwa [List.nil_append, ← faults_append, ← List.append_assoc, ← shares_append,
    Word.flatten_gather] at both

namespace Program

variable {levels : Nat} {s : Stream}

/-- What holds along the tokens of a stream and up to its end holds along the failures. -/
theorem failures_pairwise (levels : Nat) {R : Option Token → Option Token → Prop} (refl : ∀ o, R o o)
    (ordered : s.tokens.Pairwise fun t u => R (some t) (some u))
    (last : ∀ t ∈ s.tokens, R (some t) none) :
  (ofStreamWithin levels s).failures.Pairwise fun f g => R f.offending g.offending
  := by
  rw [← List.pairwise_map (f := Failure.offending)]
  apply List.Pairwise.sublist (faults_sublist levels s)
  apply List.pairwise_append.mpr
  refine ⟨shares_pairwise (fun t => refl (some t)) braceTwice ordered, ?_, ?_⟩
  · exact List.pairwise_replicate.mpr (.inr (refl none))
  · intro a token b finish
    obtain ⟨t, member, among⟩ := List.mem_flatMap.mp token
    rw [List.eq_of_mem_replicate among, List.eq_of_mem_replicate finish]
    apply last t member

/-- A token is at fault no more often than it may be. -/
theorem countP_offending_le (levels : Nat) (indexed : s.IsIndexed) (t : Token) :
  (ofStreamWithin levels s).failures.countP (fun f => f.offending = some t) ≤ braceTwice t
  := by
  have few := Nat.mul_le_mul_right (braceTwice t) (indexed.count_le t)
  have among := (faults_sublist levels s).count_le (some t)
  have others : (List.replicate (s.openingBraces + 1) (none : Option Token)).count (some t) = 0 := by
    simp [List.count_replicate]
  rw [List.count_append, count_shares, others, ← countP_offending] at among
  omega

/-- The end of the document is at fault once more at most than there are opening braces. -/
theorem countP_finish_le :
  (ofStreamWithin levels s).failures.countP (fun f => f.offending = none) ≤ s.openingBraces + 1
  := by
  have among := (faults_sublist levels s).count_le none
  rwa [List.count_append, count_none_shares, List.count_replicate_self, Nat.zero_add,
    ← countP_offending] at among

theorem mem_tokens_of_mem {f : Failure} (member : f ∈ (ofStreamWithin levels s).failures) {t : Token}
    (fault : f.offending = some t) :
  t ∈ s.tokens
  := by
  have known : some t ∈ faults (ofStreamWithin levels s).failures := by
    rw [← fault]
    apply List.mem_map_of_mem member
  rcases List.mem_append.mp ((faults_sublist levels s).subset known) with token | finish
  · obtain ⟨u, member, same⟩ := List.mem_flatMap.mp token
    rwa [Option.some.inj (List.eq_of_mem_replicate same)]
  · cases List.eq_of_mem_replicate finish

theorem isPlaced_of_mem {f : Failure} (member : f ∈ (ofStreamWithin levels s).failures) :
  f.IsPlaced s.finish
  := by
  rcases List.mem_append.mp member with lead | later
  · apply isPlaced_unreadable s.finish lead
  · apply (Parse.program_built levels).isPlaced ⟨s.finish, 0⟩ _ f later

end Program

/-! ### Documents -/

/-- The place is in an earlier line, or in the same line and not further right. -/
def Mark.NotAfter (m n : Mark) : Prop :=
  m.line < n.line ∨ m.line = n.line ∧ m.column ≤ n.column

namespace Mark

theorem NotAfter.refl (m : Mark) :
  m.NotAfter m
  := .inr ⟨rfl, Nat.le_refl _⟩

theorem NotAfter.trans {m n k : Mark} (first : m.NotAfter n) (second : n.NotAfter k) :
  m.NotAfter k
  := by
  unfold NotAfter at *
  omega

theorem notAfter_finish (l : Lexeme) (start : Mark) :
  start.NotAfter (l.finish start)
  := by
  unfold Lexeme.finish
  split
  · exact .inl (Nat.lt_succ_self _)
  · exact .inr ⟨rfl, Nat.le_add_right ..⟩

end Mark

/-- The tokens of lexemes are between the place where they start and the one where they end, in
order. -/
theorem Lexeme.place_ordered (index : Nat) (start : Mark) (ls : List Lexeme) :
  let s := place index start ls
  start.NotAfter s.finish
    ∧ (∀ t ∈ s.tokens, start.NotAfter t.mark ∧ t.mark.NotAfter s.finish)
    ∧ s.tokens.Pairwise fun t u => t.mark.NotAfter u.mark
  := by
  induction ls generalizing index start with
  | nil => exact ⟨.refl start, nofun, .nil⟩
  | cons l ls ih =>
    obtain ⟨last, between, ordered⟩ := ih (index + 1) (l.finish start)
    have step := Mark.notAfter_finish l start
    refine ⟨step.trans last, ?_, .cons ?_ ordered⟩
    · rintro t (_ | ⟨_, member⟩)
      · exact ⟨.refl start, step.trans last⟩
      · exact ⟨step.trans (between t member).1, (between t member).2⟩
    · intro t member
      apply step.trans (between t member).1

/-- The failures of a document come in the order of the tokens at fault, those at its end last, and so
their places are in order too. The token at fault is the one of the stream at its index, and the failure
is at its place, or at the end of the document. A closing brace is at fault twice at most, every other
token once at most, and the end of the document once more at most than there are opening braces. -/
theorem Program.failures_in_source_order (source : String) :
  let stream := Stream.ofText source
  let failures := (ofText source).failures
  failures.Pairwise (fun f g => InOrder f.offending g.offending)
    ∧ failures.Pairwise (fun f g => f.mark.NotAfter g.mark)
    ∧ (∀ f ∈ failures, ∀ t, f.offending = some t →
        stream.tokens[t.index]? = some t ∧ f.mark = t.mark)
    ∧ (∀ f ∈ failures, f.offending = none → f.mark = stream.finish)
    ∧ (∀ t, t.kind ≠ .rightBrace → failures.countP (fun f => f.offending = some t) ≤ 1)
    ∧ (∀ t, failures.countP (fun f => f.offending = some t) ≤ 2)
    ∧ failures.countP (fun f => f.offending = none)
      ≤ stream.tokens.countP (fun t => t.kind = .leftBrace) + 1
  := by
  intro stream failures
  have indexed := Stream.isIndexed_ofText source
  obtain ⟨-, between, ordered⟩ := Lexeme.place_ordered 0 .start (Lexeme.split source.toList)
  have placed : ∀ f ∈ failures, f.IsPlaced stream.finish := fun f member => isPlaced_of_mem member
  refine ⟨?_, ?_, ?_, ?_, ?_, ?_, countP_finish_le⟩
  · apply failures_pairwise
    · rintro (_ | t)
      · trivial
      · exact Nat.le_refl _
    · apply indexed.pairwise.imp Nat.le_of_lt
    · exact fun _ _ => trivial
  · have marks := failures_pairwise Parse.maxDepth (s := stream)
      (R := fun a b => (a.elim stream.finish Token.mark).NotAfter (b.elim stream.finish Token.mark))
      (fun _ => .refl _) ordered fun t member => (between t member).2
    apply marks.imp_of_mem
    intro f g member member' related
    rwa [placed f member, placed g member']
  · intro f member t fault
    constructor
    · apply indexed.getElem? (mem_tokens_of_mem member fault)
    · rw [placed f member, fault]
      rfl
  · intro f member fault
    rw [placed f member, fault]
    rfl
  · intro t other
    have few := countP_offending_le Parse.maxDepth indexed t
    rwa [braceTwice, if_neg other] at few
  · intro t
    have few := countP_offending_le Parse.maxDepth indexed t
    apply few.trans
    unfold braceTwice
    split <;> decide

-- Both bounds are met: by a brace that closes nothing, and by a block that is open at the end.
example :
  ((Program.ofText "var \x7d").failures.map fun f => f.offending.map Token.index) = [some 2, some 2]
    ∧ ((Program.ofText "while x \x7b var").failures.map fun f => f.offending.map Token.index)
      = [none, none]
  := by
  decide +kernel

/-! ### Unreadable tokens -/

namespace Program

/-- The failures of unreadable tokens are those of the unreadable tokens of the stream, in order: what a
rule reads is reported on the way, and the document is read to its end. -/
theorem filter_unreadable (levels : Nat) (s : Stream) :
  (ofStreamWithin levels s).failures.filter (fun f => f.cause = .unreadable) = unreadable s.tokens
  := by
  obtain ⟨read, whole, reported⟩ :=
    (Parse.program_built levels).lexical ⟨s.finish, 0⟩ (Word.gather s.tokens).2
  obtain ⟨ss, -, finished⟩ := Parse.program_finishes levels ⟨s.finish, 0⟩ (Word.gather s.tokens).2
  rw [finished, List.append_nil] at whole
  rw [ofStreamWithin, List.filter_append, Rule.filter_unreadable, reported, ← whole,
    Word.unreadable_gather]

/-- The failures of an indexed stream come in the order of the tokens at fault. -/
theorem failures_inOrder (levels : Nat) (indexed : s.IsIndexed) :
  (ofStreamWithin levels s).failures.Pairwise fun f g => InOrder f.offending g.offending
  := by
  apply failures_pairwise
  · rintro (_ | t)
    · trivial
    · exact Nat.le_refl _
  · apply indexed.pairwise.imp Nat.le_of_lt
  · exact fun _ _ => trivial

/-- A token that is no closing brace is at fault in one failure only. -/
theorem not_mem_of_offending (indexed : s.IsIndexed) {before after : List Failure} {f g : Failure}
    (reported : (ofStreamWithin levels s).failures = before ++ f :: after) {t : Token}
    (fault : f.offending = some t) (other : t.kind ≠ .rightBrace) (fault' : g.offending = some t) :
  g ∉ before
  := by
  intro member
  have few := countP_offending_le levels indexed t
  have earlier : 0 < before.countP (fun f => f.offending = some t) :=
    List.countP_pos_iff.mpr ⟨g, member, by simpa using fault'⟩
  have here : (f :: after).countP (fun f => f.offending = some t)
      = after.countP (fun f => f.offending = some t) + 1 :=
    List.countP_cons_of_pos (by simpa using fault)
  rw [reported, List.countP_append, here, braceTwice, if_neg other] at few
  omega

/-- What is reported before a token is at fault is at earlier tokens, unless that token is at fault in it
as well. -/
theorem lt_of_mem_before (indexed : s.IsIndexed) {before after : List Failure} {f g : Failure}
    (reported : (ofStreamWithin levels s).failures = before ++ f :: after) {u : Token}
    (fault : f.offending = some u) (member : g ∈ before) (apart : g.offending ≠ some u) :
  ∃ t, g.offending = some t ∧ t.index < u.index
  := by
  have known : ∀ h ∈ before ++ f :: after, ∀ t, h.offending = some t → s.tokens[t.index]? = some t := by
    intro h inside t fault
    rw [← reported] at inside
    exact indexed.getElem? (mem_tokens_of_mem inside fault)
  have order := failures_inOrder levels indexed
  rw [reported] at order
  have notAfter := (List.pairwise_append.mp order).2.2 g member f (List.mem_cons_self ..)
  cases fault' : g.offending with
  | none =>
    rw [fault', fault] at notAfter
    exact notAfter.elim
  | some t =>
    rw [fault', fault] at notAfter
    refine ⟨t, rfl, Nat.lt_of_le_of_ne notAfter fun same => apart ?_⟩
    have first := known g (List.mem_append_left _ member) t fault'
    have second := known f (by simp) u fault
    rw [fault', ← first, ← second, same]

/-- Every unreadable token of a document is reported exactly once, in the order of the document and
wherever it stands, and nothing else is reported as unreadable. Whatever is reported before it is at an
earlier token, so it comes before all failures at later tokens and at the end of the document. -/
theorem unreadable_reported_once (source : String) :
  let stream := Stream.ofText source
  let failures := (ofText source).failures
  failures.filter (fun f => f.cause = .unreadable)
      = (stream.tokens.filter fun t => t.kind = .unknown).map Failure.ofUnreadable
    ∧ ∀ before f after, failures = before ++ f :: after → f.cause = .unreadable →
      ∀ g ∈ before, ∃ t u, g.offending = some t ∧ f.offending = some u ∧ t.index < u.index
  := by
  intro stream failures
  have indexed := Stream.isIndexed_ofText source
  have all : failures.filter (fun f => f.cause = .unreadable) = unreadable stream.tokens :=
    filter_unreadable Parse.maxDepth stream
  refine ⟨all, fun before f after reported cause g member => ?_⟩
  have known : f ∈ unreadable stream.tokens := by
    rw [← all, List.mem_filter, reported]
    simpa using cause
  obtain ⟨u, unknown, rfl⟩ := List.mem_map.mp known
  have kind : u.kind = .unknown := by simpa using (List.mem_filter.mp unknown).2
  have apart : g.offending ≠ some u := by
    intro same
    apply not_mem_of_offending indexed reported rfl (by simp [kind]) same member
  obtain ⟨t, fault, earlier⟩ := lt_of_mem_before indexed reported rfl member apart
  exact ⟨t, u, fault, rfl, earlier⟩

-- Before the first statement, in what recovery skips, among the line ends before an `else`, at the end.
example :
  ((ofText "$ if x \x7b var 1 $\n\x7d\n$ \n else ) $").failures.map fun f =>
      (f.offending.map Token.index, decide (f.cause = .unreadable)))
    = [(some 0, true), (some 10, false), (some 12, true), (some 16, true), (some 22, false),
      (some 24, true)]
  := by
  decide +kernel

end Program

end PlanetServer
