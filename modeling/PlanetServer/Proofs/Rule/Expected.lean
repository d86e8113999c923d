import PlanetServer.Proofs.Rule.Insertion

/-!
# Expected kinds

A failure that names kinds is right about them: they are some kinds, none of them is hidden, and the token
at fault is of none of them. If it is the first failure at that token and levels are left, a token of any of
these kinds that is put in before the token at fault is read: what was reported before the failure is
reported as before, and the new token is not at fault.
-/

namespace PlanetServer

open Rule Word

/-! ### Words that are at fault -/

namespace Gap

variable {g : Gap} {α : Type} {loose : Option α → List Word → Prop} {post : α → Prop} {s : List Word}

/-- If the first failure at the place names the kind of the new word, the run with the new word has
reported what was reported before that failure. -/
theorem Compared.clear_of_first {first second : Reply α} (h : g.Compared loose post s first second)
    (distinct : (flatten (s ++ g.old)).Nodup) {before after : List Failure} {f : Failure}
    (reported : first.failures = before ++ f :: after) (here : f.offending = (tokens g.old).head?)
    (none : ∀ e ∈ before, e.offending ≠ f.offending) {expected : KindSet}
    (mismatch : f.cause = .mismatch expected) (among : expected.contains g.kind)
    (less : f.depth < Parse.maxDepth) :
  g.Clear before second
  := by
  rw [flatten_append] at distinct
  have member : f ∈ first.failures := by simp [reported]
  have outside : ∀ t ∈ flatten s, f.offending ≠ some t := by
    intro t known fault
    rw [here] at fault
    rcases split : g.old with _ | ⟨w, later⟩
    · rw [split] at fault
      cases fault
    · rw [split] at fault distinct
      obtain rfl := Option.some.inj fault
      apply List.disjoint_of_nodup_append distinct known (List.mem_cons_self ..)
  have notInside : ¬ Inside (flatten s) first.failures := by
    intro inside
    obtain ⟨t, known, fault⟩ := inside f member
    apply outside t known fault
  cases h with
  | same value s' fs run _ _ inside _ => exact absurd (by rwa [run]) notInside
  | parted a fs run inside _ => exact absurd (by rwa [run]) notInside
  | stalled inside _ => exact absurd inside notInside
  | passed past =>
    obtain ⟨w, later, split, -, within⟩ := past
    rw [split] at here distinct
    have known := within f member w.token here
    have twice : (w.token :: (flatten s ++ (w.trail ++ flatten later))).Nodup := by
      apply (List.perm_middle.nodup_iff).mp
      exact distinct
    apply absurd known (List.nodup_cons.mp twice).1
  | met fs f' gs run inside here' clear =>
    have none' : ∀ e ∈ fs, e.offending ≠ f.offending := by
      intro e known same
      obtain ⟨t, known', fault⟩ := inside e known
      apply outside t known' (same ▸ fault)
    obtain ⟨rfl, rfl⟩ := split_unique (fun e => e.offending = f.offending) (reported.symm.trans run) none
      rfl none' (here'.trans here.symm)
    apply clear expected mismatch among less

end Gap

/-- If the first token is significant, or if there is none, no hidden tokens come before the words. -/
theorem Word.gather_bare {ts : List Token} (shown : ∀ t ∈ ts.head?, t.isHidden = false) :
  (gather ts).1 = [] ∧ (tokens (gather ts).2).head? = ts.head?
  := by
  cases ts with
  | nil => exact ⟨rfl, rfl⟩
  | cons t ts =>
    rw [gather_of_significant (shown t rfl)]
    exact ⟨rfl, rfl⟩

/-- A rule is at fault at words. -/
theorem Rule.Built.offending_mem {α : Type} {rule : Rule α} (built : Built rule) (site : Site)
    (ahead : List Word) :
  ∀ f ∈ (rule site ahead).failures, f.cause ≠ .unreadable → ∀ t, f.offending = some t → t ∈ tokens ahead
  := by
  apply built.forall_failures site
    (P := fun ahead f => f.cause ≠ .unreadable → ∀ t, f.offending = some t → t ∈ tokens ahead)
  · intro rest ahead f suffix known real t fault
    obtain ⟨read, rfl⟩ := suffix
    rw [tokens_append]
    apply List.mem_append_right _ (known real t fault)
  · exact fun w ahead f member real => absurd (cause_of_mem_unreadable member) real
  · intro cause depth ahead _ t fault
    rw [failureAt_offending] at fault
    apply List.mem_of_mem_head? fault

/-! ### One more token -/

namespace Stream

variable {s : Stream}

/-- The stream with one more token, at the position that is its index. The tokens behind it move up. -/
def insert (s : Stream) (t : Token) (finish : Mark) : Stream :=
  ⟨s.tokens.take t.index ++ t :: (s.tokens.drop t.index).map (Token.shift 1 0), finish⟩

/-- The position of what is at fault: that of a token is its index, and the end is behind all tokens. -/
def position (s : Stream) (fault : Option Token) : Nat :=
  fault.elim s.tokens.length Token.index

theorem IsIndexed.insert (indexed : s.IsIndexed) {t : Token} (inside : t.index ≤ s.tokens.length)
    (finish : Mark) :
  (s.insert t finish).IsIndexed
  := by
  intro i u found
  have length : (s.tokens.take t.index).length = t.index := List.length_take_of_le inside
  change (s.tokens.take t.index ++ t :: (s.tokens.drop t.index).map (Token.shift 1 0))[i]? = some u at found
  rcases Nat.lt_or_ge i t.index with before | after
  · rw [List.getElem?_append_left (by rwa [length]), List.getElem?_take_of_lt before] at found
    apply indexed i u found
  obtain ⟨j, rfl⟩ := Nat.exists_eq_add_of_le after
  rw [List.getElem?_append_right (by rw [length]; exact after), length, Nat.add_sub_cancel_left] at found
  cases j with
  | zero =>
    obtain rfl := Option.some.inj found
    rfl
  | succ j =>
    rw [List.getElem?_cons_succ, List.getElem?_map, List.getElem?_drop] at found
    obtain ⟨v, known, rfl⟩ := Option.map_eq_some_iff.mp found
    exact congrArg (· + 1) (indexed _ v known)

theorem IsIndexed.le_index_of_mem_drop (indexed : s.IsIndexed) {i : Nat} {t : Token}
    (member : t ∈ s.tokens.drop i) :
  i ≤ t.index
  := by
  obtain ⟨j, found⟩ := List.mem_iff_getElem?.mp member
  rw [List.getElem?_drop] at found
  rw [indexed _ t found]
  apply Nat.le_add_right

theorem IsIndexed.head?_drop (indexed : s.IsIndexed) {fault : Option Token}
    (known : ∀ t, fault = some t → t ∈ s.tokens) :
  (s.tokens.drop (s.position fault)).head? = fault
  := by
  rw [List.head?_drop]
  cases fault with
  | none => simp [position]
  | some t => exact indexed.getElem? (known t rfl)

theorem IsIndexed.position_le (indexed : s.IsIndexed) {fault : Option Token}
    (known : ∀ t, fault = some t → t ∈ s.tokens) :
  s.position fault ≤ s.tokens.length
  := by
  cases fault with
  | none => exact Nat.le_refl _
  | some t =>
    obtain ⟨inside, -⟩ := List.getElem?_eq_some_iff.mp (indexed.getElem? (known t rfl))
    exact inside.le

/-- The place of one more token among the words of a stream. -/
def gap (s : Stream) (t : Token) (noElse : t.kind ≠ .kwElse) : Gap where
  word := ⟨t, []⟩
  old := (gather (s.tokens.drop t.index)).2
  new := (gather (s.tokens.drop t.index)).2.map (Word.shift 1 0)
  bare := rfl
  kinds := by
    rw [List.map_map]
    rfl
  noElse := noElse

variable {t : Token} (noElse : t.kind ≠ .kwElse)

theorem gather_at (bare : (gather (s.tokens.drop t.index)).1 = []) :
  gather s.tokens
    = ((gather (s.tokens.take t.index)).1, (gather (s.tokens.take t.index)).2 ++ (s.gap t noElse).old)
  := by
  have split := gather_append_of_bare bare (s.tokens.take t.index)
  rwa [List.take_append_drop] at split

theorem gather_insert (bare : (gather (s.tokens.drop t.index)).1 = []) (shown : t.isHidden = false)
    (finish : Mark) :
  gather (s.insert t finish).tokens = ((gather (s.tokens.take t.index)).1,
    (gather (s.tokens.take t.index)).2 ++ (s.gap t noElse).word :: (s.gap t noElse).new)
  := by
  have later : gather (t :: (s.tokens.drop t.index).map (Token.shift 1 0))
      = ([], (s.gap t noElse).word :: (s.gap t noElse).new) := by
    rw [gather_of_significant shown, gather_shift, bare]
    rfl
  have split := gather_append_of_bare (congrArg Prod.fst later) (s.tokens.take t.index)
  rwa [later] at split

/-- The tokens behind the new one have greater indices. -/
theorem IsIndexed.lt_index_of_mem_new (indexed : s.IsIndexed) {u : Token}
    (member : u ∈ flatten (s.gap t noElse).new) :
  t.index < u.index
  := by
  rw [gap, flatten_shift] at member
  obtain ⟨v, known, rfl⟩ := List.mem_map.mp member
  have among : v ∈ s.tokens.drop t.index := by
    rw [← flatten_gather (s.tokens.drop t.index)]
    apply List.mem_append_right _ known
  apply Nat.lt_succ_of_le (indexed.le_index_of_mem_drop among)

end Stream

/-- The failures before the first word are unreadable tokens. -/
theorem Rule.split_lead {lead : List Token} {fs before after : List Failure} {f : Failure}
    (reported : unreadable lead ++ fs = before ++ f :: after) (real : f.cause ≠ .unreadable) :
  ∃ before', before = unreadable lead ++ before' ∧ fs = before' ++ f :: after
  := by
  rcases List.append_eq_append_iff.mp reported with ⟨before', rfl, split⟩ | ⟨more, split, split'⟩
  · exact ⟨before', rfl, split⟩
  · cases more with
    | nil => exact ⟨[], by simpa using split.symm, split'.symm⟩
    | cons g more =>
      obtain ⟨rfl, -⟩ := List.cons.inj split'
      have member : f ∈ unreadable lead := by simp [split]
      exact absurd (cause_of_mem_unreadable member) real

namespace Program

variable {s : Stream}

theorem ofStream_failures (s : Stream) {lead : List Token} {words : List Word}
    (gathered : gather s.tokens = (lead, words)) :
  (ofStream s).failures
    = unreadable lead ++ (Parse.program Parse.maxDepth ⟨s.finish, 0⟩ words).failures
  := by
  rw [ofStream, ofStreamWithin, gathered]

/-- What is at fault in a failure that is not that of an unreadable token. -/
theorem shown_of_fault {f : Failure} (member : f ∈ (ofStream s).failures) (real : f.cause ≠ .unreadable)
    {t : Token} (fault : f.offending = some t) :
  t.isHidden = false
  := by
  rcases List.mem_append.mp member with lead | later
  · exact absurd (cause_of_mem_unreadable lead) real
  · have known := (Parse.program_built _).offending_mem ⟨s.finish, 0⟩ _ f later real t fault
    rw [tokens_gather] at known
    simpa using (List.mem_filter.mp known).2

/-- A failure that names kinds is right about them. They are some kinds, none of them is hidden, and the
token at fault is of none of them. If levels are left and nothing was reported at that token before, a
token of any of these kinds can be put in before it, and it is read: all that was reported before the
failure is reported as before, and nothing at the new token. -/
theorem expected_honest {s : Stream} (indexed : s.IsIndexed) {before after : List Failure} {f : Failure}
    (reported : (ofStream s).failures = before ++ f :: after) {expected : KindSet}
    (mismatch : f.cause = .mismatch expected) :
  (∃ k, expected.contains k) ∧ (∀ k : Kind, expected.contains k → k.isHidden = false)
    ∧ (∀ t, f.offending = some t → expected.contains t.kind = false)
    ∧ (f.depth < 256 → (∀ e ∈ before, e.offending ≠ f.offending) →
      ∀ t finish, expected.contains t.kind → t.index = s.position f.offending →
        (s.insert t finish).IsIndexed ∧ before <+: (ofStream (s.insert t finish)).failures
          ∧ ∀ e ∈ (ofStream (s.insert t finish)).failures, e.offending ≠ some t)
  := by
  have member : f ∈ (ofStream s).failures := by simp [reported]
  have real : f.cause ≠ .unreadable := by simp [mismatch]
  obtain ⟨before', rfl, reported'⟩ := split_lead reported real
  have inProgram : f ∈ (Parse.program Parse.maxDepth ⟨s.finish, 0⟩ (gather s.tokens).2).failures := by
    rw [reported']
    simp
  obtain ⟨⟨some', named⟩, other⟩ := Parse.program_honest _ _ _ f inProgram expected mismatch
  refine ⟨some', fun k among => (named k among).1, other, fun less first t finish among place => ?_⟩
  obtain ⟨shown, noElse⟩ := named t.kind among
  have known : ∀ u, f.offending = some u → u ∈ s.tokens := fun u fault => mem_tokens_of_mem member fault
  have head : (s.tokens.drop t.index).head? = f.offending := by rw [place, indexed.head?_drop known]
  have shown' : ∀ u ∈ (s.tokens.drop t.index).head?, u.isHidden = false := by
    intro u found
    rw [head] at found
    apply shown_of_fault member real found
  obtain ⟨bare, first'⟩ := gather_bare shown'
  have gathered := Stream.gather_at noElse bare
  have gathered' := Stream.gather_insert noElse bare shown finish
  have distinct : (flatten (gather s.tokens).2).Nodup := by
    have all := indexed.tokens_nodup
    rw [← flatten_gather s.tokens] at all
    apply (List.nodup_append.mp all).2.1
  rw [gathered] at reported' distinct
  have compared := Parse.program_compares (g := s.gap t noElse) Parse.maxDepth (Nat.zero_add _)
    (gather (s.tokens.take t.index)).2 s.finish finish
  obtain ⟨hs, run, within, -⟩ := compared.clear_of_first distinct reported' (head.symm.trans first'.symm)
    (fun e earlier => first e (List.mem_append_right _ earlier)) mismatch among less
  have reads : (ofStream (s.insert t finish)).failures
      = (unreadable (gather s.tokens).1 ++ before') ++ hs := by
    rw [ofStream_failures _ gathered', gathered]
    simp only [Stream.insert, run, List.append_assoc]
  refine ⟨indexed.insert (place ▸ indexed.position_le known) finish, ⟨hs, reads.symm⟩, ?_⟩
  intro e among' fault
  rw [reads] at among'
  rcases List.mem_append.mp among' with earlier | later
  · -- The new token is no token of the stream, or else that would be what is at fault.
    have member' : e ∈ (ofStream s).failures := by
      rw [reported]
      apply List.mem_append_left _ earlier
    have same := indexed.getElem? (mem_tokens_of_mem member' fault)
    rw [← List.head?_drop, head] at same
    exact first e earlier (fault.trans same.symm)
  · apply Nat.lt_irrefl _ (indexed.lt_index_of_mem_new noElse (within e later t fault))

/-- The second name after `while` comes where the condition could go on or the block could begin. With a
dot before it, it is a member, and what is broken before it is reported as before. -/
theorem expected_honest_member :
  let s := Stream.ofText "var 1\nwhile x $ y \x7b\n"
  let number : Failure := ⟨some ⟨.number, "1", 2, ⟨1, 4⟩⟩, ⟨1, 4⟩, .mismatch (.ofList [.identifier]), 1⟩
  let dollar : Failure := ⟨some ⟨.unknown, "$", 8, ⟨2, 8⟩⟩, ⟨2, 8⟩, .unreadable, 0⟩
  let expected := exprContinuation.insert .leftBrace
  let f : Failure := ⟨some ⟨.identifier, "y", 10, ⟨2, 10⟩⟩, ⟨2, 10⟩, .mismatch expected, 1⟩
  let dot : Token := ⟨.dot, ".", 10, ⟨2, 10⟩⟩
  s.IsIndexed ∧ (ofStream s).failures = [number, dollar] ++ f :: [] ∧ f.depth < 256
    ∧ expected.contains dot.kind ∧ dot.index = s.position f.offending
    ∧ [number, dollar] <+: (ofStream (s.insert dot s.finish)).failures
    ∧ ∀ e ∈ (ofStream (s.insert dot s.finish)).failures, e.offending ≠ some dot
  := by
  intro s number dollar expected f dot
  have indexed : s.IsIndexed := Stream.isIndexed_ofText _
  have reported : (ofStream s).failures = [number, dollar] ++ f :: [] := by decide +kernel
  obtain ⟨-, -, -, repaired⟩ := expected_honest indexed reported rfl
  obtain ⟨-, kept, read⟩ := repaired (by decide) (by decide) dot s.finish (by decide) rfl
  exact ⟨indexed, reported, by decide, by decide, rfl, kept, read⟩

end Program

end PlanetServer
