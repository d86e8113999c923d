import PlanetServer.Proofs.Grammar.Documents
import PlanetServer.Proofs.Rule.Lookahead

/-!
# The first failure of a document

The first failure stands at the earliest token at which it is certain that the document is not a
program: the tokens before it can be completed to a program, and no program begins with them and that
token. At the end of a document it means that only something is missing.

The tokens before the failure can be completed because the parser follows the grammar
(`program_along`). No program goes on with the token, because the parser would read that program
(`program_reads`), and would therefore not have failed at the token either (`program_alike`).
-/

namespace PlanetServer

open Rule Word

/-! ### First failures -/

/-- The first failure that is not one of an unreadable token. -/
theorem Rule.first_unique {before before' more more' : List Failure} {f g : Failure}
    (same : before ++ f :: more = before' ++ g :: more')
    (clean : ∀ f ∈ before, f.cause = .unreadable) (real : f.cause ≠ .unreadable)
    (clean' : ∀ f ∈ before', f.cause = .unreadable) (real' : g.cause ≠ .unreadable) :
  f = g
  := (split_unique (fun f : Failure => f.cause ≠ .unreadable) same (by simpa using clean) real
    (by simpa using clean') real').2

theorem Rule.Reads.not_breaks {α : Type} {rule : Rule α} {site : Site} {ahead rest stop : List Word}
    {a : α} {cause : Cause} (reads : Reads rule site ahead a rest) :
  ¬ Breaks rule site ahead cause stop
  := by
  rintro ⟨real, before, depth, more, run, -⟩
  obtain ⟨failures, run', clean⟩ := reads
  rw [run'] at run
  have fault := clean (failureAt cause ⟨site.finish, depth⟩ stop) (by simp_all)
  apply real (by simpa using fault)

/-- All first failures of a run have the same cause and stand at the same token. -/
theorem Rule.Breaks.unique {α : Type} {rule : Rule α} {site : Site} {ahead stop stop' : List Word}
    {cause cause' : Cause} (h : Breaks rule site ahead cause stop)
    (h' : Breaks rule site ahead cause' stop') :
  cause = cause' ∧ (tokens stop).head? = (tokens stop').head?
  := by
  obtain ⟨real, before, depth, more, run, clean⟩ := h
  obtain ⟨real', before', depth', more', run', clean'⟩ := h'
  have same := first_unique (run.symm.trans run') clean (by simpa using real) clean'
    (by simpa using real')
  constructor
  · simpa using congrArg Failure.cause same
  · simpa [failureAt_offending] using congrArg Failure.offending same

/-! ### Viable sequences -/

/-- Some program begins with the tokens. -/
def Grammar.Viable (w : List Token) : Prop :=
  ∃ more n ss, Program n (w ++ more) ss

/-- If the parser breaks at a word, no program begins with all words up to it. The common words of the
two inputs reach up to it, that is the words that are different cannot be where the parser breaks. -/
theorem Grammar.not_program_of_breaks {m n : Nat} {site : Site} {u v v' stop : List Word}
    {cause : Cause} (breaks : Breaks (Parse.program m) site (u ++ v) cause stop)
    (shallow : cause ≠ .tooDeep) (shared : Shared v v' u)
    (near : ∀ stop', Gone v v' stop' → (tokens stop').head? ≠ (tokens stop).head?) (ss : List Stmt) :
  ¬ Program n (tokens (u ++ v')) ss
  := by
  intro whole
  have reads := program_reads site whole
  rcases (Parse.program_alike m n).agree v v' site u shared with ⟨cause', stop', breaks'⟩
    | ⟨a, s, -, reads', -⟩ | ⟨a, rest, reads', -⟩ | ⟨cause', stop', breaks', gone⟩
  · apply reads.not_breaks breaks'
  · apply reads'.not_breaks breaks
  · apply reads'.not_breaks breaks
  · obtain ⟨rfl, same⟩ := breaks.unique breaks'
    rcases gone with deep | gone
    · apply shallow deep
    · apply near stop' gone same.symm

/-- The words of a token list, with nothing hidden between them. -/
def Word.plain (ts : List Token) : List Word :=
  ts.map fun t => ⟨t, []⟩

theorem Word.tokens_plain (ts : List Token) :
  tokens (plain ts) = ts
  := by
  simp [tokens, plain, Function.comp_def]

/-- No program begins with the words up to the one at which the parser breaks. -/
theorem Grammar.not_viable_of_breaks {m : Nat} {site : Site} {read rest : List Word} {w : Word}
    {cause : Cause} (breaks : Breaks (Parse.program m) site (read ++ w :: rest) cause (w :: rest))
    (shallow : cause ≠ .tooDeep) (distinct : (tokens (w :: rest)).Nodup) :
  ¬ Viable (tokens read ++ [w.token])
  := by
  rintro ⟨more, n, ss, whole⟩
  rw [List.append_cons] at breaks
  have rejects : ¬ Program n (tokens (read ++ [w] ++ plain more)) ss := by
    apply not_program_of_breaks breaks shallow
    · simp [Shared]
    · rintro stop' ⟨suffix, -⟩ same
      have member : w.token ∈ tokens stop' := List.mem_of_mem_head? (by simp [same])
      have member' : w.token ∈ tokens rest := (suffix.map Word.token).subset member
      apply (List.nodup_cons.mp distinct).1 member'
  apply rejects (by simpa [tokens_plain] using whole)

/-- A document at whose end the parser breaks is not a program. -/
theorem Grammar.not_program_of_breaks_at_end {m n : Nat} {site : Site} {read : List Word}
    {cause : Cause} (breaks : Breaks (Parse.program m) site read cause [])
    (shallow : cause ≠ .tooDeep) (ss : List Stmt) :
  ¬ Program n (tokens read) ss
  := by
  rw [← List.append_nil read] at breaks ⊢
  apply not_program_of_breaks breaks shallow
  · exact fun _ => ⟨rfl, rfl⟩
  · exact fun stop' gone => absurd ⟨rfl, rfl⟩ gone.2

/-! ### Documents -/

theorem Lexeme.le_index_of_mem_place {index : Nat} {start : Mark} {ls : List Lexeme} {t : Token}
    (h : t ∈ (place index start ls).tokens) :
  index ≤ t.index
  := by
  induction ls generalizing index start with
  | nil => simp [place] at h
  | cons l ls ih =>
    rcases List.mem_cons.mp h with rfl | h
    · apply Nat.le_refl index
    · apply Nat.le_of_succ_le (ih h)

/-- The tokens of a document are distinct, because they have different indices. -/
theorem Lexeme.place_nodup (index : Nat) (start : Mark) (ls : List Lexeme) :
  (place index start ls).tokens.Nodup
  := by
  induction ls generalizing index start with
  | nil => apply List.nodup_nil
  | cons l ls ih =>
    apply List.nodup_cons.mpr
    constructor
    · intro member
      have later := le_index_of_mem_place member
      apply Nat.not_succ_le_self index later
    · apply ih

/-- The first failure of a document, unreadable tokens aside, is where the parser breaks, and what
was read before can be completed. -/
theorem Program.breaks_of_first {levels : Nat} {stream : Stream} {before more : List Failure}
    {f : Failure} (reported : (ofStreamWithin levels stream).failures = before ++ f :: more)
    (clean : ∀ g ∈ before, g.cause = .unreadable) (real : f.cause ≠ .unreadable)
    (shallow : f.cause ≠ .tooDeep) :
  ∃ read stop, (gather stream.tokens).2 = read ++ stop ∧ f.offending = (tokens stop).head?
    ∧ Breaks (Parse.program levels) ⟨stream.finish, 0⟩ (read ++ stop) f.cause stop
    ∧ Grammar.Viable (tokens read)
  := by
  have first : ∀ g, g ∈ unreadable (gather stream.tokens).1 → g.cause = .unreadable :=
    fun _ => cause_of_mem_unreadable
  rcases Grammar.program_along levels ⟨stream.finish, 0⟩ (gather stream.tokens).2 with
    ⟨ss, rest, ⟨failures, run, clean'⟩, -⟩ | ⟨cause, stop, breaks, read, split, completes⟩
  · have member : f ∈ (ofStreamWithin levels stream).failures := by simp [reported]
    simp only [ofStreamWithin, run, List.mem_append] at member
    apply absurd (member.elim (first f) (clean' f)) real
  · obtain ⟨real', before', depth, more', run, clean'⟩ := id breaks
    have all : (ofStreamWithin levels stream).failures = (unreadable (gather stream.tokens).1 ++ before')
        ++ failureAt cause ⟨stream.finish, depth⟩ stop :: more' := by
      simp [ofStreamWithin, run]
    have clean'' : ∀ g ∈ unreadable (gather stream.tokens).1 ++ before', g.cause = .unreadable :=
      fun g member => (List.mem_append.mp member).elim (first g) (clean' g)
    obtain rfl := first_unique (reported.symm.trans all) clean real clean'' (by simpa using real')
    rw [failureAt_cause] at shallow ⊢
    obtain ⟨rest, ss, whole⟩ := completes shallow
    refine ⟨read, stop, split, failureAt_offending _ _ _, split ▸ breaks, rest, levels, ss, ?_⟩
    simpa using whole []

/-- The first failure, unreadable tokens aside, is at the earliest token at which the document is
known not to be a program, provided that the levels suffice. -/
theorem Program.first_failure_is_earliest (source : String) (before more : List Failure)
    (f : Failure) (reported : (ofText source).failures = before ++ f :: more)
    (clean : ∀ g ∈ before, g.cause = .unreadable) (real : f.cause ≠ .unreadable)
    (shallow : ∀ g ∈ (ofText source).failures, g.cause ≠ .tooDeep) :
  (∀ t, f.offending = some t → (∃ p : Nat, (Stream.ofText source).significant[p]? = some t)
      ∧ ∀ p : Nat, (Stream.ofText source).significant[p]? = some t →
        Grammar.Viable ((Stream.ofText source).significant.take p)
          ∧ ¬ Grammar.Viable ((Stream.ofText source).significant.take (p + 1)))
    ∧ (f.offending = none → Grammar.Viable (Stream.ofText source).significant
      ∧ ∀ n ss, ¬ Grammar.Program n (Stream.ofText source).significant ss)
  := by
  have shallow' : f.cause ≠ .tooDeep := shallow f (by simp [reported])
  obtain ⟨read, stop, split, offending, breaks, viable⟩ := breaks_of_first reported clean real shallow'
  have significant : (Stream.ofText source).significant = tokens (read ++ stop) := by
    rw [← split, tokens_gather]
    rfl
  have distinct : (tokens (read ++ stop)).Nodup := by
    rw [← significant]
    apply (Lexeme.place_nodup _ _ _).filter _
  rw [significant, offending]
  rcases stop with _ | ⟨w, rest⟩
  · refine ⟨nofun, fun _ => ⟨by simpa using viable, fun n ss => ?_⟩⟩
    rw [List.append_nil] at breaks ⊢
    apply Grammar.not_program_of_breaks_at_end breaks shallow' ss
  · rw [tokens_append] at distinct ⊢
    refine ⟨?_, nofun⟩
    rintro _ ⟨⟩
    have place : (tokens read ++ tokens (w :: rest))[(tokens read).length]? = some w.token := by
      simp
    refine ⟨⟨_, place⟩, fun p found => ?_⟩
    obtain rfl : (tokens read).length = p := by
      apply (List.getElem?_inj (by simp) distinct).mp
      rw [place, found]
    constructor
    · simpa using viable
    · have rejects := Grammar.not_viable_of_breaks breaks shallow' (List.nodup_append.mp distinct).2.1
      rw [List.take_length_add_append]
      simpa using rejects

/-- The second name in `var $ a b` is the first token at fault, and the dollar sign before it does not
count. -/
theorem Program.first_failure_after_unreadable :
  Grammar.Viable ((Stream.ofText "var $ a b").significant.take 2)
    ∧ ¬ Grammar.Viable ((Stream.ofText "var $ a b").significant.take 3)
  := by
  let dollar : Failure := ⟨some ⟨.unknown, "$", 2, ⟨1, 4⟩⟩, ⟨1, 4⟩, .unreadable, 0⟩
  let name : Token := ⟨.identifier, "b", 6, ⟨1, 8⟩⟩
  let f : Failure := ⟨some name, ⟨1, 8⟩, .mismatch (.ofList [.semicolon, .newline, .assign]), 1⟩
  have reported : (ofText "var $ a b").failures = [dollar] ++ f :: [] := by decide +kernel
  have shallow : ∀ g ∈ (ofText "var $ a b").failures, g.cause ≠ .tooDeep := by decide +kernel
  have place : (Stream.ofText "var $ a b").significant[2]? = some name := by decide +kernel
  have earliest := first_failure_is_earliest "var $ a b" [dollar] [] f reported (by decide)
    (by decide) shallow
  apply (earliest.1 name rfl).2 2 place

end PlanetServer
