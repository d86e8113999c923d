import PlanetServer.Proofs.Grammar.Completeness
import PlanetServer.Proofs.Grammar.Soundness

/-!
# Documents of the grammar

A document is read without a failure of its own exactly when its significant tokens are a program of
the grammar, and then the statements that are read are those of the program. In particular a sequence
of tokens stands for at most one program. Tokens that are not of the language are reported in any
case.
-/

namespace PlanetServer

open Rule Word

namespace Program

/-- A stream that is a program of the grammar is read as that program, and only its unreadable tokens
are reported. -/
theorem ofStreamWithin_of_derivable {levels : Nat} {stream : Stream} {ss : List Stmt}
    (whole : Grammar.Program levels stream.significant ss) :
  ofStreamWithin levels stream = ⟨ss, unreadable stream.tokens⟩
  := by
  have reads : Reads (Parse.program levels) ⟨stream.finish, 0⟩ (gather stream.tokens).2 ss [] := by
    apply Grammar.program_reads
    rw [tokens_gather]
    apply whole
  have run := reads.run_eq (Parse.program_built levels) (List.append_nil _).symm
  rw [ofStreamWithin]
  simp only [run, Option.getD_some, unreadable_gather]

/-- A stream is read without a failure of its own only if it is a program of the grammar. -/
theorem derivable_of_clean (levels : Nat) (stream : Stream)
    (clean : ∀ f ∈ (ofStreamWithin levels stream).failures, f.cause = .unreadable) :
  ∃ ss, Grammar.Program levels stream.significant ss
  := by
  rcases Grammar.program_along levels ⟨stream.finish, 0⟩ (gather stream.tokens).2 with
    ⟨ss, rest, -, read, split, rfl, whole⟩ | ⟨cause, stop, ⟨real, before, depth, more, run, -⟩, -⟩
  · use ss
    rw [Stream.significant, ← tokens_gather, split]
    simpa using whole
  · have fault := clean (failureAt cause ⟨stream.finish, depth⟩ stop)
      (by simp [ofStreamWithin, run])
    rw [failureAt_cause] at fault
    apply absurd fault real

/-- The parser accepts exactly the grammar and answers with its trees. -/
theorem ofText_accepts_grammar (source : String) :
  ((∀ f ∈ (ofText source).failures, f.cause = .unreadable)
      ↔ ∃ ss, Grammar.Program 256 (Stream.ofText source).significant ss)
    ∧ ((ofText source).failures = []
      ↔ (∃ ss, Grammar.Program 256 (Stream.ofText source).significant ss)
        ∧ ∀ t ∈ (Stream.ofText source).tokens, t.kind ≠ .unknown)
    ∧ ∀ ss, Grammar.Program 256 (Stream.ofText source).significant ss →
      (ofText source).statements = ss
  := by
  have reading : ∀ ss, Grammar.Program 256 (Stream.ofText source).significant ss →
      ofText source = ⟨ss, unreadable (Stream.ofText source).tokens⟩ :=
    fun ss => ofStreamWithin_of_derivable
  have derivable := derivable_of_clean 256 (.ofText source)
  refine ⟨⟨derivable, ?_⟩, ⟨?_, ?_⟩, ?_⟩
  · rintro ⟨ss, whole⟩ f member
    rw [reading ss whole] at member
    apply cause_of_mem_unreadable member
  · intro none
    obtain ⟨ss, whole⟩ := derivable fun f member => by
      change f ∈ (ofText source).failures at member
      simp [none] at member
    use ⟨ss, whole⟩
    apply (unreadable_eq_nil_iff _).mp
    rw [reading ss whole] at none
    apply none
  · rintro ⟨⟨ss, whole⟩, readable⟩
    rw [reading ss whole]
    apply (unreadable_eq_nil_iff _).mpr readable
  · intro ss whole
    rw [reading ss whole]

end Program

end PlanetServer
