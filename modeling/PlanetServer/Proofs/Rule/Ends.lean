import PlanetServer.Proofs.Rule.Recovery

/-!
# Failures at the ends of statements

A failure that names an end of a statement names both of them, the semicolon and the line end, and a word
is at fault in it that is no end. That is so because only the rule for the end of a statement names them:
the other rules ask for one word, and none of them asks for an end.

* `Rule.Blames` says that all failures of a rule meet a condition, with one lemma for each combinator.
* `Failure.Unended` is the condition, and `Parse.program_blames` puts the rules together.
-/

namespace PlanetServer

namespace Rule

variable {α β : Type} {P : Failure → Prop}

/-- All failures of the rule meet the condition. -/
def Blames (P : Failure → Prop) (rule : Rule α) : Prop :=
  ∀ site ahead, ∀ f ∈ (rule site ahead).failures, P f

namespace Blames

theorem pure (a : α) :
  Blames P (pure a : Rule α)
  := fun _ _ => List.forall_mem_nil _

theorem look (f : List Kind → α) :
  Blames P (look f)
  := fun _ _ => List.forall_mem_nil _

theorem peek :
  Blames P peek
  := by
  rw [Rule.peek, lookahead_eq_look]
  apply look

theorem sees (k : Kind) :
  Blames P (sees k)
  := by
  rw [sees_eq_look]
  apply look

theorem bind {rule : Rule β} {next : β → Rule α} (h : Blames P rule) (h' : ∀ b, Blames P (next b)) :
  Blames P (rule >>= next)
  := by
  intro site ahead
  cases found : (rule site ahead).value with
  | none =>
    rw [bind_of_none found]
    apply h
  | some b =>
    rw [bind_of_some found]
    apply List.forall_mem_append.mpr ⟨h site ahead, h' b site _⟩

theorem ite {rule rule' : Rule α} {p : Prop} [Decidable p] (h : Blames P rule) (h' : Blames P rule') :
  Blames P (if p then rule else rule')
  := by
  split
  · apply h
  · apply h'

theorem attempt {rule : Rule α} (h : Blames P rule) :
  Blames P (attempt rule)
  := h

theorem deeper {rule : Rule α} (h : Blames P rule) :
  Blames P (deeper rule)
  := fun site => h ⟨site.finish, site.depth + 1⟩

/-- A failure of the next word. -/
theorem fail {cause : Cause} (h : ∀ site ahead, P (failureAt cause site ahead)) :
  Blames P (fail cause : Rule α)
  := fun site ahead => List.forall_mem_singleton.mpr (h site ahead)

theorem report {cause : Cause} (h : ∀ site ahead, P (failureAt cause site ahead)) :
  Blames P (report cause)
  := fun site ahead => List.forall_mem_singleton.mpr (h site ahead)

/-- A repetition, by its rounds. -/
theorem many {round : Rule (Round α)} (h : Blames P round) :
  Blames P (many round)
  := by
  have limited : ∀ n, Blames P (rounds round n) := by
    intro n
    induction n with
    | zero => exact fun _ _ => List.forall_mem_nil _
    | succ n ih =>
      rw [rounds]
      apply bind h
      rintro (a | _ | _)
      · exact .bind ih fun _ => .pure _
      · exact ih
      · exact .pure _
  exact fun site ahead => limited (ahead.length + 1) site ahead

end Blames

end Rule

/-! ### Ends of statements -/

/-- If the failure names an end of a statement, it names both, and a word is at fault that is none: neither
a semicolon nor a line end, nor a closing brace, before which a statement ends too. -/
def Failure.Unended (f : Failure) : Prop :=
  ∀ expected, f.cause = .mismatch expected → (expected.contains .semicolon ∨ expected.contains .newline) →
    expected.contains .semicolon ∧ expected.contains .newline
      ∧ ∃ t, f.offending = some t ∧ t.kind ≠ .semicolon ∧ t.kind ≠ .newline ∧ t.kind ≠ .rightBrace

namespace Rule

open Failure (Unended)

variable {α : Type}

namespace Blames

/-- A failure that names no kinds. -/
theorem unended_of_other {cause : Cause} (other : ∀ expected, cause ≠ .mismatch expected) :
  Blames Unended (Rule.fail cause : Rule α)
  := by
  apply fail
  intro site ahead expected mismatch
  rw [failureAt_cause] at mismatch
  apply absurd mismatch (other expected)

/-- A failure that names no end of a statement. -/
theorem unended_of_not_mem {expected : KindSet}
    (free : ¬ (expected.contains .semicolon ∨ expected.contains .newline)) :
  Blames Unended (Rule.fail (.mismatch expected) : Rule α)
  := by
  apply fail
  intro site ahead expected' mismatch ends
  rw [failureAt_cause] at mismatch
  cases mismatch
  apply absurd ends free

theorem unended_of_unreadable {ts : List Token} {f : Failure} (member : f ∈ unreadable ts) :
  f.Unended
  := by
  intro expected mismatch
  rw [cause_of_mem_unreadable member] at mismatch
  cases mismatch

theorem take :
  Blames Unended take
  := by
  rintro site (_ | ⟨w, ahead⟩)
  · exact List.forall_mem_nil _
  · exact fun _ => unended_of_unreadable

theorem advance :
  Blames Unended advance
  := by
  rintro site (_ | ⟨w, ahead⟩)
  · exact List.forall_mem_nil _
  · exact fun _ => unended_of_unreadable

/-- A word that is required and is no end of a statement. -/
theorem expect {k : Kind} {others : KindSet}
    (free : ¬ ((others.insert k).contains .semicolon ∨ (others.insert k).contains .newline)) :
  Blames Unended (expect k others)
  := .bind (.sees k) fun _ => .ite .take (.unended_of_not_mem free)

theorem following {item : Rule α} (divider : Kind) (h : Blames Unended item) :
  Blames Unended (following divider item)
  := .many (.bind (.sees divider) fun _ =>
      .ite (.bind .advance fun _ => .bind h fun _ => .pure _) (.pure _))

/-- The name that is required after a keyword or a dot. -/
theorem name :
  Blames Unended (Rule.expect .identifier .empty)
  := .expect (by decide)

end Blames

end Rule

namespace Parse

open Rule

open Failure (Unended)

/-! ### Expressions -/

section

variable {operand : Rule Expr} (h : Blames Unended operand)

include h

theorem layer_blames (n : Nat) :
  Blames Unended (layer operand n)
  := by
  induction n with
  | zero => apply h
  | succ n ih =>
    rw [layer_succ]
    refine .bind ih fun _ => .bind (.many (.bind .peek fun k => ?_)) fun _ => .pure _
    split
    · exact .ite (.bind .advance fun _ => .bind ih fun _ => .pure _) (.pure _)
    · exact .pure _

theorem arguments_blames :
  Blames Unended (arguments operand)
  := .bind (.sees _) fun _ => .ite (.bind .advance fun _ => .pure _)
    (.bind (layer_blames h 6) fun _ => .bind (.following _ (layer_blames h 6)) fun _ =>
      .bind (.expect (by decide)) fun _ => .pure _)

theorem primary_blames :
  Blames Unended (primary operand)
  := by
  refine .bind .peek fun k => ?_
  split
  · exact .bind .take fun _ => .pure _
  · exact .bind .take fun _ => .pure _
  · exact .bind .take fun _ => .pure _
  · exact .bind .advance fun _ => .pure _
  · exact .bind .advance fun _ => .pure _
  · exact .bind .advance fun _ => .bind (layer_blames h 6) fun _ =>
      .bind (.expect (by decide)) fun _ => .pure _
  · exact .unended_of_other (by simp)

theorem suffixed_blames :
  Blames Unended (suffixed operand)
  := by
  refine .bind (primary_blames h) fun _ => .bind (.many (.bind .peek fun k => ?_)) fun _ => .pure _
  split
  · exact .bind .advance fun _ => .bind (arguments_blames h) fun _ => .pure _
  · exact .bind .advance fun _ => .bind .name fun _ => .pure _
  · exact .pure _

end

theorem unary_blames (n : Nat) :
  Blames Unended (unary n)
  := by
  induction n with
  | zero => exact .unended_of_other (by simp)
  | succ n ih =>
    refine .deeper (.bind .peek fun k => ?_)
    split
    · exact .bind .advance fun _ => .bind ih fun _ => .pure _
    · exact .bind .advance fun _ => .bind ih fun _ => .pure _
    · apply suffixed_blames ih

theorem expr_blames (n : Nat) :
  Blames Unended (expr n)
  := layer_blames (unary_blames n) 6

/-! ### Statements -/

/-- The rule for the end of a statement names both ends, and only before a word that is none. -/
theorem terminator_blames (others : KindSet) :
  Blames Unended (terminator others)
  := by
  have both : ∀ k : Kind, endsStatement k = true → (terminators.union others).contains k := by
    have ends : ∀ k : Kind, endsStatement k = true → terminators.contains k := by decide
    intro k found
    simp only [KindSet.contains, KindSet.union, BitVec.getLsbD_or, Bool.or_eq_true]
    apply Or.inl (ends k found)
  rintro site (_ | ⟨w, ahead⟩)
  · exact List.forall_mem_nil _
  by_cases brace : w.token.kind = .rightBrace
  · rw [terminator_closed (by simpa using brace)]
    exact List.forall_mem_nil _
  cases ends : endsStatement w.token.kind with
  | true =>
    rw [terminator_end ends]
    apply Blames.advance
  | false =>
    rw [terminator_other ends brace]
    intro f member expected mismatch _
    obtain rfl := List.mem_singleton.mp member
    cases mismatch
    refine ⟨both _ rfl, both _ rfl, w.token, rfl, ?_, ?_, brace⟩
    · intro found
      simp [found, endsStatement] at ends
    · intro found
      simp [found, endsStatement] at ends

theorem ended_blames (others : KindSet) (s : Stmt) :
  Blames Unended (do
    terminator others
    return s)
  := .bind (terminator_blames others) fun _ => .pure _

theorem synchronize_blames :
  Blames Unended synchronize
  := by
  refine .bind (.many (.bind .peek fun k => ?_)) fun _ => .bind .peek fun k => ?_
  · split
    · exact .pure _
    · exact .pure _
    · exact .pure _
    · exact .pure _
    · exact .bind .advance fun _ => .pure _
  · split
    · exact .advance
    · exact .advance
    · exact .pure _

theorem recovered_blames {statement : Rule Stmt} (h : Blames Unended statement) :
  Blames Unended (recovered statement)
  := by
  refine .bind (.attempt h) fun found => ?_
  split
  · exact .pure _
  · exact .bind synchronize_blames fun _ => .pure _

theorem parameters_blames :
  Blames Unended parameters
  := .bind (.sees _) fun _ => .ite
    (.bind .take fun _ => .bind (.following _ .name) fun _ => .bind (.expect (by decide)) fun _ =>
      .pure _)
    (.bind (.expect (by decide)) fun _ => .pure _)

section

variable {statement : Rule Stmt} (h : Blames Unended statement)

include h

theorem block_blames {others : KindSet}
    (free : ¬ ((others.insert .leftBrace).contains .semicolon
      ∨ (others.insert .leftBrace).contains .newline)) :
  Blames Unended (block statement others)
  := by
  refine .bind (.expect free) fun _ => .many (.bind .peek fun k => ?_)
  split
  · exact .bind .advance fun _ => .pure _
  · exact .bind .advance fun _ => .pure _
  · exact .unended_of_not_mem (by decide)
  · apply recovered_blames h

theorem elseBranch_blames :
  Blames Unended (elseBranch statement)
  := by
  rw [elseBranch, elseAhead_eq_look]
  have newlines : Blames Unended (many skipNewline) :=
    .many (.bind (.sees _) fun _ => .ite (.bind .advance fun _ => .pure _) (.pure _))
  exact .bind (.look _) fun _ => .ite
    (.bind newlines fun _ => .bind .advance fun _ => .bind (.sees _) fun _ => .ite
      (.bind h fun _ => .pure _)
      (.bind (block_blames h (by decide)) fun _ => .pure _))
    (.pure _)

theorem statementOf_blames (n : Nat) :
  Blames Unended (statementOf (expr n) statement)
  := by
  have value := expr_blames n
  have branch : Blames Unended (block statement exprContinuation) := block_blames h (by decide)
  have body : Blames Unended (block statement .empty) := block_blames h (by decide)
  refine .bind .peek fun k => ?_
  split
  · exact .bind .advance fun _ => .bind .name fun _ => .bind (.sees _) fun _ => .ite
      (.bind .advance fun _ => .bind value fun _ => ended_blames _ _)
      (ended_blames _ _)
  · exact .bind .advance fun _ => .bind .name fun _ => .bind (.expect (by decide)) fun _ =>
      .bind parameters_blames fun _ => .bind body fun _ => .pure _
  · exact .bind .advance fun _ => .bind value fun _ => .bind branch fun _ =>
      .bind (elseBranch_blames h) fun _ => .pure _
  · exact .bind .advance fun _ => .bind value fun _ => .bind branch fun _ => .pure _
  · exact .bind .advance fun _ => .bind .peek fun _ => .ite
      (.bind value fun _ => ended_blames _ _)
      (ended_blames _ _)
  · exact .bind .advance fun _ => .bind .name fun _ => .bind (.following _ .name) fun _ =>
      ended_blames _ _
  · exact .bind .advance fun _ => .bind value fun _ => ended_blames _ _
  · rw [lookahead_eq_look]
    exact .bind (.look _) fun _ => .ite
      (.bind .take fun _ => .bind .advance fun _ => .bind value fun _ => ended_blames _ _)
      (.ite (.bind value fun _ => ended_blames _ _) (.unended_of_other (by simp)))
  · exact .unended_of_other (by simp)

end

theorem statement_blames (n : Nat) :
  Blames Unended (statement n)
  := by
  induction n with
  | zero => exact .unended_of_other (by simp)
  | succ n ih => exact .deeper (statementOf_blames ih n)

/-- All failures of a document that name an end of a statement name both, at a word that is none. -/
theorem program_blames (n : Nat) :
  Blames Unended (program n)
  := by
  refine .many (.bind .peek fun k => ?_)
  split
  · exact .bind .advance fun _ => .pure _
  · refine .bind (.report fun site ahead expected mismatch => ?_) fun _ => .bind .advance fun _ => .pure _
    rw [failureAt_cause] at mismatch
    cases mismatch
  · exact .pure _
  · apply recovered_blames (statement_blames n)

end Parse

end PlanetServer
