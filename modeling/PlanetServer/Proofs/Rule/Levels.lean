import PlanetServer.Proofs.Rule.Recovery

/-!
# Levels that are left

A rule that does not run out of levels does the same with more of them. `Rule.Extends` says that of two
rules: where the first one reports no failure for want of levels, the second one gives the same reply. It
is kept by the combinators, so it holds of the rules of the parser with different numbers of levels left,
up to documents: `Parse.program_extends`.
-/

namespace PlanetServer.Rule

variable {α β : Type}

/-- No rule was out of levels. -/
def Shallow (failures : List Failure) : Prop :=
  ∀ f ∈ failures, f.cause ≠ .tooDeep

theorem Shallow.of_append {fs gs : List Failure} (shallow : Shallow (fs ++ gs)) :
  Shallow fs ∧ Shallow gs
  := List.forall_mem_append.mp shallow

/-- Where the first rule does not run out of levels, the second one does the same. -/
def Extends (rule rule' : Rule α) : Prop :=
  ∀ site ahead, Shallow (rule site ahead).failures → rule' site ahead = rule site ahead

namespace Extends

theorem refl (rule : Rule α) :
  Extends rule rule
  := fun _ _ _ => rfl

/-- Nothing is asked of a rule that has no level left. -/
theorem tooDeep (rule : Rule α) :
  Extends (fail .tooDeep) rule
  := by
  intro site ahead shallow
  have reported := shallow _ (List.mem_singleton.mpr rfl)
  rw [failureAt_cause] at reported
  exact absurd rfl reported

theorem bind {rule rule' : Rule α} {next next' : α → Rule β} (h : Extends rule rule')
    (h' : ∀ a, Extends (next a) (next' a)) :
  Extends (rule >>= next) (rule' >>= next')
  := by
  intro site ahead shallow
  cases found : (rule site ahead).value with
  | none =>
    rw [bind_of_none found] at shallow ⊢
    rw [bind_of_none (by rw [h site ahead shallow, found]), h site ahead shallow]
  | some a =>
    rw [bind_of_some found] at shallow ⊢
    obtain ⟨first, second⟩ := shallow.of_append
    rw [bind_of_some (by rw [h site ahead first, found]), h site ahead first, h' a site _ second]

/-- The second of two rules, where the first one is the same. -/
theorem after {rule : Rule α} {next next' : α → Rule β} (h : ∀ a, Extends (next a) (next' a)) :
  Extends (rule >>= next) (rule >>= next')
  := bind (refl rule) h

/-- The first of two rules, where the second one is the same. -/
theorem before {rule rule' : Rule α} {next : α → Rule β} (h : Extends rule rule') :
  Extends (rule >>= next) (rule' >>= next)
  := bind h fun a => refl (next a)

theorem ite {rule rule' other other' : Rule α} {p : Prop} [Decidable p] (h : Extends rule rule')
    (h' : Extends other other') :
  Extends (if p then rule else other) (if p then rule' else other')
  := by
  split
  · apply h
  · apply h'

theorem attempt {rule rule' : Rule α} (h : Extends rule rule') :
  Extends (attempt rule) (attempt rule')
  := by
  intro site ahead shallow
  rw [Rule.attempt, Rule.attempt, h site ahead shallow]

theorem deeper {rule rule' : Rule α} (h : Extends rule rule') :
  Extends (deeper rule) (deeper rule')
  := fun site => h ⟨site.finish, site.depth + 1⟩

/-- A repetition, round by round. -/
theorem many {round round' : Rule (Round α)} (h : Extends round round') (advances : Advances round)
    (advances' : Advances round') :
  Extends (many round) (many round')
  := by
  intro site ahead
  have same : ∀ ahead value, (round site ahead).value = value →
      Shallow (round site ahead).failures →
      round' site ahead = ⟨value, (round site ahead).rest, (round site ahead).failures⟩ := by
    rintro ahead _ rfl shallow
    apply h site ahead shallow
  apply many_induct advances site
    (P := fun ahead reply => Shallow reply.failures → Rule.many round' site ahead = reply)
  · intro ahead found shallow
    apply many_of_none advances' (same ahead _ found shallow)
  · intro ahead found shallow
    apply many_of_stop advances' (same ahead _ found shallow)
  · intro ahead reply found _ tail shallow
    obtain ⟨first, later⟩ := shallow.of_append
    rw [many_of_skip advances' (same ahead _ found first), tail later]
  · intro ahead reply a found _ tail shallow
    obtain ⟨first, later⟩ := shallow.of_append
    rw [many_of_item advances' (same ahead _ found first), tail later]

theorem following {item item' : Rule α} (divider : Kind) (h : Extends item item') (built : Built item)
    (built' : Built item') :
  Extends (following divider item) (following divider item')
  := by
  apply many _ (Parse.following_advances built divider) (Parse.following_advances built' divider)
  exact after fun _ => ite (after fun _ => before h) (refl _)

end Extends

end PlanetServer.Rule

namespace PlanetServer.Parse

open Rule

/-! ### Expressions -/

section

variable {operand operand' : Rule Expr} (h : Extends operand operand') (built : Built operand)
  (built' : Built operand')

include h built built'

theorem layer_extends (n : Nat) :
  Extends (layer operand n) (layer operand' n)
  := by
  induction n with
  | zero => apply h
  | succ n ih =>
    have tails : Extends (many (tail (6 - n) (layer operand n)))
        (many (tail (6 - n) (layer operand' n))) := by
      apply Extends.many _ (tail_advances (layer_built built n) _)
        (tail_advances (layer_built built' n) _)
      apply Extends.after
      intro k
      split
      · exact .ite (.after fun _ => .before ih) (.refl _)
      · exact .refl _
    rw [layer_succ, layer_succ]
    exact .bind ih fun _ => .before tails

theorem arguments_extends :
  Extends (arguments operand) (arguments operand')
  := by
  have inner := layer_extends h built built' 6
  have more := inner.following .comma (layer_built built 6) (layer_built built' 6)
  exact .after fun _ => .ite (.refl _) (.bind inner fun _ => .before more)

theorem primary_extends :
  Extends (primary operand) (primary operand')
  := by
  apply Extends.after
  intro k
  split
  · exact .refl _
  · exact .refl _
  · exact .refl _
  · exact .refl _
  · exact .refl _
  · exact .after fun _ => .before (layer_extends h built built' 6)
  · exact .refl _

theorem suffixed_extends :
  Extends (suffixed operand) (suffixed operand')
  := by
  have suffixes : Extends (many (suffix operand)) (many (suffix operand')) := by
    apply Extends.many _ (suffix_advances built) (suffix_advances built')
    apply Extends.after
    intro k
    split
    · exact .after fun _ => .before (arguments_extends h built built')
    · exact .refl _
    · exact .refl _
  exact .bind (primary_extends h built built') fun _ => .before suffixes

end

theorem unary_extends {m n : Nat} (le : m ≤ n) :
  Extends (unary m) (unary n)
  := by
  induction m generalizing n with
  | zero => exact .tooDeep _
  | succ m ih =>
    obtain ⟨n, rfl⟩ : ∃ k, n = k + 1 := ⟨n - 1, by omega⟩
    have inner : Extends (unary m) (unary n) := ih (by omega)
    apply Extends.deeper
    apply Extends.after
    intro k
    split
    · exact .after fun _ => .before inner
    · exact .after fun _ => .before inner
    · apply suffixed_extends inner (unary_built m) (unary_built n)

theorem expr_extends {m n : Nat} (le : m ≤ n) :
  Extends (expr m) (expr n)
  := layer_extends (unary_extends le) (unary_built m) (unary_built n) 6

/-! ### Statements -/

section

variable {statement statement' : Rule Stmt} (h : Extends statement statement')

include h

theorem recovered_extends :
  Extends (recovered statement) (recovered statement')
  := .before (.attempt h)

theorem programRound_extends :
  Extends (programRound statement) (programRound statement')
  := by
  apply Extends.after
  intro k
  split
  · exact .refl _
  · exact .refl _
  · exact .refl _
  · apply recovered_extends h

variable (built : Built statement) (consumes : ∀ site ahead, ConsumesAt statement site ahead)
  (built' : Built statement') (consumes' : ∀ site ahead, ConsumesAt statement' site ahead)

include built consumes built' consumes'

theorem block_extends (others : KindSet) :
  Extends (block statement others) (block statement' others)
  := by
  apply Extends.after
  intro _
  apply Extends.many _ (blockRound_advances built consumes) (blockRound_advances built' consumes')
  apply Extends.after
  intro k
  split
  · exact .refl _
  · exact .refl _
  · exact .refl _
  · apply recovered_extends h

theorem elseBranch_extends :
  Extends (elseBranch statement) (elseBranch statement')
  := by
  refine .after fun _ => .ite (.after fun _ => .after fun _ => .after fun _ => .ite ?_ ?_) (.refl _)
  · exact .before h
  · exact .before (block_extends h built consumes built' consumes' _)

/-- A statement, where the expressions and the statements inside have more levels. -/
theorem statementOf_extends {expr expr' : Rule Expr} (hexpr : Extends expr expr') :
  Extends (statementOf expr statement) (statementOf expr' statement')
  := by
  have body := block_extends h built consumes built' consumes'
  apply Extends.after
  intro k
  split
  · exact .after fun _ => .after fun _ => .after fun _ => .ite (.after fun _ => .before hexpr) (.refl _)
  · exact .after fun _ => .after fun _ => .after fun _ => .after fun _ => .before (body _)
  · exact .after fun _ => .bind hexpr fun _ => .bind (body _) fun _ =>
      .before (elseBranch_extends h built consumes built' consumes')
  · exact .after fun _ => .bind hexpr fun _ => .before (body _)
  · exact .after fun _ => .after fun _ => .ite (.before hexpr) (.refl _)
  · exact .refl _
  · exact .after fun _ => .before hexpr
  · exact .after fun _ => .ite (.after fun _ => .after fun _ => .before hexpr)
      (.ite (.before hexpr) (.refl _))
  · exact .refl _

end

theorem statement_extends {m n : Nat} (le : m ≤ n) :
  Extends (statement m) (statement n)
  := by
  induction m generalizing n with
  | zero => exact .tooDeep _
  | succ m ih =>
    obtain ⟨n, rfl⟩ : ∃ k, n = k + 1 := ⟨n - 1, by omega⟩
    apply Extends.deeper
    apply statementOf_extends (ih (by omega)) (statement_built m) (statement_consumes m)
      (statement_built n) (statement_consumes n) (expr_extends (by omega))

/-- A document in which no rule runs out of levels is read in the same way where more of them may be
nested. -/
theorem program_extends {m n : Nat} (le : m ≤ n) :
  Extends (program m) (program n)
  := .many (programRound_extends (statement_extends le)) (programRound_advances m)
    (programRound_advances n)

end PlanetServer.Parse

namespace PlanetServer.Program

open Rule

/-- While the stream is read, no more than a number of levels are nested: a limit of that many is never
hit. -/
def NestsWithin (levels : Nat) (s : Stream) : Prop :=
  Shallow (ofStreamWithin levels s).failures

/-- A limit that is not hit might as well be higher. -/
theorem NestsWithin.ofStreamWithin_eq {levels levels' : Nat} {s : Stream}
    (within : NestsWithin levels s) (le : levels ≤ levels') :
  ofStreamWithin levels' s = ofStreamWithin levels s
  := by
  have same := Parse.program_extends le ⟨s.finish, 0⟩ (Word.gather s.tokens).2 within.of_append.2
  simp only [ofStreamWithin, same]

end PlanetServer.Program
