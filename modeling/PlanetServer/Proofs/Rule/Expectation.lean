import Mathlib.Data.List.Nodup
import PlanetServer.Proofs.Grammar.Completeness

/-!
# What a failure says was expected

A failure names kinds that would have been accepted. Some of them are the caller's: after an expression
the rule for what follows also names the operators that could go on with the expression. That is right
only because the rule for expressions stops nowhere but before words of other kinds.

* `Failure.Honest` says that the kinds that a failure names are some kinds, none of them hidden, and that
  the token at fault is of none of them.
* `Rule.Expects` is about one rule: if the next word meets a condition, all its failures are honest, and if
  it answers, the next word meets another condition.
* `Parse.program_honest` puts the rules together.
-/

namespace PlanetServer

/-! ### Sets of kinds -/

namespace Kind

/-- The kinds of the vocabulary have the places from zero on, in order. -/
theorem map_id_all :
  all.map Kind.id = List.range 39
  := by
  decide

theorem id_injective :
  Function.Injective Kind.id
  := by
  intro k k' same
  have distinct : (all.map Kind.id).Nodup := map_id_all ▸ List.nodup_range
  exact List.inj_on_of_nodup_map distinct (mem_all k) (mem_all k') same

theorem id_le (k : Kind) :
  k.id ≤ 38
  := by
  have place : k.id ∈ List.range 39 := map_id_all ▸ List.mem_map_of_mem (mem_all k)
  exact Nat.le_of_lt_succ (List.mem_range.mp place)

end Kind

namespace KindSet

/-- The place of a kind is a bit of the word. -/
theorem getLsbD_insert (s : KindSet) (k : Kind) (i : Nat) :
  (s.insert k).bits.getLsbD i = (s.bits.getLsbD i || decide (i = k.id))
  := by
  have small : k.id < 64 := Nat.lt_of_le_of_lt k.id_le (by decide)
  simp [insert, small, eq_comm]

theorem contains_insert (s : KindSet) (k k' : Kind) :
  (s.insert k).contains k' = (s.contains k' || decide (k' = k))
  := by
  simp only [contains, getLsbD_insert, Kind.id_injective.eq_iff]

theorem contains_union (s s' : KindSet) (k : Kind) :
  (s.union s').contains k = (s.contains k || s'.contains k)
  := by
  simp [contains, union]

theorem contains_empty (k : Kind) :
  empty.contains k = false
  := by
  simp [contains, empty]

theorem contains_single_of_ne {k k' : Kind} (other : k' ≠ k) :
  (ofList [k]).contains k' = false
  := by
  change (empty.insert k).contains k' = false
  rw [contains_insert, contains_empty, decide_eq_false other]
  rfl

/-- A set that a failure may name: it has kinds, none of them is hidden, and an `else` is never among
them. -/
def IsNamed (s : KindSet) : Prop :=
  (∃ k, s.contains k) ∧ ∀ k : Kind, s.contains k → k.isHidden = false ∧ k ≠ .kwElse

/-- A set that a failure in or after an expression may name: a new value is not among what can come. -/
def IsNamedByExpr (s : KindSet) : Prop :=
  s.IsNamed ∧ s.contains .assign = false

end KindSet

/-- The kinds that the failure names are among those that may be named, and the token at fault is of none
of them. -/
def Failure.Honest (named : KindSet → Prop) (f : Failure) : Prop :=
  ∀ expected, f.cause = .mismatch expected →
    named expected ∧ ∀ t, f.offending = some t → expected.contains t.kind = false

namespace Rule

variable {α β : Type}

/-- The kind of the next word. -/
def next (ahead : List Word) : Option Kind :=
  ahead.head?.map fun w => w.token.kind

/-- If the next word meets the first condition, the failures of the rule are honest, and if it answers,
the next word meets the second one. -/
def Expects (named : KindSet → Prop) (pre : Option Kind → Prop) (rule : Rule α)
    (post : α → Option Kind → Prop) : Prop :=
  ∀ site ahead, pre (next ahead) →
    (∀ f ∈ (rule site ahead).failures, f.Honest named)
      ∧ ∀ a, (rule site ahead).value = some a → post a (next (rule site ahead).rest)

theorem honest_unreadable {named : KindSet → Prop} {ts : List Token} {f : Failure}
    (member : f ∈ unreadable ts) :
  f.Honest named
  := by
  intro expected mismatch
  rw [cause_of_mem_unreadable member] at mismatch
  cases mismatch

namespace Expects

variable {named named' : KindSet → Prop} {pre pre' : Option Kind → Prop}
  {post post' : α → Option Kind → Prop}

theorem mono {rule : Rule α} (h : Expects named pre' rule post') (stronger : ∀ k, pre k → pre' k)
    (weaker : ∀ a k, post' a k → post a k) :
  Expects named pre rule post
  := by
  intro site ahead holds
  obtain ⟨honest, after⟩ := h site ahead (stronger _ holds)
  exact ⟨honest, fun a found => weaker a _ (after a found)⟩

/-- More sets may be named. -/
theorem widen {rule : Rule α} (h : Expects named' pre rule post)
    (wider : ∀ expected, named' expected → named expected) :
  Expects named pre rule post
  := by
  intro site ahead holds
  obtain ⟨honest, after⟩ := h site ahead holds
  refine ⟨fun f member expected mismatch => ?_, after⟩
  obtain ⟨among, other⟩ := honest f member expected mismatch
  exact ⟨wider expected among, other⟩

theorem pure {a : α} (h : ∀ k, pre k → post a k) :
  Expects named pre (pure a) post
  := by
  intro site ahead holds
  refine ⟨nofun, ?_⟩
  rintro _ ⟨⟩
  apply h _ holds

theorem bind {rule : Rule β} {next : β → Rule α} {mid : β → Option Kind → Prop}
    (h : Expects named pre rule mid) (h' : ∀ b, Expects named (mid b) (next b) post) :
  Expects named pre (rule >>= next) post
  := by
  intro site ahead holds
  obtain ⟨honest, after⟩ := h site ahead holds
  cases found : (rule site ahead).value with
  | none =>
    rw [bind_of_none found]
    exact ⟨honest, nofun⟩
  | some b =>
    obtain ⟨honest', after'⟩ := h' b site _ (after b found)
    rw [bind_of_some found]
    exact ⟨List.forall_mem_append.mpr ⟨honest, honest'⟩, after'⟩

/-- An answer, where nothing is asked of the next word. -/
theorem answer (a : α) :
  Expects named pre (Pure.pure a) fun _ _ => True
  := pure fun _ _ => trivial

/-- A rule whose answer is changed by a function. -/
theorem map {rule : Rule β} (f : β → α) {mid : β → Option Kind → Prop} (h : Expects named pre rule mid)
    (weaker : ∀ b k, mid b k → post (f b) k) :
  Expects named pre (do return f (← rule)) post
  := bind h fun b => pure (weaker b)

/-- A failure that names no kinds. -/
theorem fail {cause : Cause} (other : ∀ expected, cause ≠ .mismatch expected) :
  Expects named pre (fail cause) post
  := by
  intro site ahead _
  refine ⟨?_, nofun⟩
  intro f member expected mismatch
  rw [List.mem_singleton.mp member, failureAt_cause] at mismatch
  apply absurd mismatch (other expected)

/-- A failure that names kinds of which the next word is not. -/
theorem mismatch {expected : KindSet} (among : named expected)
    (other : ∀ k, pre (some k) → expected.contains k = false) :
  Expects named pre (Rule.fail (.mismatch expected)) post
  := by
  intro site ahead holds
  refine ⟨?_, nofun⟩
  intro f member expected' found
  rw [List.mem_singleton.mp member] at found ⊢
  obtain rfl : expected = expected' := by simpa using found
  refine ⟨among, fun t fault => ?_⟩
  cases ahead with
  | nil => cases fault
  | cons w ahead =>
    obtain rfl := Option.some.inj fault
    apply other _ holds

theorem report {cause : Cause} (other : ∀ expected, cause ≠ .mismatch expected) :
  Expects named pre (report cause) fun _ _ => True
  := by
  intro site ahead _
  refine ⟨?_, fun _ _ => trivial⟩
  intro f member expected mismatch
  rw [List.mem_singleton.mp member, failureAt_cause] at mismatch
  apply absurd mismatch (other expected)

theorem advance :
  Expects named pre advance fun _ _ => True
  := by
  rintro site (_ | ⟨w, ahead⟩) _
  · exact ⟨nofun, fun _ _ => trivial⟩
  · exact ⟨fun _ => honest_unreadable, fun _ _ => trivial⟩

theorem take :
  Expects named pre take fun _ _ => True
  := by
  rintro site (_ | ⟨w, ahead⟩) _
  · exact ⟨nofun, fun _ _ => trivial⟩
  · exact ⟨fun _ => honest_unreadable, fun _ _ => trivial⟩

theorem peek_bind {next : Option Kind → Rule α}
    (h : ∀ k, pre k → Expects named (fun k' => k' = k) (next k) post) :
  Expects named pre (peek >>= next) post
  := by
  intro site ahead holds
  cases ahead with
  | nil => apply h none holds site [] rfl
  | cons w ahead => apply h (some w.token.kind) holds site (w :: ahead) rfl

/-- A look at the words ahead, which leaves them there. -/
theorem look_bind {f : List Kind → β} {next : β → Rule α} (h : ∀ b, Expects named pre (next b) post) :
  Expects named pre (look f >>= next) post
  := fun site ahead holds => h _ site ahead holds

/-- A choice by the next word. -/
theorem sees_ite {k : Kind} {rule rule' : Rule α} (h : Expects named (fun _ => True) rule post)
    (h' : Expects named (fun k' => pre k' ∧ k' ≠ some k) rule' post) :
  Expects named pre (do if ← sees k then rule else rule') post
  := by
  intro site ahead holds
  cases ahead with
  | nil => apply h' site [] ⟨holds, nofun⟩
  | cons w ahead =>
    rw [sees_bind_cons]
    by_cases found : w.token.kind = k
    · rw [if_pos (decide_eq_true found)]
      apply h site (w :: ahead) trivial
    · rw [if_neg (by simpa using found)]
      apply h' site (w :: ahead) ⟨holds, fun same => found (Option.some.inj same)⟩

/-- A required word, where the next one is of none of the other kinds. -/
theorem expect {k : Kind} {others : KindSet} (among : named (others.insert k))
    (apart : ∀ k', pre (some k') → others.contains k' = false) :
  Expects named pre (expect k others) fun _ _ => True
  := by
  apply sees_ite take
  apply mismatch among
  rintro k' ⟨holds, other⟩
  have differs : k' ≠ k := fun same => other (congrArg some same)
  rw [KindSet.contains_insert, apart k' holds, decide_eq_false differs]
  rfl

theorem attempt {rule : Rule α} (h : Expects named pre rule post) :
  Expects named pre (attempt rule) fun _ _ => True
  := fun site ahead holds => ⟨(h site ahead holds).1, fun _ _ => trivial⟩

theorem deeper {rule : Rule α} (h : Expects named pre rule post) :
  Expects named pre (deeper rule) post
  := fun site => h ⟨site.finish, site.depth + 1⟩

/-- A repetition, round by round. The condition on the next word holds before every round. -/
theorem many {round : Rule (Round α)} (advances : Advances round) {after : Option Kind → Prop}
    (h : Expects named pre round fun r k => match r with
      | .stop => after k
      | _ => pre k) :
  Expects named pre (many round) fun _ => after
  := by
  intro site ahead
  apply many_induct advances site (P := fun ahead reply => pre (Rule.next ahead) →
    (∀ f ∈ reply.failures, f.Honest named) ∧ ∀ a, reply.value = some a → after (Rule.next reply.rest))
  · intro ahead _ holds
    exact ⟨(h site ahead holds).1, nofun⟩
  · intro ahead found holds
    obtain ⟨honest, stopped⟩ := h site ahead holds
    exact ⟨honest, fun _ _ => stopped .stop found⟩
  · intro ahead reply found _ tail holds
    obtain ⟨honest, goes⟩ := h site ahead holds
    obtain ⟨honest', stopped⟩ := tail (goes .skip found)
    exact ⟨List.forall_mem_append.mpr ⟨honest, honest'⟩, stopped⟩
  · intro ahead reply a found _ tail holds
    obtain ⟨honest, goes⟩ := h site ahead holds
    obtain ⟨honest', stopped⟩ := tail (goes (.item a) found)
    refine ⟨List.forall_mem_append.mpr ⟨honest, honest'⟩, fun as answer => ?_⟩
    obtain ⟨as', answer, -⟩ := Option.map_eq_some_iff.mp answer
    apply stopped as' answer

/-- A repetition of rounds that ask nothing of the next word. -/
theorem many_of_honest {round : Rule (Round α)} (advances : Advances round)
    (h : Expects named (fun _ => True) round fun _ _ => True) :
  Expects named pre (Rule.many round) fun _ _ => True
  := by
  have rounds : Expects named (fun _ => True) (Rule.many round) fun _ _ => True := by
    apply many advances
    apply h.mono (fun _ _ => trivial)
    intro r _ _
    cases r <;> trivial
  apply rounds.mono (fun _ _ => trivial) fun _ _ _ => trivial

/-- Items after dividers: the condition after an item holds at the end too, and the next word is no
divider. -/
theorem following {item : Rule α} (built : Built item) {divider : Kind}
    (h : Expects named (fun _ => True) item fun _ => pre) :
  Expects named pre (following divider item) fun _ k => pre k ∧ k ≠ some divider
  := by
  apply many (Parse.following_advances built divider)
  apply sees_ite
  · exact advance.bind fun _ => .map _ h fun _ _ holds => holds
  · exact .pure fun _ holds => holds

end Expects

end Rule

namespace Parse

open Rule Grammar

theorem name_expects {pre : Option Kind → Prop} :
  Expects KindSet.IsNamedByExpr pre (expect .identifier .empty) fun _ _ => True
  := .expect ⟨⟨⟨.identifier, by decide⟩, by decide⟩, by decide⟩
    fun _ _ => KindSet.contains_empty _

/-! ### Expressions -/

/-- The next word does not go on with an expression whose operators are among the `n` tightest ranks. -/
def Past (n : Nat) (k : Option Kind) : Prop :=
  ∀ k' ∈ k, ¬ goesOn n k'

theorem Past.succ {n : Nat} {k : Option Kind} (past : Past n k)
    (other : ∀ k' ∈ k, k'.rank? ≠ some (6 - n)) :
  Past (n + 1) k
  := by
  rintro k' found (paren | dot | ⟨m, less, rank⟩)
  · apply past k' found (.inl paren)
  · apply past k' found (.inr (.inl dot))
  · rcases Nat.lt_succ_iff_lt_or_eq.mp less with less | rfl
    · apply past k' found (.inr (.inr ⟨m, less, rank⟩))
    · apply other k' found rank

theorem Past.zero {k : Option Kind} (paren : k ≠ some .leftParen) (dot : k ≠ some .dot) :
  Past 0 k
  := by
  rintro k' found (rfl | rfl | ⟨m, less, -⟩)
  · apply paren found
  · apply dot found
  · cases less

/-- What can go on with an expression is what the failures after it name. -/
theorem contains_exprContinuation {k : Kind} (past : Past 6 (some k)) :
  exprContinuation.contains k = false
  := by
  have all : ∀ k : Kind, ¬ goesOn 6 k → exprContinuation.contains k = false := by decide
  apply all k (past k rfl)

section

variable {operand : Rule Expr} (built : Built operand)
  (h : Expects KindSet.IsNamedByExpr (fun _ => True) operand fun _ => Past 0)

include built h

theorem layer_expects (n : Nat) :
  Expects KindSet.IsNamedByExpr (fun _ => True) (layer operand n) fun _ => Past n
  := by
  induction n with
  | zero => apply h
  | succ n ih =>
    have tails : Expects KindSet.IsNamedByExpr (Past n) (many (tail (6 - n) (layer operand n)))
        fun _ => Past (n + 1) := by
      apply Expects.many (tail_advances (layer_built built n) _)
      apply Expects.peek_bind
      intro k past
      split
      · split
        · exact Expects.advance.bind fun _ => .map _ ih fun _ _ past => past
        · apply Expects.pure
          rintro _ rfl
          apply past.succ
          rintro _ ⟨⟩
          assumption
      · apply Expects.pure
        rintro _ rfl
        rintro _ ⟨⟩
    rw [layer_succ]
    exact .bind ih fun _ => .map _ tails fun _ _ past => past

theorem arguments_expects :
  Expects KindSet.IsNamedByExpr (fun _ => True) (arguments operand) fun _ _ => True
  := by
  have inner := layer_expects built h 6
  apply Expects.sees_ite
  · exact Expects.advance.bind fun _ => .answer _
  · refine .bind (inner.mono (fun _ _ => trivial) fun _ _ past => past) fun head => ?_
    refine .bind (.following (exprOf_built built) inner) fun tail => ?_
    refine .bind (.expect ⟨⟨⟨.rightParen, by decide⟩, by decide⟩, by decide⟩ ?_) fun _ => .answer _
    rintro k ⟨past, other⟩
    rw [KindSet.contains_insert, contains_exprContinuation past]
    simpa using other

theorem primary_expects :
  Expects KindSet.IsNamedByExpr (fun _ => True) (primary operand) fun _ _ => True
  := by
  apply Expects.peek_bind
  intro k _
  split
  · exact .map _ .take fun _ _ _ => trivial
  · exact .map _ .take fun _ _ _ => trivial
  · exact .map _ .take fun _ _ _ => trivial
  · exact .bind .advance fun _ => .answer _
  · exact .bind .advance fun _ => .answer _
  · refine .bind .advance fun _ => .bind (layer_expects built h 6) fun inner => ?_
    refine .bind (.expect ⟨⟨⟨.rightParen, by decide⟩, by decide⟩, by decide⟩ ?_) fun _ => .answer _
    exact fun k past => contains_exprContinuation past
  · exact .fail (by simp)

theorem suffixed_expects :
  Expects KindSet.IsNamedByExpr (fun _ => True) (suffixed operand) fun _ => Past 0
  := by
  have suffixes :
      Expects KindSet.IsNamedByExpr (fun _ => True) (many (suffix operand)) fun _ => Past 0 := by
    apply Expects.many (suffix_advances built)
    apply Expects.peek_bind
    intro k _
    split
    · exact .bind .advance fun _ => .map _ (arguments_expects built h) fun _ _ _ => trivial
    · exact .bind .advance fun _ => .map _ name_expects fun _ _ _ => trivial
    · apply Expects.pure
      rintro _ rfl
      apply Past.zero ‹_› ‹_›
  exact .bind (primary_expects built h) fun _ => .map _ suffixes fun _ _ past => past

end

theorem unary_expects (n : Nat) :
  Expects KindSet.IsNamedByExpr (fun _ => True) (unary n) fun _ => Past 0
  := by
  induction n with
  | zero => exact .fail (by simp)
  | succ n ih =>
    apply Expects.deeper
    apply Expects.peek_bind
    intro k _
    split
    · exact .bind .advance fun _ => .map _ ih fun _ _ past => past
    · exact .bind .advance fun _ => .map _ ih fun _ _ past => past
    · apply (suffixed_expects (unary_built n) ih).mono (fun _ _ => trivial) fun _ _ past => past

theorem expr_expects (n : Nat) :
  Expects KindSet.IsNamedByExpr (fun _ => True) (expr n) fun _ => Past 6
  := layer_expects (unary_built n) (unary_expects n) 6

/-! ### Statements -/

theorem name_honest {pre : Option Kind → Prop} :
  Expects KindSet.IsNamed pre (expect .identifier .empty) fun _ _ => True
  := name_expects.widen fun _ => And.left

theorem expr_honest (n : Nat) :
  Expects KindSet.IsNamed (fun _ => True) (expr n) fun _ => Past 6
  := (expr_expects n).widen fun _ => And.left

theorem terminator_expects {others : KindSet} {pre : Option Kind → Prop}
    {named : KindSet → Prop} (among : named (terminators.union others))
    (apart : ∀ k, pre (some k) → others.contains k = false) :
  Expects named pre (terminator others) fun _ _ => True
  := by
  have ends : ∀ k : Kind, k ≠ .semicolon → k ≠ .newline → terminators.contains k = false := by decide
  apply Expects.peek_bind
  intro k holds
  split
  · apply Expects.advance
  · apply Expects.advance
  · apply Expects.answer
  · apply Expects.answer
  · apply Expects.mismatch among
    rintro _ ⟨⟩
    rw [KindSet.contains_union, apart _ holds, ends _ (by simp_all) (by simp_all)]
    rfl

theorem synchronize_expects :
  Expects KindSet.IsNamed (fun _ => True) synchronize fun _ _ => True
  := by
  refine .bind (.many_of_honest skipWord_advances ?_) fun _ => ?_
  · apply Expects.peek_bind
    intro k _
    split
    · apply Expects.answer
    · apply Expects.answer
    · apply Expects.answer
    · apply Expects.answer
    · exact .bind .advance fun _ => .answer _
  · apply Expects.peek_bind
    intro k _
    split
    · apply Expects.advance
    · apply Expects.advance
    · apply Expects.answer

theorem recovered_expects {statement : Rule Stmt} {pre : Option Kind → Prop}
    (h : Expects KindSet.IsNamed (fun _ => True) statement fun _ _ => True) :
  Expects KindSet.IsNamed pre (recovered statement) fun _ _ => True
  := by
  refine .bind (.mono (.attempt h) (fun _ _ => trivial) fun _ _ holds => holds) fun s => ?_
  split
  · apply Expects.answer
  · exact .bind synchronize_expects fun _ => .answer _

theorem parameters_expects {pre : Option Kind → Prop} :
  Expects KindSet.IsNamed pre parameters fun _ _ => True
  := by
  apply Expects.sees_ite
  · refine .bind .take fun head => .bind (.following (.expect _ _) name_honest) fun tail => ?_
    refine .bind (.expect ⟨⟨.rightParen, by decide⟩, by decide⟩ ?_) fun _ => .answer _
    rintro k ⟨-, other⟩
    apply KindSet.contains_single_of_ne fun same => other (congrArg some same)
  · refine .bind (.expect ⟨⟨.rightParen, by decide⟩, by decide⟩ ?_) fun _ => .answer _
    rintro k ⟨-, other⟩
    apply KindSet.contains_single_of_ne fun same => other (congrArg some same)

/-- An expression and the end of the statement. -/
theorem exprEnded_expects (n : Nat) {pre : Option Kind → Prop} (statement : Expr → Stmt) :
  Expects KindSet.IsNamedByExpr pre (do
    let value ← expr n
    terminator exprContinuation
    return statement value) fun _ _ => True
  := by
  have among : (terminators.union exprContinuation).IsNamedByExpr :=
    ⟨⟨⟨.semicolon, by decide⟩, by decide⟩, by decide⟩
  refine .bind ((expr_expects n).mono (fun _ _ => trivial) fun _ _ past => past) fun value => ?_
  exact .bind (terminator_expects among fun k past => contains_exprContinuation past) fun _ => .answer _

theorem exprEnded_honest (n : Nat) {pre : Option Kind → Prop} (statement : Expr → Stmt) :
  Expects KindSet.IsNamed pre (do
    let value ← expr n
    terminator exprContinuation
    return statement value) fun _ _ => True
  := (exprEnded_expects n statement).widen fun _ => And.left

theorem varDecl_expects (n : Nat) {pre : Option Kind → Prop} :
  Expects KindSet.IsNamed pre (varDecl (expr n)) fun _ _ => True
  := by
  refine .bind .advance fun _ => .bind name_honest fun name => .sees_ite ?_ ?_
  · exact .bind .advance fun _ => exprEnded_honest n fun value => .var name (some value)
  · refine .bind (terminator_expects ⟨⟨.semicolon, by decide⟩, by decide⟩ ?_) fun _ => .answer _
    rintro k ⟨-, other⟩
    apply KindSet.contains_single_of_ne fun same => other (congrArg some same)

theorem returnStmt_expects (n : Nat) {pre : Option Kind → Prop} :
  Expects KindSet.IsNamed pre (returnStmt (expr n)) fun _ _ => True
  := by
  refine .bind .advance fun _ => .peek_bind fun k _ => ?_
  split
  · exact exprEnded_honest n fun value => .ret (some value)
  · rename_i other
    refine .bind (terminator_expects ⟨⟨.semicolon, by decide⟩, by decide⟩ ?_) fun _ => .answer _
    rintro k' rfl
    apply Bool.eq_false_iff.mpr other

theorem importStmt_expects {pre : Option Kind → Prop} :
  Expects KindSet.IsNamed pre importStmt fun _ _ => True
  := by
  refine .bind .advance fun _ => .bind name_honest fun head =>
    .bind (.following (.expect _ _) name_honest) fun tail => ?_
  refine .bind (terminator_expects ⟨⟨.semicolon, by decide⟩, by decide⟩ ?_) fun _ => .answer _
  rintro k ⟨-, other⟩
  apply KindSet.contains_single_of_ne fun same => other (congrArg some same)

section

variable {statement : Rule Stmt} (h : Expects KindSet.IsNamed (fun _ => True) statement fun _ _ => True)
  (built : Built statement) (consumes : ∀ site ahead, ConsumesAt statement site ahead)

include h built consumes

theorem block_expects {others : KindSet} {pre : Option Kind → Prop}
    (among : (others.insert .leftBrace).IsNamed)
    (apart : ∀ k, pre (some k) → others.contains k = false) :
  Expects KindSet.IsNamed pre (block statement others) fun _ _ => True
  := by
  refine .bind (.expect among apart) fun _ => ?_
  apply Expects.many_of_honest (blockRound_advances built consumes)
  apply Expects.peek_bind
  intro k _
  split
  · exact .bind .advance fun _ => .answer _
  · exact .bind .advance fun _ => .answer _
  · exact .mismatch ⟨⟨.rightBrace, by decide⟩, by decide⟩ nofun
  · apply recovered_expects h

theorem elseBranch_expects :
  Expects KindSet.IsNamed (fun _ => True) (elseBranch statement) fun _ _ => True
  := by
  rw [elseBranch, elseAhead_eq_look]
  apply Expects.look_bind
  intro found
  split
  · refine .bind (.many_of_honest skipNewline_advances ?_) fun _ => .bind .advance fun _ => ?_
    · exact .sees_ite (.bind .advance fun _ => .answer _) (.answer _)
    · apply Expects.sees_ite
      · exact .map _ h fun _ _ _ => trivial
      · refine .map _ (block_expects h built consumes ⟨⟨.leftBrace, by decide⟩, by decide⟩ ?_)
          fun _ _ _ => trivial
        rintro k ⟨-, other⟩
        apply KindSet.contains_single_of_ne fun same => other (congrArg some same)
  · apply Expects.answer

theorem defDecl_expects {pre : Option Kind → Prop} :
  Expects KindSet.IsNamed pre (defDecl statement) fun _ _ => True
  := by
  have opens : Expects KindSet.IsNamed (fun _ => True) (expect .leftParen .empty) fun _ _ => True :=
    .expect ⟨⟨.leftParen, by decide⟩, by decide⟩ fun _ _ => KindSet.contains_empty _
  have body : Expects KindSet.IsNamed (fun _ => True) (block statement .empty) fun _ _ => True :=
    block_expects h built consumes ⟨⟨.leftBrace, by decide⟩, by decide⟩
      fun _ _ => KindSet.contains_empty _
  exact .bind .advance fun _ => .bind name_honest fun _ => .bind opens fun _ =>
    .bind parameters_expects fun _ => .map _ body fun _ _ _ => trivial

theorem statementOf_expects (n : Nat) :
  Expects KindSet.IsNamed (fun _ => True) (statementOf (expr n) statement) fun _ _ => True
  := by
  have body : Expects KindSet.IsNamed (Past 6) (block statement exprContinuation) fun _ _ => True :=
    block_expects h built consumes ⟨⟨.leftBrace, by decide⟩, by decide⟩
      fun k past => contains_exprContinuation past
  apply Expects.peek_bind
  intro k _
  split
  · apply varDecl_expects n
  · apply defDecl_expects h built consumes
  · exact .bind .advance fun _ => .bind (expr_honest n) fun _ => .bind body fun _ =>
      .map _ (elseBranch_expects h built consumes) fun _ _ _ => trivial
  · exact .bind .advance fun _ => .bind (expr_honest n) fun _ => .map _ body fun _ _ _ => trivial
  · apply returnStmt_expects n
  · apply importStmt_expects
  · exact .bind .advance fun _ => exprEnded_honest n .execute
  · rw [lookahead_eq_look]
    apply Expects.look_bind
    intro second
    split
    · exact .bind .take fun target => .bind .advance fun _ => exprEnded_honest n (.assign target)
    · split
      · apply exprEnded_honest n .expr
      · exact .fail (by simp)
  · exact .fail (by simp)

end

theorem statement_expects (n : Nat) :
  Expects KindSet.IsNamed (fun _ => True) (statement n) fun _ _ => True
  := by
  induction n with
  | zero => exact .fail (by simp)
  | succ n ih => exact .deeper (statementOf_expects ih (statement_built n) (statement_consumes n) n)

/-- All failures of a document are honest. -/
theorem program_honest (n : Nat) (site : Site) (ahead : List Word) :
  ∀ f ∈ (program n site ahead).failures, f.Honest KindSet.IsNamed
  := by
  have rounds : Expects KindSet.IsNamed (fun _ => True) (program n) fun _ _ => True := by
    apply Expects.many_of_honest (programRound_advances n)
    apply Expects.peek_bind
    intro k _
    split
    · exact .bind .advance fun _ => .answer _
    · exact .bind (.report (by simp)) fun _ => .bind .advance fun _ => .answer _
    · apply Expects.answer
    · apply recovered_expects (statement_expects n)
  apply (rounds site ahead trivial).1

end Parse

end PlanetServer
