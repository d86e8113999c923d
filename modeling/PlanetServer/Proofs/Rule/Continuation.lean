import PlanetServer.Proofs.Rule.Outcome

/-!
# Pieces of a document

What the parser does with a piece of a document that ends with a line end does not depend on what
comes after it, except where the piece ends too early. Here all failures of a run count, and what it
does to recover from them, not only the first one.

* `Rule.Seam` is the place where two pieces meet: the line end at the end of the first one, on its own
  and with the hidden tokens at the start of the second one behind it, and the words of the second one.
* `Rule.Continues` compares a run on the first piece with a run on both. The first one may find that
  the document ends too early. Otherwise both answer the same and leave the same: some words of the
  first piece, or nothing of it.
-/

namespace PlanetServer.Rule

variable {α β : Type}

/-- Where two pieces of a document meet. -/
structure Seam (t t' : Word) (v : List Word) : Prop where
  /-- The first piece ends with a line end. -/
  line : t.token.kind = .newline
  /-- It is the same line end if the second piece follows. -/
  same : t'.token = t.token
  /-- Nothing stands behind it in the first piece. -/
  bare : t.trail = []
  /-- The second piece does not go on with a conditional statement of the first one. -/
  noElse : hasElse v = false

/-- The run is told that the document ends too early. -/
def Truncated (failures : List Failure) : Prop :=
  ∃ f ∈ failures, f.offending = none

theorem Truncated.bind {rule : Rule α} {next : α → Rule β} {site : Site} {ahead : List Word}
    (h : Truncated (rule site ahead).failures) :
  Truncated ((rule >>= next) site ahead).failures
  := by
  obtain ⟨f, member, missing⟩ := h
  refine ⟨f, ?_, missing⟩
  rcases found : (rule site ahead).value with _ | a
  · rw [bind_of_none found]
    apply member
  · rw [bind_of_some found]
    apply List.mem_append_left _ member

/-- A run on the first piece and a run on both pieces, where the words `s` and the line end are left
of the first one. If the rule reads all of them, `done` holds of its answer. -/
def Continues (t t' : Word) (v : List Word) (done : α → Prop) (rule : Rule α) (s : List Word) : Prop :=
  ∀ finish finish' depth,
    Truncated (rule ⟨finish, depth⟩ (s ++ [t])).failures
      ∨ (∃ value s' failures, rule ⟨finish, depth⟩ (s ++ [t]) = ⟨value, s' ++ [t], failures⟩
        ∧ rule ⟨finish', depth⟩ (s ++ t' :: v) = ⟨value, s' ++ t' :: v, failures⟩)
      ∨ ∃ a failures, done a ∧ rule ⟨finish, depth⟩ (s ++ [t]) = ⟨some a, [], failures⟩
        ∧ rule ⟨finish', depth⟩ (s ++ t' :: v) = ⟨some a, v, failures ++ unreadable t'.trail⟩

/-- The rule never reads the line end. -/
def Inner (t t' : Word) (v : List Word) (rule : Rule α) : Prop :=
  ∀ s, Continues t t' v (fun _ => False) rule s

namespace Continues

variable {t t' : Word} {v : List Word} (seam : Seam t t' v) {done : α → Prop} {w : Word}
  {s : List Word}

theorem mono {done' : α → Prop} {rule : Rule α} (h : Continues t t' v done rule s)
    (weaker : ∀ a, done a → done' a) :
  Continues t t' v done' rule s
  := by
  intro finish finish' depth
  rcases h finish finish' depth with truncated | kept | ⟨a, failures, settled, runs⟩
  · exact .inl truncated
  · exact .inr (.inl kept)
  · exact .inr (.inr ⟨a, failures, weaker a settled, runs⟩)

theorem congr {rule rule' : Rule α} (run : ∀ site, rule site (s ++ [t]) = rule' site (s ++ [t]))
    (run' : ∀ site, rule site (s ++ t' :: v) = rule' site (s ++ t' :: v))
    (h : Continues t t' v done rule' s) :
  Continues t t' v done rule s
  := by
  intro finish finish' depth
  rw [run, run']
  apply h finish finish' depth

theorem pure (a : α) (s : List Word) :
  Continues t t' v done (pure a) s
  := fun _ _ _ => .inr (.inl ⟨some a, s, [], rfl, rfl⟩)

include seam in
theorem failureAt_seam (cause : Cause) (finish finish' : Mark) (depth : Nat) (s : List Word) :
  failureAt cause ⟨finish, depth⟩ (s ++ [t]) = failureAt cause ⟨finish', depth⟩ (s ++ t' :: v)
  := by
  cases s with
  | nil => simp [failureAt, seam.same]
  | cons w s => rfl

include seam in
theorem fail (cause : Cause) (s : List Word) :
  Continues t t' v done (fail cause) s
  := by
  intro finish finish' depth
  refine .inr (.inl ⟨none, s, _, rfl, ?_⟩)
  rw [failureAt_seam seam cause finish finish']
  rfl

include seam in
theorem report (cause : Cause) (s : List Word) :
  Continues t t' v (fun _ => False) (report cause) s
  := by
  intro finish finish' depth
  refine .inr (.inl ⟨some (), s, _, rfl, ?_⟩)
  rw [failureAt_seam seam cause finish finish']
  rfl

include seam in
theorem advance (s : List Word) :
  Continues t t' v (fun _ => True) advance s
  := by
  intro finish finish' depth
  cases s with
  | nil => exact .inr (.inr ⟨(), [], trivial, by simp [Rule.advance, seam.bare, unreadable], rfl⟩)
  | cons w s => exact .inr (.inl ⟨some (), s, _, rfl, rfl⟩)

/-- One rule after the other. If the first one has read the whole piece, the second one must find that
the document ends too early, or not look at what comes after. -/
theorem bind_at {rule : Rule β} {next : β → Rule α} {done' : β → Prop}
    (h : Continues t t' v done' rule s)
    (h' : ∀ b s' site, (rule site (s ++ [t])).value = some b →
      (rule site (s ++ [t])).rest = s' ++ [t] → Continues t t' v done (next b) s')
    (settled : ∀ b, done' b → (∀ site, Truncated (next b site []).failures)
      ∨ ∃ a, done a ∧ next b = Pure.pure a) :
  Continues t t' v done (rule >>= next) s
  := by
  intro finish finish' depth
  rcases h finish finish' depth with truncated | ⟨value, s', failures, run, run'⟩
    | ⟨b, failures, read, run, run'⟩
  · exact .inl truncated.bind
  · rcases value with _ | b
    · refine .inr (.inl ⟨none, s', failures, ?_, ?_⟩)
      · rw [bind_of_none (by rw [run]), run]
      · rw [bind_of_none (by rw [run']), run']
    · have second := h' b s' ⟨finish, depth⟩ (by rw [run]) (by rw [run])
      rw [bind_of_some (by rw [run]), bind_of_some (by rw [run']), run, run']
      dsimp only
      rcases second finish finish' depth with ⟨f, member, missing⟩
        | ⟨value, s'', failures', next, next'⟩ | ⟨a, failures', read, next, next'⟩
      · exact .inl ⟨f, List.mem_append_right _ member, missing⟩
      · rw [next, next']
        exact .inr (.inl ⟨value, s'', failures ++ failures', rfl, rfl⟩)
      · rw [next, next']
        exact .inr (.inr ⟨a, failures ++ failures', read, rfl, by simp⟩)
  · rw [bind_of_some (by rw [run]), bind_of_some (by rw [run']), run, run']
    dsimp only
    rcases settled b read with truncated | ⟨a, read', eq⟩
    · obtain ⟨f, member, missing⟩ := truncated ⟨finish, depth⟩
      exact .inl ⟨f, List.mem_append_right _ member, missing⟩
    · rw [eq]
      refine .inr (.inr ⟨a, failures, read', ?_, ?_⟩)
      · simp [Pure.pure, Rule.pure]
      · simp [Pure.pure, Rule.pure]

/-- One rule after the other, where the second one must not look at what comes after if the first one
has read the whole piece. -/
theorem bind_of_blind {rule : Rule β} {next : β → Rule α} {done' : β → Prop}
    (h : Continues t t' v done' rule s) (h' : ∀ b s', Continues t t' v done (next b) s')
    (blind : ∀ b, done' b → ∃ a, done a ∧ next b = Pure.pure a) :
  Continues t t' v done (rule >>= next) s
  := bind_at h (fun b s' _ _ _ => h' b s') fun b read => .inr (blind b read)

theorem bind {rule : Rule β} {next : β → Rule α} (h : Continues t t' v (fun _ => False) rule s)
    (h' : ∀ b s', Continues t t' v done (next b) s') :
  Continues t t' v done (rule >>= next) s
  := bind_of_blind h h' fun _ => False.elim

/-- A rule whose answer is changed by a function. -/
theorem map {rule : Rule β} (f : β → α) (h : Continues t t' v (fun _ => True) rule s)
    (holds : ∀ b, done (f b)) :
  Continues t t' v done (do return f (← rule)) s
  := bind_of_blind h (fun b s' => .pure (f b) s') fun b _ => ⟨f b, holds b, rfl⟩

/-- One rule after the other, where it is known what the first one reads. -/
theorem bind_of_run {rule : Rule β} {next : β → Rule α} {b : β} (s' : List Word)
    {failures : List Failure} (run : ∀ site, rule site (s ++ [t]) = ⟨some b, s' ++ [t], failures⟩)
    (run' : ∀ site, rule site (s ++ t' :: v) = ⟨some b, s' ++ t' :: v, failures⟩)
    (h : Continues t t' v done (next b) s') :
  Continues t t' v done (rule >>= next) s
  := by
  have first : Continues t t' v (fun _ => False) rule s :=
    fun finish finish' depth => .inr (.inl ⟨some b, s', failures, run _, run' _⟩)
  apply bind_at first
  · intro b' s'' site found rest
    rw [run] at found rest
    obtain rfl := Option.some.inj found
    obtain rfl := List.append_cancel_right rest
    apply h
  · exact fun _ => False.elim

theorem advance_bind {next : Unit → Rule α} (h : Continues t t' v done (next ()) s) :
  Continues t t' v done (Rule.advance >>= next) (w :: s)
  := bind_of_run s (fun _ => rfl) (fun _ => rfl) h

theorem take_bind {next : String → Rule α} (h : Continues t t' v done (next w.token.text) s) :
  Continues t t' v done (Rule.take >>= next) (w :: s)
  := bind_of_run s (fun _ => rfl) (fun _ => rfl) h

include seam in
theorem peek_nil {next : Option Kind → Rule α}
    (h : Continues t t' v done (next (some .newline)) []) :
  Continues t t' v done (peek >>= next) []
  := by
  apply congr _ _ h
  · intro site
    rw [List.nil_append, peek_bind_cons, seam.line]
  · intro site
    rw [List.nil_append, peek_bind_cons, seam.same, seam.line]

theorem peek_cons {next : Option Kind → Rule α}
    (h : Continues t t' v done (next (some w.token.kind)) (w :: s)) :
  Continues t t' v done (peek >>= next) (w :: s)
  := h

theorem lookahead_bind {n : Nat} {next : Option Kind → Rule α}
    (same : (s ++ [t])[n]?.map (fun w => w.token.kind) = (s ++ t' :: v)[n]?.map fun w => w.token.kind)
    (h : Continues t t' v done (next ((s ++ [t])[n]?.map fun w => w.token.kind)) s) :
  Continues t t' v done (lookahead n >>= next) s
  := by
  apply congr _ _ h
  · exact fun site => rfl
  · intro site
    rw [same]
    rfl

include seam in
/-- A choice by the next word, which must not be the line end. -/
theorem sees_ite {k : Kind} (other : k ≠ .newline) {rule rule' : Rule α}
    (yes : ∀ w s', s = w :: s' → w.token.kind = k → Continues t t' v done rule (w :: s'))
    (no : Continues t t' v done rule' s) :
  Continues t t' v done (do if ← sees k then rule else rule') s
  := by
  rcases s with _ | ⟨w, s⟩
  · have absent : ¬ decide (Kind.newline = k) = true := by simpa using other.symm
    apply congr _ _ no
    · intro site
      rw [List.nil_append, sees_bind_cons, seam.line, if_neg absent]
    · intro site
      rw [List.nil_append, sees_bind_cons, seam.same, seam.line, if_neg absent]
  · by_cases found : w.token.kind = k
    · have present : decide (w.token.kind = k) = true := decide_eq_true found
      apply congr _ _ (yes w s rfl found)
      · intro site
        rw [List.cons_append, sees_bind_cons, if_pos present]
      · intro site
        rw [List.cons_append, sees_bind_cons, if_pos present]
    · have absent : ¬ decide (w.token.kind = k) = true := by simpa using found
      apply congr _ _ no
      · intro site
        rw [List.cons_append, sees_bind_cons, if_neg absent]
      · intro site
        rw [List.cons_append, sees_bind_cons, if_neg absent]

include seam in
theorem expect {k : Kind} (other : k ≠ .newline) (others : KindSet) :
  Inner t t' v (expect k others)
  := by
  intro s
  apply sees_ite seam other
  · rintro w s' rfl -
    exact fun finish finish' depth => .inr (.inl ⟨some w.token.text, s', _, rfl, rfl⟩)
  · apply fail seam _ s

include seam in
theorem expect_bind {k : Kind} (other : k ≠ .newline) (others : KindSet) {next : String → Rule α}
    (h : ∀ text s', Continues t t' v done (next text) s') (s : List Word) :
  Continues t t' v done (Rule.expect k others >>= next) s
  := bind (expect seam other others s) h

theorem deeper {rule : Rule α} (h : Continues t t' v done rule s) :
  Continues t t' v done (deeper rule) s
  := fun finish finish' depth => h finish finish' (depth + 1)

theorem attempt {rule : Rule α} (h : Continues t t' v done rule s) :
  Continues t t' v (fun a => ∃ b, a = some b ∧ done b) (attempt rule) s
  := by
  intro finish finish' depth
  rcases h finish finish' depth with truncated | ⟨value, s', failures, run, run'⟩
    | ⟨a, failures, settled, run, run'⟩
  · exact .inl truncated
  · exact .inr (.inl ⟨some value, s', failures, by simp [Rule.attempt, run],
      by simp [Rule.attempt, run']⟩)
  · exact .inr (.inr ⟨some a, failures, ⟨a, rfl, settled⟩, by simp [Rule.attempt, run],
      by simp [Rule.attempt, run']⟩)

/-- A repetition. If one of its rounds reads the whole piece, the repetition must find that the
document ends too early. The induction is on the words that are left. -/
theorem many {round : Rule (Round α)} (advances : Advances round) {Q : Round α → Prop}
    (h : ∀ s, Continues t t' v Q round s)
    (truncated : ∀ r, Q r → r ≠ .stop ∧ ∀ site, Truncated (many round site []).failures)
    (s : List Word) :
  Continues t t' v (fun _ => False) (Rule.many round) s
  := by
  induction length : s.length using Nat.strongRecOn generalizing s with
  | _ length' ih =>
    subst length
    rw [many_eq advances]
    apply bind_at (h s)
    · intro r s' site found rest
      have shorter := advances site (s ++ [t])
      unfold AdvancesAt at shorter
      rw [found, rest] at shorter
      rcases r with a | _ | _
      · have tail := ih s'.length (by simpa using shorter) s' rfl
        exact .bind tail fun as s'' => .pure (a :: as) s''
      · apply ih s'.length (by simpa using shorter) s' rfl
      · exact .pure [] s'
    · intro r read
      obtain ⟨more, missing⟩ := truncated r read
      rcases r with a | _ | _
      · exact .inl fun site => (missing site).bind
      · exact .inl missing
      · apply absurd rfl more

end Continues

end PlanetServer.Rule

namespace PlanetServer.Parse

open Rule

section

variable {t t' : Word} {v : List Word} (seam : Seam t t' v)

/-! ### Expressions -/

section

include seam

theorem following_inner {α : Type} {item : Rule α} (built : Built item) (h : Inner t t' v item)
    {divider : Kind} (other : divider ≠ .newline) :
  Inner t t' v (following divider item)
  := by
  apply Continues.many (following_advances built divider) (Q := fun _ => False) _ nofun
  intro s
  apply Continues.sees_ite seam other
  · rintro w s' rfl -
    exact .advance_bind (.bind (h s') fun _ s'' => .pure _ s'')
  · exact .pure _ s

variable {operand : Rule Expr} (built : Built operand) (h : Inner t t' v operand)

include built h

theorem layer_inner (n : Nat) :
  Inner t t' v (layer operand n)
  := by
  induction n with
  | zero => apply h
  | succ n ih =>
    intro s
    rw [layer_succ]
    apply Continues.bind (ih s)
    intro lhs s
    apply Continues.bind _ fun tails s => .pure _ s
    apply Continues.many (tail_advances (layer_built built n) _) (Q := fun _ => False) _ nofun
    rintro (_ | ⟨w, s⟩)
    · apply Continues.peek_nil seam
      dsimp only
      rw [if_neg (by simp [Kind.rank?])]
      exact .pure _ []
    · apply Continues.peek_cons
      dsimp only
      split
      · exact .advance_bind (.bind (ih s) fun rhs s' => .pure _ s')
      · exact .pure _ (w :: s)

theorem exprOf_inner :
  Inner t t' v (exprOf operand)
  := layer_inner seam built h 6

theorem arguments_inner :
  Inner t t' v (arguments operand)
  := by
  have inner := exprOf_inner seam built h
  intro s
  apply Continues.sees_ite seam (by decide)
  · rintro w s' rfl -
    exact .advance_bind (.pure _ s')
  · apply Continues.bind (inner s)
    intro head s
    apply Continues.bind (following_inner seam (exprOf_built built) inner (by decide) s)
    intro tail s
    exact .expect_bind seam (by decide) _ (fun _ s => .pure _ s) s

theorem primary_inner :
  Inner t t' v (primary operand)
  := by
  rintro (_ | ⟨w, s⟩)
  · exact .peek_nil seam (.fail seam _ [])
  · apply Continues.peek_cons
    split
    · exact .take_bind (.pure _ s)
    · exact .take_bind (.pure _ s)
    · exact .take_bind (.pure _ s)
    · exact .advance_bind (.pure _ s)
    · exact .advance_bind (.pure _ s)
    · apply Continues.advance_bind
      apply Continues.bind (exprOf_inner seam built h s)
      intro inner s
      exact .expect_bind seam (by decide) _ (fun _ s => .pure _ s) s
    · exact .fail seam _ (w :: s)

theorem suffixed_inner :
  Inner t t' v (suffixed operand)
  := by
  intro s
  apply Continues.bind (primary_inner seam built h s)
  intro head s
  apply Continues.bind _ fun suffixes s => .pure _ s
  apply Continues.many (suffix_advances built) (Q := fun _ => False) _ nofun
  rintro (_ | ⟨w, s⟩)
  · exact .peek_nil seam (.pure _ [])
  · apply Continues.peek_cons
    split
    · exact .advance_bind (.bind (arguments_inner seam built h s) fun _ s => .pure _ s)
    · exact .advance_bind (.expect_bind seam (by decide) _ (fun _ s => .pure _ s) s)
    · exact .pure _ (w :: s)

end

include seam

theorem unary_inner (n : Nat) :
  Inner t t' v (unary n)
  := by
  induction n with
  | zero => exact fun s => .fail seam _ s
  | succ n ih =>
    have plain := suffixed_inner seam (unary_built n) ih
    rintro (_ | ⟨w, s⟩)
    · exact .deeper (.peek_nil seam (plain []))
    · apply Continues.deeper
      apply Continues.peek_cons
      split
      · exact .advance_bind (.bind (ih s) fun _ s => .pure _ s)
      · exact .advance_bind (.bind (ih s) fun _ s => .pure _ s)
      · apply plain (w :: s)

theorem expr_inner (n : Nat) :
  Inner t t' v (expr n)
  := exprOf_inner seam (unary_built n) (unary_inner seam n)

/-! ### Ends of statements -/

theorem terminator_continues (others : KindSet) (s : List Word) :
  Continues t t' v (fun _ => True) (terminator others) s
  := by
  rcases s with _ | ⟨w, s⟩
  · exact .peek_nil seam (.advance seam [])
  · apply Continues.peek_cons
    split
    · exact .advance seam (w :: s)
    · exact .advance seam (w :: s)
    · exact .pure _ (w :: s)
    · exact .pure _ (w :: s)
    · exact .fail seam _ (w :: s)

theorem ended_continues (others : KindSet) (stmt : Stmt) (s : List Word) :
  Continues t t' v (fun _ => True) (do
    terminator others
    return stmt) s
  := .map (fun _ => stmt) (terminator_continues seam others s) fun _ => trivial

theorem exprEnded_continues {expr : Rule Expr} (h : Inner t t' v expr) (others : KindSet)
    (stmt : Expr → Stmt) (s : List Word) :
  Continues t t' v (fun _ => True) (do
    let e ← expr
    terminator others
    return stmt e) s
  := .bind (h s) fun e s => ended_continues seam others (stmt e) s

/-- A rule that skips the rest of a statement may read the line end. -/
theorem synchronize_continues (s : List Word) :
  Continues t t' v (fun _ => True) synchronize s
  := by
  apply Continues.bind
  · apply Continues.many skipWord_advances (Q := fun _ => False) _ nofun
    rintro (_ | ⟨w, s⟩)
    · exact .peek_nil seam (.pure _ [])
    · apply Continues.peek_cons
      split
      · exact .pure _ (w :: s)
      · exact .pure _ (w :: s)
      · exact .pure _ (w :: s)
      · exact .pure _ (w :: s)
      · exact .advance_bind (.pure _ s)
  · rintro _ (_ | ⟨w, s⟩)
    · exact .peek_nil seam (.advance seam [])
    · apply Continues.peek_cons
      split
      · exact .advance seam (w :: s)
      · exact .advance seam (w :: s)
      · exact .pure _ (w :: s)

/-! ### Statements -/

section

variable {expr : Rule Expr} (hexpr : Inner t t' v expr) (w : Word) (s : List Word)

include hexpr

theorem varDecl_continues :
  Continues t t' v (fun _ => True) (varDecl expr) (w :: s)
  := by
  apply Continues.advance_bind
  apply Continues.expect_bind seam (by decide)
  intro name s
  apply Continues.sees_ite seam (by decide)
  · rintro w s' rfl -
    exact .advance_bind (exprEnded_continues seam hexpr _ _ s')
  · apply ended_continues seam _ _ s

theorem returnStmt_continues :
  Continues t t' v (fun _ => True) (returnStmt expr) (w :: s)
  := by
  apply Continues.advance_bind
  rcases s with _ | ⟨w, s⟩
  · apply Continues.peek_nil seam
    rw [if_neg (by decide)]
    apply ended_continues seam _ _ []
  · apply Continues.peek_cons
    split
    · apply exprEnded_continues seam hexpr _ _ (w :: s)
    · apply ended_continues seam _ _ (w :: s)

end

theorem importStmt_continues (w : Word) (s : List Word) :
  Continues t t' v (fun _ => True) importStmt (w :: s)
  := by
  have name : Inner t t' v (expect .identifier .empty) := .expect seam (by decide) _
  apply Continues.advance_bind
  apply Continues.bind (name s)
  intro head s
  apply Continues.bind (following_inner seam (.expect _ _) name (by decide) s)
  intro tail s
  apply ended_continues seam _ _ s

theorem parameters_inner :
  Inner t t' v parameters
  := by
  have name : Inner t t' v (expect .identifier .empty) := .expect seam (by decide) _
  intro s
  apply Continues.sees_ite seam (by decide)
  · rintro w s' rfl -
    apply Continues.take_bind
    apply Continues.bind (following_inner seam (.expect _ _) name (by decide) s')
    intro tail s
    exact .expect_bind seam (by decide) _ (fun _ s => .pure _ s) s
  · exact .expect_bind seam (by decide) _ (fun _ s => .pure _ s) s

variable {statement : Rule Stmt} (built : Built statement)
  (consumes : ∀ site ahead, ConsumesAt statement site ahead)
  (h : ∀ s, Continues t t' v (fun _ => True) statement s)

section

include h

theorem recovered_continues (s : List Word) :
  Continues t t' v (fun r => r ≠ .stop) (recovered statement) s
  := by
  apply Continues.bind_of_blind (h s).attempt
  · rintro (_ | stmt) s
    · exact .map _ (synchronize_continues seam s) fun _ => nofun
    · exact .pure _ s
  · rintro _ ⟨stmt, rfl, -⟩
    exact ⟨.item stmt, nofun, rfl⟩

include built consumes

/-- A block never reads the line end for good: after it the closing brace is missing. -/
theorem block_inner (others : KindSet) :
  Inner t t' v (block statement others)
  := by
  have advances := blockRound_advances built consumes
  apply Continues.expect_bind seam (by decide)
  intro _
  apply Continues.many advances (Q := fun r => r ≠ .stop)
  · rintro (_ | ⟨w, s⟩)
    · exact .peek_nil seam (.map _ (.advance seam []) fun _ => nofun)
    · apply Continues.peek_cons
      split
      · exact .advance_bind (.pure _ s)
      · exact .advance_bind (.pure _ s)
      · exact .fail seam _ (w :: s)
      · apply recovered_continues seam h (w :: s)
  · refine fun r more => ⟨more, fun site => ?_⟩
    rw [many_eq advances]
    apply Truncated.bind
    exact ⟨_, List.mem_singleton.mpr rfl, rfl⟩

theorem defDecl_continues (w : Word) (s : List Word) :
  Continues t t' v (fun _ => True) (defDecl statement) (w :: s)
  := by
  apply Continues.advance_bind
  apply Continues.expect_bind seam (by decide)
  intro name
  apply Continues.expect_bind seam (by decide)
  intro _ s
  apply Continues.bind (parameters_inner seam s)
  intro params s
  exact .bind (block_inner seam built consumes h _ s) fun _ s => .pure _ s

theorem whileStmt_continues {expr : Rule Expr} (hexpr : Inner t t' v expr) (w : Word)
    (s : List Word) :
  Continues t t' v (fun _ => True) (whileStmt expr statement) (w :: s)
  := by
  apply Continues.advance_bind
  apply Continues.bind (hexpr s)
  intro condition s
  exact .bind (block_inner seam built consumes h _ s) fun _ s => .pure _ s

/-- An `else` after the line end would stand in the second piece, and there is none. -/
theorem elseBranch_continues (s : List Word) :
  Continues t t' v (fun _ => True) (elseBranch statement) s
  := by
  have decided : hasElse (s ++ [t]) = hasElse s ∧ hasElse (s ++ t' :: v) = hasElse s := by
    by_cases other : ∃ w ∈ s, w.token.kind ≠ .newline
    · exact ⟨hasElse_append other _, hasElse_append other _⟩
    · have blank : ∀ w ∈ s, w.token.kind = .newline := by simpa using other
      have none : hasElse s = false := by
        rw [← List.append_nil s, hasElse_lines blank]
        rfl
      have line' : t'.token.kind = .newline := by rw [seam.same, seam.line]
      rw [hasElse_lines blank, hasElse_lines blank, hasElse_newline seam.line, hasElse_newline line',
        seam.noElse, none]
      exact ⟨rfl, rfl⟩
  obtain ⟨first, second⟩ := decided
  cases found : hasElse s with
  | false =>
    apply Continues.congr _ _ (.pure none s)
    · exact fun site => elseAhead_run_false (first.trans found)
    · exact fun site => elseAhead_run_false (second.trans found)
  | true =>
    apply Continues.congr (fun site => elseAhead_run_true (first.trans found))
      (fun site => elseAhead_run_true (second.trans found))
    obtain ⟨lines, e, s, rfl, blank, else'⟩ := (hasElse_iff s).mp found
    have skips : ∀ site rest, many skipNewline site (lines ++ e :: rest)
        = ⟨some [], e :: rest, lexical lines⟩ := by
      intro site rest
      apply (skipNewlines_reads blank (by simp [else'])).run_eq skipNewlines_built rfl
    apply Continues.bind_of_run (e :: s) (fun site => by simpa using skips site (s ++ [t]))
      (fun site => by simpa using skips site (s ++ t' :: v))
    apply Continues.advance_bind
    apply Continues.sees_ite seam (by decide)
    · rintro i s rfl -
      exact .map _ (h (i :: s)) fun _ => trivial
    · exact .bind (block_inner seam built consumes h _ s) fun _ s => .pure _ s

theorem ifStmt_continues {expr : Rule Expr} (hexpr : Inner t t' v expr) (w : Word) (s : List Word) :
  Continues t t' v (fun _ => True) (ifStmt expr statement) (w :: s)
  := by
  apply Continues.advance_bind
  apply Continues.bind (hexpr s)
  intro condition s
  apply Continues.bind (block_inner seam built consumes h _ s)
  intro thenBranch s
  exact .map _ (elseBranch_continues seam built consumes h s) fun _ => trivial

theorem statementOf_continues {expr : Rule Expr} (hexpr : Inner t t' v expr) (s : List Word) :
  Continues t t' v (fun _ => True) (statementOf expr statement) s
  := by
  rcases s with _ | ⟨w, s⟩
  · apply Continues.peek_nil seam
    exact .fail seam .noViable []
  apply Continues.peek_cons
  split
  · apply varDecl_continues seam hexpr w s
  · apply defDecl_continues seam built consumes h w s
  · apply ifStmt_continues seam built consumes h hexpr w s
  · apply whileStmt_continues seam built consumes h hexpr w s
  · apply returnStmt_continues seam hexpr w s
  · apply importStmt_continues seam w s
  · exact .advance_bind (exprEnded_continues seam hexpr _ _ s)
  · apply Continues.lookahead_bind
    · rcases s with _ | ⟨w', s⟩
      · simp [seam.same]
      · rfl
    · split
      · rename_i assigns
        rcases s with _ | ⟨eq, s⟩
        · simp [seam.line] at assigns
        · exact .take_bind (.advance_bind (exprEnded_continues seam hexpr _ _ s))
      · split
        · apply exprEnded_continues seam hexpr _ _ (w :: s)
        · exact .fail seam _ (w :: s)
  · exact .fail seam _ (w :: s)

end

theorem statement_continues (n : Nat) (s : List Word) :
  Continues t t' v (fun _ => True) (Parse.statement n) s
  := by
  induction n generalizing s with
  | zero => exact .fail seam _ s
  | succ n ih =>
    apply Continues.deeper
    apply statementOf_continues seam (statement_built n) (statement_consumes n) ih
      (expr_inner seam n) s

end

/-! ### Documents -/

/-- The rule does not give up here, and `P` holds of its answer. -/
def AnswersAt {α : Type} (P : α → Prop) (rule : Rule α) (site : Site) (ahead : List Word) : Prop :=
  ∃ a, (rule site ahead).value = some a ∧ P a

theorem AnswersAt.peek_cons {α : Type} {P : α → Prop} {next : Option Kind → Rule α} {site : Site}
    {w : Word} {ahead : List Word} (h : AnswersAt P (next (some w.token.kind)) site (w :: ahead)) :
  AnswersAt P (peek >>= next) site (w :: ahead)
  := h

/-- The rule never gives up, and `P` holds of its answers. -/
def Answers {α : Type} (P : α → Prop) (rule : Rule α) : Prop :=
  ∀ site ahead, AnswersAt P rule site ahead

namespace Answers

variable {α β : Type} {P : α → Prop} {Q : β → Prop}

theorem pure {a : α} (h : P a) :
  Answers P (pure a)
  := fun _ _ => ⟨a, rfl, h⟩

theorem bind {rule : Rule β} {next : β → Rule α} (h : Answers Q rule)
    (h' : ∀ b, Q b → Answers P (next b)) :
  Answers P (rule >>= next)
  := by
  intro site ahead
  obtain ⟨b, found, q⟩ := h site ahead
  obtain ⟨a, found', p⟩ := h' b q site (rule site ahead).rest
  refine ⟨a, ?_, p⟩
  rw [bind_of_some found]
  apply found'

theorem peek : Answers (fun _ => True) peek := fun _ _ => ⟨_, rfl, trivial⟩

theorem advance : Answers (fun _ => True) advance := by
  rintro site (_ | ⟨w, ahead⟩)
  · exact ⟨(), rfl, trivial⟩
  · exact ⟨(), rfl, trivial⟩

theorem report (cause : Cause) : Answers (fun _ => True) (report cause) := fun _ _ => ⟨_, rfl, trivial⟩

theorem attempt (rule : Rule α) : Answers (fun _ => True) (attempt rule) := fun _ _ => ⟨_, rfl, trivial⟩

theorem many {round : Rule (Round α)} (advances : Advances round)
    (h : Answers (fun _ => True) round) :
  Answers (fun _ => True) (many round)
  := by
  intro site ahead
  apply many_induct advances site (P := fun _ reply => ∃ as, reply.value = some as ∧ True)
  · intro ahead none
    obtain ⟨r, found, -⟩ := h site ahead
    simp [none] at found
  · exact fun _ _ => ⟨[], rfl, trivial⟩
  · exact fun _ _ _ _ rest => rest
  · rintro ahead reply a - - ⟨as, found, -⟩
    exact ⟨a :: as, by simp [found], trivial⟩

end Answers

theorem synchronize_answers : Answers (fun _ => True) synchronize := by
  apply Answers.bind (Answers.many skipWord_advances _)
  · intro _ _
    apply Answers.bind .peek
    intro k _
    split
    · exact .advance
    · exact .advance
    · exact .pure trivial
  · apply Answers.bind .peek
    intro k _
    split
    · exact .pure trivial
    · exact .pure trivial
    · exact .pure trivial
    · exact .pure trivial
    · exact .bind .advance fun _ _ => .pure trivial

theorem recovered_answers (statement : Rule Stmt) :
  Answers (fun r => r ≠ .stop) (recovered statement)
  := by
  apply Answers.bind (.attempt statement)
  rintro (_ | s) _
  · exact .bind synchronize_answers fun _ _ => .pure nofun
  · exact .pure nofun

/-- A round of a document that is not at its end is not the last one. -/
theorem programRound_answersAt (statement : Rule Stmt) (site : Site) (w : Word) (ahead : List Word) :
  AnswersAt (fun r => r ≠ .stop) (programRound statement) site (w :: ahead)
  := by
  have skips : Answers (fun r : Round Stmt => r ≠ .stop) (do
      advance
      return .skip) := .bind .advance fun _ _ => .pure (by simp)
  apply AnswersAt.peek_cons
  split
  · apply skips
  · apply Answers.bind (.report _) fun _ _ => skips
  · simp_all
  · apply recovered_answers statement

theorem program_answers (n : Nat) :
  Answers (fun _ => True) (program n)
  := by
  apply Answers.many (programRound_advances n)
  rintro site (_ | ⟨w, ahead⟩)
  · exact ⟨.stop, rfl, trivial⟩
  · obtain ⟨r, found, -⟩ := programRound_answersAt (statement n) site w ahead
    exact ⟨r, found, trivial⟩

section

variable {t t' : Word} {v : List Word} (seam : Seam t t' v)

include seam

theorem programRound_continues (n : Nat) (s : List Word) :
  Continues t t' v (fun r => r ≠ .stop) (programRound (statement n)) s
  := by
  rcases s with _ | ⟨w, s⟩
  · exact .peek_nil seam (.map _ (.advance seam []) fun _ => nofun)
  · apply Continues.peek_cons
    split
    · exact .advance_bind (.pure _ s)
    · exact .bind (.report seam _ (w :: s)) fun _ s => .map _ (.advance seam s) fun _ => nofun
    · exact .pure _ (w :: s)
    · apply recovered_continues seam (statement_continues seam n) (w :: s)

/-- A document of two pieces is read as the first piece, and then as the second one. -/
theorem program_continues (n : Nat) (s : List Word) (finish finish' : Mark) (depth : Nat) :
  Truncated (program n ⟨finish, depth⟩ (s ++ [t])).failures
    ∨ ∃ ss failures, program n ⟨finish, depth⟩ (s ++ [t]) = ⟨some ss, [], failures⟩
      ∧ program n ⟨finish', depth⟩ (s ++ t' :: v)
        = ⟨(program n ⟨finish', depth⟩ v).value.map (ss ++ ·), (program n ⟨finish', depth⟩ v).rest,
          failures ++ (unreadable t'.trail ++ (program n ⟨finish', depth⟩ v).failures)⟩
  := by
  induction length : s.length using Nat.strongRecOn generalizing s with
  | _ length' ih =>
    subst length
    have advances := programRound_advances n
    have answers : AnswersAt (fun r => r ≠ .stop) (programRound (statement n)) ⟨finish, depth⟩
        (s ++ [t]) := by
      cases s with
      | nil => apply programRound_answersAt _ _ t []
      | cons w s => apply programRound_answersAt _ _ w (s ++ [t])
    obtain ⟨r, found, more⟩ := answers
    rcases programRound_continues seam n s finish finish' depth with truncated
      | ⟨value, s', failures, run, run'⟩ | ⟨r', failures, -, run, run'⟩
    · left
      rw [program, many_eq advances]
      apply truncated.bind
    · obtain rfl : value = some r := by rw [run] at found; exact found
      have shorter := advances ⟨finish, depth⟩ (s ++ [t])
      unfold AdvancesAt at shorter
      rw [run] at shorter
      have tail := ih s'.length (by simpa [more] using shorter) s' rfl
      rcases r with a | _ | _
      · rw [program, many_of_item advances run, many_of_item advances run']
        rcases tail with ⟨f, member, missing⟩ | ⟨ss, failures', rest, rest'⟩
        · exact .inl ⟨f, List.mem_append_right _ member, missing⟩
        · rw [program] at rest rest'
          rw [rest, rest']
          refine .inr ⟨a :: ss, failures ++ failures', rfl, ?_⟩
          simp [Function.comp_def]
      · rw [program, many_of_skip advances run, many_of_skip advances run']
        rcases tail with ⟨f, member, missing⟩ | ⟨ss, failures', rest, rest'⟩
        · exact .inl ⟨f, List.mem_append_right _ member, missing⟩
        · rw [program] at rest rest'
          rw [rest, rest']
          refine .inr ⟨ss, failures ++ failures', rfl, ?_⟩
          simp
      · apply absurd rfl more
    · obtain rfl : r' = r := by rw [run] at found; exact Option.some.inj found
      have ended : many (programRound (statement n)) ⟨finish, depth⟩ [] = ⟨some [], [], []⟩ := rfl
      rcases r' with a | _ | _
      · rw [program, many_of_item advances run, many_of_item advances run', ended]
        refine .inr ⟨[a], failures, by simp, ?_⟩
        simp
      · rw [program, many_of_skip advances run, many_of_skip advances run', ended]
        refine .inr ⟨[], failures, by simp, ?_⟩
        simp
      · apply absurd rfl more

end

end PlanetServer.Parse
