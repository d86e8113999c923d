import PlanetServer.Proofs.Rule.Gap
import PlanetServer.Proofs.Rule.SourceOrder

/-!
# Putting in what was expected

If a failure names kinds, a document with a word of one of these kinds put in before the token at fault is
read past that word, and what was reported before the failure is reported as before.
-/

namespace PlanetServer.Parse

open Rule Gap Grammar Word

variable {g : Gap} {w : Word} {s : List Word} {depth : Nat}

/-! ### What cannot do without a word -/

theorem primary_opens {operand : Rule Expr} (built : Built operand) (site : Site) (ahead : List Word) :
  Opens (primary operand) site ahead
  := by
  cases ahead with
  | nil => exact Opens.fail (by simp) site []
  | cons w ahead =>
    apply Opens.peek_cons
    split
    · exact .take_bind (fun _ => .pure _) site w ahead
    · exact .take_bind (fun _ => .pure _) site w ahead
    · exact .take_bind (fun _ => .pure _) site w ahead
    · exact .advance_bind (fun _ => .pure _) site w ahead
    · exact .advance_bind (fun _ => .pure _) site w ahead
    · exact .advance_bind (fun _ => .bind (exprOf_built built) fun _ => .bind (.expect _ _) fun _ =>
        .pure _) site w ahead
    · exact .fail (by simp) site _

theorem unary_opens (n : Nat) (site : Site) (ahead : List Word) :
  Opens (unary n) site ahead
  := by
  have plain : ∀ n site, Opens (suffixed (unary n)) site ahead := fun n site =>
    .bind (fun _ => .bind (suffixes_built (unary_built n)) fun _ => .pure _)
      (primary_opens (unary_built n) site ahead)
  cases n with
  | zero => exact .fail (by simp) site ahead
  | succ n =>
    cases ahead with
    | nil => apply plain n ⟨site.finish, site.depth + 1⟩
    | cons w ahead =>
      change Opens _ ⟨site.finish, site.depth + 1⟩ (w :: ahead)
      apply Opens.peek_cons
      split
      · exact .advance_bind (fun _ => .bind (unary_built n) fun _ => .pure _) _ w ahead
      · exact .advance_bind (fun _ => .bind (unary_built n) fun _ => .pure _) _ w ahead
      · apply plain

theorem layer_opens {operand : Rule Expr} (built : Built operand) {site : Site} {ahead : List Word}
    (h : Opens operand site ahead) (n : Nat) :
  Opens (layer operand n) site ahead
  := by
  induction n with
  | zero => apply h
  | succ n ih =>
    rw [layer_succ]
    exact .bind (fun _ => .bind (tails_built (layer_built built n) _) fun _ => .pure _) ih

theorem expr_opens (n : Nat) (site : Site) (ahead : List Word) :
  Opens (expr n) site ahead
  := layer_opens (unary_built n) (unary_opens n site ahead) 6

/-- If a level is left, an operand takes every word that an expression can start with. -/
theorem unary_uses (start : exprStart.contains w.token.kind) (n : Nat) :
  Uses (unary (n + 1)) w
  := by
  have all : ∀ k : Kind, exprStart.contains k → k ≠ .minus → k ≠ .bang → k = .number ∨ k = .string
      ∨ k = .identifier ∨ k = .kwTrue ∨ k = .kwFalse ∨ k = .leftParen := by decide
  apply Uses.deeper
  apply Uses.peek_bind
  split
  · exact .advance_bind fun _ => .bind (unary_built n) fun _ => .pure _
  · exact .advance_bind fun _ => .bind (unary_built n) fun _ => .pure _
  · apply Uses.bind fun _ => .bind (suffixes_built (unary_built n)) fun _ => .pure _
    apply Uses.peek_bind
    split
    · exact .take_bind fun _ => .pure _
    · exact .take_bind fun _ => .pure _
    · exact .take_bind fun _ => .pure _
    · exact .advance_bind fun _ => .pure _
    · exact .advance_bind fun _ => .pure _
    · exact .advance_bind fun _ => .bind (exprOf_built (unary_built n)) fun _ => .bind (.expect _ _)
        fun _ => .pure _
    · have kinds := all w.token.kind start (by simp_all) (by simp_all)
      simp_all

theorem expr_uses (start : exprStart.contains w.token.kind) (n : Nat) :
  Uses (expr (n + 1)) w
  := by
  have layers : ∀ m, Uses (layer (unary (n + 1)) m) w := by
    intro m
    induction m with
    | zero => apply unary_uses start
    | succ m ih =>
      rw [layer_succ]
      exact .bind (fun _ => .bind (tails_built (layer_built (unary_built _) m) _) fun _ => .pure _) ih
  apply layers 6

/-! ### Expressions -/

section

variable {operand : Rule Expr} (built : Built operand)
  (h : ∀ s, g.Compares Strict (fun _ => Past 0 (some g.kind)) operand depth s)

include built h

theorem layer_compares (n : Nat) (s : List Word) :
  g.Compares Strict (fun _ => Past n (some g.kind)) (layer operand n) depth s
  := by
  induction n generalizing s with
  | zero => apply h
  | succ n ih =>
    have tails : ∀ s, (s = [] → Past n (some g.kind)) →
        g.Compares Strict (fun _ => Past (n + 1) (some g.kind))
          (many (tail (6 - n) (layer operand n))) depth s := by
      intro s start
      have builtTail := tail_built (layer_built built n) (6 - n)
      apply Compares.many (tail_advances (layer_built built n) _) builtTail _ start
      intro s start
      apply Compares.choice (pure .stop) (fun k => k.rank? = some (6 - n))
      · rintro site (_ | ⟨w, ahead⟩) other
        · rfl
        · rw [tail, peek_bind_cons]
          exact congrArg (fun rule : Rule (Round (Kind × Expr)) => rule site (w :: ahead))
            (if_neg (other w rfl))
      · exact builtTail
      · intro w rank
        apply Uses.peek_bind
        dsimp only
        rw [if_pos rank]
        exact .advance_bind fun _ => .bind (layer_built built n) fun _ => .pure _
      · rintro w s' rfl rank
        apply Compares.peek_cons
        dsimp only
        rw [if_pos rank]
        exact .advance_bind (.map _ (ih s') fun _ past => past)
      · refine fun other => .pure fun here => (start here).succ ?_
        rintro _ ⟨⟩
        apply other here
    rw [layer_succ]
    refine .bind (fun _ => .bind (tails_built (layer_built built n) _) fun _ => .pure _) (ih s) ?_
    intro lhs s' _ after
    exact .map _ (tails s' after) fun _ holds => holds

theorem arguments_compares (s : List Word) :
  g.Compares Strict (fun _ => True) (arguments operand) depth s
  := by
  have inner := layer_compares built h 6
  have builtExpr := exprOf_built built
  have builtMore := following_built builtExpr .comma
  apply Compares.sees_ite (fun _ _ => .advance_bind fun _ => .pure _)
    (.bind .advance fun _ => .pure _)
    (.bind builtExpr fun _ => .bind builtMore fun _ => .bind (.expect _ _) fun _ => .pure _)
  · exact fun w s' _ _ => .advance_bind (.pure fun _ => trivial)
  · intro _
    refine .bind (fun _ => .bind builtMore fun _ => .bind (.expect _ _) fun _ => .pure _) (inner s) ?_
    intro head s' _ past
    refine .bind (fun _ => .bind (.expect _ _) fun _ => .pure _) (.following builtExpr inner past) ?_
    intro tail s'' _ past'
    refine .expect_bind (fun _ => .pure _) ?_ fun _ _ _ => .pure fun _ => trivial
    intro here
    obtain ⟨past, other⟩ := past' here
    rw [KindSet.contains_insert, contains_exprContinuation past, decide_eq_false other]
    rfl

theorem primary_compares (s : List Word) :
  g.Compares Strict (fun _ => True) (primary operand) depth s
  := by
  cases s with
  | nil => exact .of_opens fun site => primary_opens built site g.old
  | cons w s =>
    apply Compares.peek_cons
    split
    · exact .take_bind (.pure fun _ => trivial)
    · exact .take_bind (.pure fun _ => trivial)
    · exact .take_bind (.pure fun _ => trivial)
    · exact .advance_bind (.pure fun _ => trivial)
    · exact .advance_bind (.pure fun _ => trivial)
    · apply Compares.advance_bind
      refine .bind (fun _ => .bind (.expect _ _) fun _ => .pure _) (layer_compares built h 6 s) ?_
      intro inner s' _ past
      refine .expect_bind (fun _ => .pure _) ?_ fun _ _ _ => .pure fun _ => trivial
      exact fun here => contains_exprContinuation (past here)
    · apply Compares.fail_cons

theorem suffixed_compares (s : List Word) :
  g.Compares Strict (fun _ => Past 0 (some g.kind)) (suffixed operand) depth s
  := by
  have builtSuffix := suffix_built built
  have suffixes : ∀ s,
      g.Compares Strict (fun _ => Past 0 (some g.kind)) (many (suffix operand)) depth s := by
    intro s
    apply Compares.many (suffix_advances built) builtSuffix (Q := True) _ fun _ => trivial
    intro s _
    apply Compares.choice (pure .stop) (fun k => k = .leftParen ∨ k = .dot)
    · rintro site (_ | ⟨w, ahead⟩) other
      · rfl
      · obtain ⟨paren, dot⟩ := not_or.mp (other w rfl)
        rw [suffix, peek_bind_cons]
        apply congrArg fun rule : Rule (Round Suffix) => rule site (w :: ahead)
        split
        · simp_all
        · simp_all
        · rfl
    · exact builtSuffix
    · rintro w (paren | dot)
      · apply Uses.peek_bind
        rw [paren]
        exact .advance_bind fun _ => .bind (arguments_built built) fun _ => .pure _
      · apply Uses.peek_bind
        rw [dot]
        exact .advance_bind fun _ => .bind (.expect _ _) fun _ => .pure _
    · rintro w s' rfl (paren | dot)
      · apply Compares.peek_cons
        rw [paren]
        exact .advance_bind (.map _ (arguments_compares built h s') fun _ _ => trivial)
      · apply Compares.peek_cons
        rw [dot]
        exact .advance_bind (.map _ (.expect fun _ => KindSet.contains_empty _) fun _ _ =>
          trivial)
    · intro other
      refine .pure fun here => ?_
      obtain ⟨paren, dot⟩ := not_or.mp (other here)
      exact .zero (fun same => paren (Option.some.inj same)) fun same => dot (Option.some.inj same)
  refine .bind (fun _ => .bind (suffixes_built built) fun _ => .pure _) (primary_compares built h s) ?_
  intro head s' _ _
  exact .map _ (suffixes s') fun _ past => past

end

theorem unary_compares (n : Nat) (s : List Word) :
  g.Compares Strict (fun _ => Past 0 (some g.kind)) (unary n) depth s
  := by
  induction n generalizing s depth with
  | zero =>
    cases s with
    | nil => exact .of_opens fun site => unary_opens 0 site g.old
    | cons w s => apply Compares.fail_cons
  | succ n ih =>
    cases s with
    | nil => exact .of_opens fun site => unary_opens (n + 1) site g.old
    | cons w s =>
      apply Compares.deeper
      apply Compares.peek_cons
      split
      · exact .advance_bind (.map _ (ih s) fun _ holds => holds)
      · exact .advance_bind (.map _ (ih s) fun _ holds => holds)
      · apply suffixed_compares (unary_built n) ih

theorem expr_compares (n : Nat) (s : List Word) :
  g.Compares Strict (fun _ => Past 6 (some g.kind)) (expr n) depth s
  := layer_compares (unary_built n) (unary_compares n) 6 s

/-! ### The end of a statement -/

/-- The end of a statement at the place: it ends there without a token of its own, or it has no use for
the new word. -/
theorem ended_declines {others : KindSet} (st : Stmt) (site : Site)
    (apart : (terminators.union others).contains g.kind → maxDepth ≤ site.depth) :
  (g.Final ∧ (do
      terminator others
      return st) site g.old = ⟨some st, g.old, []⟩)
    ∨ g.Declines ((do
      terminator others
      return st) site g.old)
  := by
  by_cases final : g.Final
  · refine .inl ⟨final, ?_⟩
    rw [bind_of_some (by rw [terminator_closed final]), terminator_closed final]
    rfl
  · refine .inr (.bind (fun _ => .pure _) ?_)
    obtain ⟨w, later, split, brace⟩ := not_final final
    cases ends : endsStatement w.token.kind with
    | true =>
      left
      rw [split, terminator_end ends]
      apply Takes.advance
    | false =>
      have run : terminator others site g.old = fail (.mismatch (terminators.union others)) site g.old := by
        rw [split, terminator_other ends brace]
      rw [run]
      apply declines_mismatch apart

theorem terminator_compares_cons (others : KindSet) :
  g.Compares Strict (fun _ => True) (terminator others) depth (w :: s)
  := by
  apply Compares.peek_cons
  split
  · apply Compares.advance
  · apply Compares.advance
  · exact .pure fun _ => trivial
  · exact .pure fun _ => trivial
  · apply Compares.fail_cons

theorem ended_compares {others : KindSet} (st : Stmt)
    (apart : s = [] → others.contains g.kind → maxDepth ≤ depth) :
  g.Compares g.Stalled (fun _ => True) (do
    terminator others
    return st) depth s
  := by
  cases s with
  | cons w s => exact .map (fun _ => st) (terminator_compares_cons others) fun _ _ => trivial
  | nil =>
    cases ends : endsStatement g.kind with
    | true =>
      apply Compares.of_uses (ended_built others st)
      apply Uses.bind fun _ => .pure _
      intro site ahead
      rw [terminator_end ends]
      apply Takes.advance
    | false =>
      intro finish finish'
      have none : terminators.contains g.kind = false := by
        have all : ∀ k : Kind, endsStatement k = false → terminators.contains k = false := by decide
        apply all g.kind ends
      have apart' : (terminators.union others).contains g.kind → maxDepth ≤ depth := by
        rw [KindSet.contains_union, none, Bool.false_or]
        apply apart rfl
      rcases ended_declines st ⟨finish, depth⟩ apart' with ⟨final, run⟩ | declines
      · rw [List.nil_append, run]
        by_cases brace : g.kind = .rightBrace
        · have closed : ∀ w ∈ (g.word :: g.new).head?, w.token.kind = .rightBrace := by
            rintro _ ⟨⟩
            exact brace
          rw [List.nil_append, bind_of_some (by rw [terminator_closed closed]), terminator_closed closed]
          exact .same (some st) [] [] rfl rfl (List.suffix_refl _) nofun fun _ => ⟨st, rfl, trivial⟩
        · exact .stalled nofun ⟨brace, .inl ⟨rfl, rfl, final⟩⟩
      · apply Compared.of_declines declines rfl rfl (List.forall_mem_nil _)

/-! ### Statements without blocks -/

theorem exprEnded_compares (n : Nat) (st : Expr → Stmt) (s : List Word) :
  g.Compares g.Stalled (fun _ => True) (do
    let value ← expr n
    terminator exprContinuation
    return st value) depth s
  := by
  refine .bind (fun _ => ended_built _ _) (expr_compares n s) fun value s' _ past => ?_
  apply ended_compares (st value)
  intro here among
  rw [contains_exprContinuation (past here)] at among
  cases among

theorem name_compares (s : List Word) :
  g.Compares Strict (fun _ => True) (expect .identifier .empty) depth s
  := .expect fun _ => KindSet.contains_empty _

theorem varDecl_compares (n : Nat) :
  g.Compares g.Stalled (fun _ => True) (varDecl (expr n)) depth (w :: s)
  := by
  have value : ∀ name, Built (do
      advance
      let value ← expr n
      terminator exprContinuation
      return Stmt.var name (some value)) :=
    fun _ => .bind .advance fun _ => .bind (expr_built n) fun _ => ended_built _ _
  apply Compares.advance_bind
  refine .bind (fun name => .bind (.sees _) fun _ => .ite (value name) (ended_built _ _)) (name_compares s)
    fun name s' _ _ => ?_
  apply Compares.sees_ite (fun _ _ => .advance_bind fun _ => .bind (expr_built n) fun _ => ended_built _ _)
    (value name) (ended_built _ _)
  · exact fun w s'' _ _ => .advance_bind (exprEnded_compares n (fun value => .var name (some value)) s'')
  · intro other
    apply ended_compares
    intro here among
    rw [KindSet.contains_single_of_ne (other here)] at among
    cases among

theorem names_built (divider : Kind) :
  Built (following divider (expect .identifier .empty))
  := following_built (.expect _ _) divider

theorem names_compares (divider : Kind) (s : List Word) :
  g.Compares Strict (fun _ => True ∧ g.kind ≠ divider) (following divider (expect .identifier .empty)) depth s
  := .following (.expect _ _) name_compares fun _ => trivial

theorem importStmt_compares :
  g.Compares g.Stalled (fun _ => True) importStmt depth (w :: s)
  := by
  apply Compares.advance_bind
  refine .bind (fun _ => .bind (names_built _) fun _ => ended_built _ _) (name_compares s)
    fun head s _ _ => ?_
  refine .bind (fun _ => ended_built _ _) (names_compares _ s) fun tail s _ past => ?_
  apply ended_compares
  intro here among
  rw [KindSet.contains_single_of_ne (past here).2] at among
  cases among

theorem parameters_compares (s : List Word) :
  g.Compares Strict (fun _ => True) parameters depth s
  := by
  have rest : ∀ head, Built (do
      let tail ← following .comma (expect .identifier .empty)
      let _ ← expect .rightParen (.ofList [.comma])
      return head :: tail) :=
    fun _ => .bind (names_built _) fun _ => .bind (.expect _ _) fun _ => .pure _
  apply Compares.sees_ite (fun _ _ => .take_bind rest) (.bind .take rest)
    (.bind (.expect _ _) fun _ => .pure _)
  · intro w s _ _
    apply Compares.take_bind
    refine .bind (fun _ => .bind (.expect _ _) fun _ => .pure _) (names_compares _ s)
      fun tail s _ past => ?_
    refine .expect_bind (fun _ => .pure _) (fun here => ?_) fun _ _ _ => .pure fun _ => trivial
    apply KindSet.contains_single_of_ne (past here).2
  · intro other
    refine .expect_bind (fun _ => .pure _) (fun here => ?_) fun _ _ _ => .pure fun _ => trivial
    apply KindSet.contains_single_of_ne (other here)

/-- What follows a `return`. -/
def result (n : Nat) : Rule Stmt := do
  if (← peek).any exprStart.contains then
    let value ← expr n
    terminator exprContinuation
    return .ret (some value)
  else
    terminator exprStart
    return .ret none

theorem result_built (n : Nat) :
  Built (result n)
  := .bind .peek fun _ => .ite (.bind (expr_built n) fun _ => ended_built _ _) (ended_built _ _)

theorem result_of_start (start : exprStart.contains w.token.kind) (n : Nat) (site : Site)
    (ahead : List Word) :
  result n site (w :: ahead) = (do
    let value ← expr n
    terminator exprContinuation
    return Stmt.ret (some value)) site (w :: ahead)
  := by
  rw [result, peek_bind_cons]
  exact congrArg (fun rule : Rule Stmt => rule site (w :: ahead)) (if_pos start)

theorem result_of_other (n : Nat) (site : Site) (ahead : List Word)
    (other : ∀ w ∈ ahead.head?, ¬ exprStart.contains w.token.kind) :
  result n site ahead = (do
    terminator exprStart
    return Stmt.ret none) site ahead
  := by
  cases ahead with
  | nil => rfl
  | cons w ahead =>
    rw [result, peek_bind_cons]
    exact congrArg (fun rule : Rule Stmt => rule site (w :: ahead)) (if_neg (other w rfl))

/-- If levels are left, a result that is put in at the place is read. If not, the failure there is at the
deepest level. -/
theorem result_compares (n : Nat) (levels : depth + n = maxDepth) (s : List Word) :
  g.Compares g.Stalled (fun _ => True) (result n) depth s
  := by
  have ended : ∀ value, Built (do
      terminator exprContinuation
      return Stmt.ret (some value)) := fun _ => ended_built _ _
  cases s with
  | cons w s =>
    apply Compares.choice_cons _ (fun k => exprStart.contains k) (result_of_other n)
    · intro start
      apply Compares.congr _ _ (exprEnded_compares n (fun value => .ret (some value)) (w :: s))
      · exact fun site => result_of_start start n site _
      · exact fun site => result_of_start start n site _
    · exact fun _ => ended_compares _ nofun
  | nil =>
    apply Compares.choice_nil _ (fun k => exprStart.contains k) (result_of_other n)
    · intro w later split start site
      have run := result_of_start start n site later
      rw [← split] at run
      exact declines_of_opens (.congr run (.bind ended (expr_opens n site g.old)))
    · intro start next
      cases n with
      | zero =>
        intro finish finish'
        have brace : g.kind ≠ .rightBrace := by
          intro same
          rw [same] at start
          cases start
        rw [List.nil_append, result_of_other 0 _ _ next]
        rcases ended_declines (.ret none) ⟨finish, depth⟩ (fun _ => levels.ge) with ⟨final, run⟩ | declines
        · rw [run]
          exact .stalled nofun ⟨brace, .inl ⟨rfl, rfl, final⟩⟩
        · apply Compared.of_declines declines rfl rfl (List.forall_mem_nil _)
      | succ n =>
        apply Compares.of_uses (result_built _)
        intro site ahead
        rw [result_of_start start]
        exact Uses.bind ended (expr_uses start n) site ahead
    · intro other
      apply ended_compares _ fun _ among => absurd among other

theorem returnStmt_compares (n : Nat) (levels : depth + n = maxDepth) :
  g.Compares g.Stalled (fun _ => True) (returnStmt (expr n)) depth (w :: s)
  := .advance_bind (result_compares n levels s)

/-! ### Recovery -/

theorem synchronize_uses (other : w.token.kind ≠ .rightBrace) :
  Uses synchronize w
  := by
  intro site ahead
  cases ends : endsStatement w.token.kind with
  | true =>
    rw [synchronize_end ends]
    apply Takes.advance site
  | false =>
    rw [synchronize_other ends other]
    apply Takes.after synchronize_built

theorem synchronize_closed {site : Site} {ahead : List Word}
    (last : ∀ w ∈ ahead.head?, w.token.kind = .rightBrace) :
  synchronize site ahead = ⟨some (), ahead, []⟩
  := by
  cases ahead with
  | nil => exact synchronize_nil
  | cons w ahead => exact synchronize_brace (last w rfl)

/-- The search for a place to go on from, at the place. -/
theorem synchronize_at (site : Site) :
  (g.Final ∧ synchronize site g.old = ⟨some (), g.old, []⟩) ∨ Takes g.old (synchronize site g.old)
  := by
  by_cases final : g.Final
  · exact .inl ⟨final, synchronize_closed final⟩
  · right
    obtain ⟨w, later, split, brace⟩ := not_final final
    rw [split]
    apply synchronize_uses brace

theorem synchronize_compares (s : List Word) :
  g.Compares Strict (fun _ => True) synchronize depth s
  := by
  induction s with
  | nil =>
    by_cases brace : g.kind = .rightBrace
    · intro finish finish'
      rcases synchronize_at ⟨finish, depth⟩ with ⟨-, run⟩ | taken
      · have closed : ∀ w ∈ (g.word :: g.new).head?, w.token.kind = .rightBrace := by
          rintro _ ⟨⟩
          exact brace
        rw [List.nil_append, List.nil_append, run, synchronize_closed closed]
        exact .same (some ()) [] [] rfl rfl (List.suffix_refl _) nofun fun _ => ⟨(), rfl, trivial⟩
      · exact .passed (passed_of_takes taken)
    · apply Compares.of_uses synchronize_built (synchronize_uses brace)
  | cons w s ih =>
    intro finish finish'
    by_cases brace : w.token.kind = .rightBrace
    · rw [List.cons_append, List.cons_append, synchronize_brace brace, synchronize_brace brace]
      exact .same (some ()) (w :: s) [] rfl rfl (List.suffix_refl _) nofun nofun
    rw [List.cons_append, List.cons_append]
    cases ends : endsStatement w.token.kind with
    | true =>
      rw [synchronize_end ends, synchronize_end ends]
      exact .same (some ()) s _ rfl rfl (List.suffix_cons w s) (inside_trail w s)
        fun _ => ⟨(), rfl, trivial⟩
    | false =>
      rw [synchronize_other ends brace, synchronize_other ends brace]
      apply (ih finish finish').prepend (List.suffix_cons w s) (inside_trail w s)

theorem resumed_built (found : Option Stmt) :
  Built (match found with
    | some st => return Round.item st
    | none => do
      synchronize
      return .skip)
  := by
  cases found with
  | some st => exact .pure _
  | none => exact .bind synchronize_built fun _ => .pure _

/-- After recovery nothing is given up: at the end of a block or of the document reading goes on there. -/
theorem recovered_compares {statement : Rule Stmt} (built : Built statement)
    (h : g.Compares g.Stalled (fun _ => True) statement depth s) :
  g.Compares g.Resting (fun _ => True) (recovered statement) depth s
  := by
  intro finish finish'
  rcases (h finish finish').strict_or with strict | ⟨inside, other, stall⟩
  · apply strict.attempt.bind resumed_built
    rintro (_ | st) s' _ _ _ _
    · refine .bind (fun _ => .pure _) (synchronize_compares s') fun _ _ _ _ => .pure fun _ => trivial
    · exact .pure fun _ => trivial
  obtain ⟨answer, rest, final⟩ | ⟨none', w, rest, brace, ends⟩ := stall
  · obtain ⟨st, answer⟩ := Option.isSome_iff_exists.mp answer
    rw [recovered_of_some answer]
    exact .stalled inside ⟨other, ⟨.item st, rfl, nofun⟩, rest, final⟩
  · have last := built.suffix ⟨finish, depth⟩ (s ++ g.old)
    obtain ⟨read, split⟩ : [w] <:+ s := by
      obtain ⟨read, split⟩ := last
      rw [rest] at split
      exact ⟨read, List.append_cancel_right (by simpa using split)⟩
    have trail : Inside (flatten s) (unreadable w.trail) :=
      (inside_trail w []).mono (flatten_subset ⟨read, split⟩)
    rw [recovered_of_none none', rest, synchronize_other ends brace, ← List.append_assoc]
    rcases synchronize_at ⟨finish, depth⟩ with ⟨final, run⟩ | taken
    · rw [run]
      refine .stalled ?_ ⟨other, ⟨.skip, rfl, nofun⟩, rfl, final⟩
      simpa using inside.append trail
    · exact .passed ((passed_of_takes taken).prepend List.nil_suffix (inside.append trail))

/-! ### Blocks -/

section

variable {statement : Rule Stmt} (built : Built statement)
  (consumes : ∀ site ahead, ConsumesAt statement site ahead)
  (opens : ∀ site ahead, Opens statement site ahead)

include opens in
theorem recovered_opens (site : Site) (ahead : List Word) :
  Opens (recovered statement) site ahead
  := .bind resumed_built (opens site ahead).attempt

include opens in
theorem blockRound_declines (brace : g.kind ≠ .rightBrace) (site : Site) :
  g.Declines (blockRound statement site g.old)
  := by
  cases split : g.old with
  | nil =>
    have declines :
        g.Declines (fail (.mismatch (.ofList [.rightBrace])) site g.old : Reply (Round Stmt)) := by
      apply declines_mismatch
      intro among
      rw [KindSet.contains_single_of_ne brace] at among
      cases among
    rwa [split] at declines
  | cons w later =>
    by_cases line : w.token.kind = .newline
    · rw [blockRound_newline line]
      left
      rw [split]
      apply Takes.advance site
    by_cases close : w.token.kind = .rightBrace
    · rw [blockRound_brace close]
      left
      rw [split]
      apply Takes.advance site
    · rw [blockRound_other line close, ← split]
      apply declines_of_opens (recovered_opens opens site g.old)

variable (h : ∀ w s, g.Compares g.Stalled (fun _ => True) statement depth (w :: s))

include built consumes opens h in
theorem block_compares {others : KindSet} (apart : s = [] → others.contains g.kind = false) :
  g.Compares Strict (fun _ => True) (block statement others) depth s
  := by
  have advances := blockRound_advances built consumes
  have builtRound := blockRound_built built
  have builtMany : Built (many (blockRound statement)) := .many builtRound advances
  have declines : g.kind ≠ .rightBrace → ∀ site, g.Declines (many (blockRound statement) site g.old) := by
    intro brace site
    rw [many_eq advances]
    apply (blockRound_declines opens brace site).bind builtMany.many_next
  refine .expect_bind (fun _ => builtMany) apart fun _ s' _ => ?_
  apply Compares.many_resting advances builtRound
  · intro w s
    apply Compares.peek_cons
    split
    · exact .advance_bind (.pure fun _ => trivial)
    · exact .advance_bind (.pure fun _ => trivial)
    · apply Compares.fail_cons
    · apply recovered_compares built (h w s)
  · by_cases brace : g.kind = .rightBrace
    · apply Compares.of_uses builtMany
      intro site ahead
      rw [many_of_stop advances (blockRound_brace brace)]
      apply Takes.advance site
    · apply Compares.of_declines (declines brace)
  · exact fun brace _ site => .inl (declines brace site)

/-! ### The else branch -/

theorem hasElse_of_kinds {ws vs : List Word}
    (same : ws.map (fun w => w.token.kind) = vs.map fun w => w.token.kind) :
  hasElse ws = hasElse vs
  := by
  have seen : ∀ us : List Word, hasElse us
      = ((us.map fun w => w.token.kind).dropWhile (· = .newline)).head?.any (· = .kwElse) := by
    intro us
    simp only [hasElse, List.dropWhile_map, List.head?_map, Option.any_map]
    rfl
  rw [seen, seen, same]

/-- What follows an `else`. -/
def afterElse (statement : Rule Stmt) : Rule (Option (List Stmt)) := do
  if ← sees .kwIf then
    return some [← statement]
  else
    return some (← block statement (.ofList [.kwIf]))

include built consumes in
theorem afterElse_built :
  Built (afterElse statement)
  := .bind (.sees _) fun _ => .ite (.bind built fun _ => .pure _)
    (.bind (block_built built consumes _) fun _ => .pure _)

include built consumes opens h in
theorem afterElse_compares (nested : depth < maxDepth → ∀ w, w.token.kind = .kwIf → Uses statement w)
    (s : List Word) :
  g.Compares g.Stalled (fun _ => True) (afterElse statement) depth s
  := by
  have found : ∀ {site w ahead}, w.token.kind = .kwIf → afterElse statement site (w :: ahead)
      = (do return some [← statement]) site (w :: ahead) := by
    intro site w ahead found
    rw [afterElse, sees_bind_cons, if_pos (decide_eq_true found)]
  have leaves : ∀ site ahead, (∀ w ∈ ahead.head?, ¬ w.token.kind = .kwIf) → afterElse statement site ahead
      = (do return some (← block statement (.ofList [.kwIf]))) site ahead := by
    rintro site (_ | ⟨w, ahead⟩) other
    · rfl
    · rw [afterElse, sees_bind_cons, if_neg (by simpa using other w rfl)]
  have inBraces : (s = [] → g.kind ≠ .kwIf) → g.Compares g.Stalled (fun _ => True)
      (do return some (← block statement (.ofList [.kwIf]))) depth s := by
    intro other
    refine .map _ (block_compares built consumes opens h ?_) fun _ _ => trivial
    exact fun here => KindSet.contains_single_of_ne (other here)
  cases s with
  | cons w s =>
    apply Compares.choice_cons _ (· = .kwIf) leaves
    · intro here
      apply Compares.congr (fun _ => found here) (fun _ => found here) (.map_stalled _ (h w s))
    · exact fun _ => inBraces nofun
  | nil =>
    apply Compares.choice_nil _ (· = .kwIf) leaves
    · intro w later split here site
      have run : afterElse statement site g.old = (do return some [← statement]) site g.old := by
        rw [split, found here]
      exact declines_of_opens (.congr run (.bind (fun _ => .pure _) (opens site g.old)))
    · intro here next
      by_cases less : depth < maxDepth
      · apply Compares.of_uses (afterElse_built built consumes)
        intro site ahead
        rw [found here]
        exact (nested less g.word here).bind (fun _ => .pure _) site ahead
      · intro finish finish'
        have declines : g.Declines (block statement (.ofList [.kwIf]) ⟨finish, depth⟩ g.old) :=
          .bind (fun _ => .many (blockRound_built built) (blockRound_advances built consumes))
            (declines_expect fun _ => Nat.le_of_not_lt less)
        rw [List.nil_append, leaves _ _ next]
        exact Compared.of_declines (declines.bind fun _ => .pure _) rfl rfl (List.forall_mem_nil _)
    · exact fun other => inBraces fun _ => other

theorem elseFound_eq (statement : Rule Stmt) :
  elseFound statement = (do
    let _ ← many skipNewline
    advance
    afterElse statement)
  := rfl

include built consumes in
theorem elseFound_built :
  Built (elseFound statement)
  := .bind skipNewlines_built fun _ => .bind .advance fun _ => afterElse_built built consumes

/-- A line end before an `else` is read with it. -/
theorem elseFound_newline (line : w.token.kind = .newline) (statement : Rule Stmt) (site : Site)
    (ahead : List Word) :
  elseFound statement site (w :: ahead) = ⟨(elseFound statement site ahead).value,
    (elseFound statement site ahead).rest, unreadable w.trail ++ (elseFound statement site ahead).failures⟩
  := by
  have skip : skipNewline site (w :: ahead) = ⟨some .skip, ahead, unreadable w.trail⟩ := by
    rw [skipNewline, sees_bind_cons, if_pos (decide_eq_true line)]
    simp [bind_run, advance, pure, Rule.pure]
  rw [elseFound_eq, bind_run, many_of_skip skipNewline_advances skip, bind_run (many skipNewline)]
  cases (many skipNewline site ahead).value with
  | none => rfl
  | some _ => simp only [List.append_assoc]

include built consumes in
theorem elseFound_passes (blank : ∀ w ∈ s, w.token.kind = .newline) (found : hasElse g.old) (site : Site) :
  g.Passed s (elseFound statement site (s ++ g.old))
  := by
  induction s with
  | cons w s ih =>
    rw [List.cons_append, elseFound_newline (blank w (List.mem_cons_self ..))]
    have tail := ih fun v member => blank v (List.mem_cons_of_mem w member)
    apply tail.prepend (List.suffix_cons w s) (inside_trail w s)
  | nil =>
    apply passed_of_takes
    obtain ⟨lines, e, later, split, blank', else'⟩ := (hasElse_iff g.old).mp found
    rw [List.nil_append, split]
    cases lines with
    | cons w lines =>
      rw [List.cons_append, elseFound_newline (blank' w (List.mem_cons_self ..))]
      apply Takes.after (elseFound_built built consumes)
    | nil =>
      have stop : many skipNewline site (e :: later) = ⟨some [], e :: later, []⟩ := by
        apply many_of_stop skipNewline_advances
        rw [skipNewline, sees_bind_cons, if_neg (by simp [else'])]
        rfl
      rw [List.nil_append, elseFound_eq, bind_of_some (by rw [stop]), stop]
      exact Takes.bind (fun _ => afterElse_built built consumes) (.advance site e later)

include built consumes opens h in
theorem elseFound_compares (nested : depth < maxDepth → ∀ w, w.token.kind = .kwIf → Uses statement w)
    (s : List Word) :
  g.Compares g.Stalled (fun _ => True) (elseFound statement) depth s
  := by
  have lines : g.Compares Strict (fun _ => True) (many skipNewline) depth s := by
    apply Compares.many skipNewline_advances skipNewline_built (Q := True) _ fun _ => trivial
    intro s _
    apply Compares.sees_ite (fun _ _ => .advance_bind fun _ => .pure _) (.bind .advance fun _ => .pure _)
      (.pure _)
    · exact fun w s' _ _ => .advance_bind (.pure fun _ => trivial)
    · exact fun _ => .pure fun _ => trivial
  rw [elseFound_eq]
  refine .bind (fun _ => .bind .advance fun _ => afterElse_built built consumes) lines fun _ s' _ _ => ?_
  refine .bind (fun _ => afterElse_built built consumes) .advance fun _ s'' _ _ => ?_
  apply afterElse_compares built consumes opens h nested

include built consumes opens h in
/-- Whether there is an else branch is seen from the words ahead. If the new word hides it, the run without
the new word has read what is at the place. -/
theorem elseBranch_compares (nested : depth < maxDepth → ∀ w, w.token.kind = .kwIf → Uses statement w)
    (s : List Word) :
  g.Compares g.Stalled (fun _ => True) (elseBranch statement) depth s
  := by
  have same : hasElse (s ++ g.old) = hasElse (s ++ g.word :: g.new) →
      g.Compares g.Stalled (fun _ => True) (elseBranch statement) depth s := by
    intro decided
    cases ahead : hasElse (s ++ g.old) with
    | true =>
      apply Compares.congr _ _ (elseFound_compares built consumes opens h nested s)
      · exact fun _ => elseAhead_run_true ahead
      · exact fun _ => elseAhead_run_true (decided ▸ ahead)
    | false =>
      have none' : g.Compares g.Stalled (fun _ => True) (pure none : Rule (Option (List Stmt))) depth s :=
        .pure fun _ => trivial
      apply Compares.congr _ _ none'
      · exact fun _ => elseAhead_run_false ahead
      · exact fun _ => elseAhead_run_false (decided ▸ ahead)
  by_cases other : ∃ w ∈ s, w.token.kind ≠ .newline
  · apply same
    rw [hasElse_append other, hasElse_append other]
  have blank : ∀ w ∈ s, w.token.kind = .newline := by simpa using other
  by_cases line : g.kind = .newline
  · apply same
    rw [hasElse_lines blank, hasElse_lines blank, hasElse_newline line, hasElse_of_kinds g.kinds]
  · have hidden : hasElse (s ++ g.word :: g.new) = false := by
      rw [hasElse_lines blank, hasElse_other line]
      exact decide_eq_false g.noElse
    cases found : hasElse g.old with
    | false =>
      apply same
      rw [hidden, hasElse_lines blank, found]
    | true =>
      intro finish finish'
      have ahead : hasElse (s ++ g.old) = true := by rw [hasElse_lines blank, found]
      have run : elseBranch statement ⟨finish, depth⟩ (s ++ g.old)
          = elseFound statement ⟨finish, depth⟩ (s ++ g.old) := elseAhead_run_true ahead
      rw [run]
      exact .passed (elseFound_passes built consumes blank found _)

/-! ### Statements -/

include built consumes opens h in
theorem defDecl_compares :
  g.Compares g.Stalled (fun _ => True) (defDecl statement) depth (w :: s)
  := by
  have body : Built (block statement .empty) := block_built built consumes _
  apply Compares.advance_bind
  have rest : ∀ name, Built (do
      let params ← parameters
      let body ← block statement .empty
      return Stmt.define name params body) :=
    fun _ => .bind parameters_built fun _ => .bind body fun _ => .pure _
  refine .bind (fun _ => .bind (.expect _ _) fun _ => rest _) (name_compares s) fun name s _ _ => ?_
  refine .expect_bind (fun _ => rest _) (fun _ => KindSet.contains_empty _) fun _ s _ => ?_
  refine .bind (fun _ => .bind body fun _ => .pure _) (parameters_compares s) fun params s _ _ => ?_
  exact .map _ (block_compares built consumes opens h fun _ => KindSet.contains_empty _) fun _ _ => trivial

include built consumes opens h in
theorem whileStmt_compares (n : Nat) :
  g.Compares g.Stalled (fun _ => True) (whileStmt (expr n) statement) depth (w :: s)
  := by
  apply Compares.advance_bind
  refine .bind (fun _ => .bind (block_built built consumes _) fun _ => .pure _) (expr_compares n s)
    fun condition s _ past => ?_
  refine .map _ (block_compares built consumes opens h ?_) fun _ _ => trivial
  exact fun here => contains_exprContinuation (past here)

include built consumes opens h in
theorem ifStmt_compares (n : Nat)
    (nested : depth < maxDepth → ∀ w, w.token.kind = .kwIf → Uses statement w) :
  g.Compares g.Stalled (fun _ => True) (ifStmt (expr n) statement) depth (w :: s)
  := by
  have rest : Built (elseBranch statement) := elseBranch_built built consumes
  apply Compares.advance_bind
  refine .bind (fun _ => .bind (block_built built consumes _) fun _ => .bind rest fun _ => .pure _)
    (expr_compares n s) fun condition s _ past => ?_
  have body : g.Compares Strict (fun _ => True) (block statement exprContinuation) depth s := by
    apply block_compares built consumes opens h
    exact fun here => contains_exprContinuation (past here)
  refine .bind (fun _ => .bind rest fun _ => .pure _) body fun thenBranch s _ _ => ?_
  exact .map_stalled _ (elseBranch_compares built consumes opens h nested s)

end

theorem assignment_compares (n : Nat) :
  g.Compares g.Stalled (fun _ => True) (assignment (expr n)) depth (w :: s)
  := by
  have value : ∀ target, Built (do
      let value ← expr n
      terminator exprContinuation
      return Stmt.assign target value) := fun _ => .bind (expr_built n) fun _ => ended_built _ _
  apply Compares.take_bind
  refine .bind (fun _ => value _) .advance fun _ s' _ _ => ?_
  apply exprEnded_compares n (fun value => .assign w.token.text value) s'

/-- The new word may make a target of a name that was an expression by itself. No failure at the place
says so. -/
theorem exprStmt_before_assign (n : Nat) (name : w.token.kind = .identifier) (assign : g.kind = .assign)
    (finish : Mark) (second : Reply Stmt) :
  g.Compared g.Stalled (fun _ => True) [w] (exprStmt (expr n) ⟨finish, depth⟩ (w :: g.old)) second
  := by
  have ended : ∀ value, Built (do
      terminator exprContinuation
      return Stmt.expr value) := fun _ => ended_built _ _
  have brace : g.kind ≠ .rightBrace := by
    rw [assign]
    decide
  have after : ∀ {value fs}, expr n ⟨finish, depth⟩ (w :: g.old) = ⟨some value, g.old, fs⟩ →
      Inside (flatten [w]) fs →
      g.Compared g.Stalled (fun _ => True) [w] (exprStmt (expr n) ⟨finish, depth⟩ (w :: g.old)) second := by
    intro value fs run inside
    have apart : (terminators.union exprContinuation).contains g.kind → maxDepth ≤ depth := by
      rw [assign]
      intro among
      cases among
    rw [exprStmt, bind_of_some (by rw [run]), run]
    rcases ended_declines (.expr value) ⟨finish, depth⟩ apart with ⟨final, run'⟩ | declines
    · rw [run']
      refine .stalled ?_ ⟨brace, .inl ⟨rfl, rfl, final⟩⟩
      simpa using inside
    · exact Compared.of_declines declines rfl rfl inside
  cases expr_compares n [w] finish finish with
  | same value s' fs run _ suffix inside answers =>
    rw [List.cons_append, List.nil_append] at run
    cases value with
    | none =>
      have split : s' = [w] := by
        apply suffix.eq_of_length
        have some' : s' ≠ [] := by
          intro here
          obtain ⟨_, ⟨⟩, -⟩ := answers here
        apply Nat.le_antisymm suffix.length_le (List.length_pos_iff.mpr some')
      rw [exprStmt, bind_of_none (by rw [run]), run]
      refine .stalled inside ⟨brace, .inr ⟨rfl, w, by rw [split]; rfl, ?_⟩⟩
      rw [name]
      decide
    | some value =>
      have here : s' = [] := by
        have run' : layer (unary n) 6 ⟨finish, depth⟩ (w :: g.old) = ⟨some value, s' ++ g.old, fs⟩ := run
        have shorter := layer_consumes n 6 ⟨finish, depth⟩ (w :: g.old) value (by rw [run'])
        rw [run'] at shorter
        rw [List.length_append, List.length_cons] at shorter
        apply List.length_eq_zero_iff.mp
        omega
      rw [here] at run
      exact after run inside
  | parted value fs run inside _ => exact after run inside
  | passed past => exact .passed (past.bind ended)
  | met fs f gs run inside here _ =>
    obtain ⟨more, found⟩ := failures_prefix_bind (expr n) (fun value => do
      terminator exprContinuation
      return Stmt.expr value) ⟨finish, depth⟩ (w :: g.old)
    rw [List.cons_append, List.nil_append] at run
    rw [run, List.append_assoc] at found
    refine .met fs f (gs ++ more) found.symm inside here fun expected mismatch among => ?_
    have honest := (expr_expects n ⟨finish, depth⟩ (w :: g.old) trivial).1 f (by simp [run])
    obtain ⟨⟨-, other⟩, -⟩ := honest expected mismatch
    rw [assign, other] at among
    cases among
  | stalled _ stall => exact stall.elim

section

variable {statement : Rule Stmt}

/-- The second word ahead is the first one after the next. -/
theorem second_bind {α : Type} (next : Option Kind → Rule α) (site : Site) (w : Word) (ahead : List Word) :
  (lookahead 1 >>= next) site (w :: ahead)
    = next (ahead.head?.map fun v => v.token.kind) site (w :: ahead)
  := by
  cases ahead
  · rfl
  · rfl

theorem statementOf_assign (name : w.token.kind = .identifier) {v : Word} (assign : v.token.kind = .assign)
    (n : Nat) (site : Site) (ahead : List Word) :
  statementOf (expr n) statement site (w :: v :: ahead) = assignment (expr n) site (w :: v :: ahead)
  := by
  rw [statementOf, peek_bind_cons, name]
  dsimp only
  rw [second_bind, if_pos ⟨rfl, congrArg some assign⟩]

theorem statementOf_name (name : w.token.kind = .identifier) (n : Nat) (site : Site) (ahead : List Word)
    (other : ∀ v ∈ ahead.head?, v.token.kind ≠ .assign) :
  statementOf (expr n) statement site (w :: ahead) = exprStmt (expr n) site (w :: ahead)
  := by
  have plain : ahead.head?.map (fun v => v.token.kind) ≠ some .assign := by
    intro found
    obtain ⟨v, first, assign⟩ := Option.map_eq_some_iff.mp found
    apply other v first assign
  have start : exprStart.contains .identifier = true := rfl
  rw [statementOf, peek_bind_cons, name]
  dsimp only
  rw [second_bind, if_neg fun both => plain both.2, if_pos start]

theorem named_compares (name : w.token.kind = .identifier) (n : Nat) :
  g.Compares g.Stalled (fun _ => True) (statementOf (expr n) statement) depth (w :: s)
  := by
  have plain : (s = [] → g.kind ≠ .assign) → (∀ v ∈ (s ++ g.old).head?, v.token.kind ≠ .assign) →
      g.Compares g.Stalled (fun _ => True) (statementOf (expr n) statement) depth (w :: s) := by
    intro other other'
    apply Compares.congr _ _ (exprEnded_compares n Stmt.expr (w :: s))
    · exact fun site => statementOf_name name n site _ other'
    · intro site
      apply statementOf_name name n site
      cases s with
      | nil =>
        rintro _ ⟨⟩
        apply other rfl
      | cons v s => exact other'
  cases s with
  | cons v s =>
    by_cases assign : v.token.kind = .assign
    · apply Compares.congr _ _ (assignment_compares n)
      · exact fun site => statementOf_assign name assign n site _
      · exact fun site => statementOf_assign name assign n site _
    · apply plain nofun
      rintro _ ⟨⟩
      exact assign
  | nil =>
    by_cases next : ∃ v ∈ g.old.head?, v.token.kind = .assign
    · obtain ⟨v, first, assign⟩ := next
      obtain ⟨later, split⟩ := List.head?_eq_some_iff.mp first
      intro finish finish'
      have run : statementOf (expr n) statement ⟨finish, depth⟩ (w :: g.old)
          = assignment (expr n) ⟨finish, depth⟩ (w :: g.old) := by
        rw [split]
        apply statementOf_assign name assign
      have taken : Takes g.old ((do
          advance
          let value ← expr n
          terminator exprContinuation
          return Stmt.assign w.token.text value) ⟨finish, depth⟩ g.old) := by
        rw [split]
        exact Takes.bind (fun _ => .bind (expr_built n) fun _ => ended_built _ _) (.advance _ v later)
      rw [List.cons_append, List.nil_append, run]
      exact .passed ((passed_of_takes taken).prepend (List.suffix_cons w []) (inside_trail w []))
    · have other : ∀ v ∈ g.old.head?, v.token.kind ≠ .assign :=
        fun v first assign => next ⟨v, first, assign⟩
      by_cases assign : g.kind = .assign
      · intro finish finish'
        rw [List.cons_append, List.nil_append, statementOf_name name n _ _ other]
        apply exprStmt_before_assign n name assign
      · apply plain (fun _ => assign) other

variable (built : Built statement) (consumes : ∀ site ahead, ConsumesAt statement site ahead)
  (opens : ∀ site ahead, Opens statement site ahead)
  (h : ∀ w s, g.Compares g.Stalled (fun _ => True) statement depth (w :: s))

include built consumes opens h

theorem statementOf_compares (n : Nat) (levels : depth + n = maxDepth)
    (nested : depth < maxDepth → ∀ w, w.token.kind = .kwIf → Uses statement w) :
  g.Compares g.Stalled (fun _ => True) (statementOf (expr n) statement) depth (w :: s)
  := by
  by_cases name : w.token.kind = .identifier
  · apply named_compares name
  apply Compares.peek_cons
  split
  · apply varDecl_compares
  · apply defDecl_compares built consumes opens h
  · apply ifStmt_compares built consumes opens h n nested
  · apply whileStmt_compares built consumes opens h
  · apply returnStmt_compares n levels
  · apply importStmt_compares
  · apply Compares.advance_bind
    apply exprEnded_compares n Stmt.execute
  · rename_i k _ _ _ _ _ _ _ found
    obtain rfl := Option.some.inj found
    have plain : g.Compares g.Stalled (fun _ => True)
        (if exprStart.contains w.token.kind then exprStmt (expr n) else fail .noViable) depth (w :: s) := by
      split
      · apply exprEnded_compares n Stmt.expr
      · apply Compares.fail_cons
    apply Compares.congr _ _ plain
    · intro site
      rw [List.cons_append, second_bind, if_neg fun both => name both.1]
    · intro site
      rw [List.cons_append, second_bind, if_neg fun both => name both.1]
  · apply Compares.fail_cons

end

theorem statement_opens (n : Nat) (site : Site) (ahead : List Word) :
  Opens (statement n) site ahead
  := by
  cases n with
  | zero => exact .fail (by simp) site ahead
  | succ n =>
    change Opens (statementOf (expr n) (statement n)) ⟨site.finish, site.depth + 1⟩ ahead
    have value := expr_built n
    have body := fun others => block_built (statement_built n) (statement_consumes n) others
    have else' := elseBranch_built (statement_built n) (statement_consumes n)
    cases ahead with
    | nil => exact .fail (by simp) _ []
    | cons w ahead =>
      apply Opens.peek_cons
      split
      · exact .advance_bind (fun _ => .bind (.expect _ _) fun _ => .bind (.sees _) fun _ =>
          .ite (.bind .advance fun _ => .bind value fun _ => ended_built _ _) (ended_built _ _)) _ w ahead
      · exact .advance_bind (fun _ => .bind (.expect _ _) fun _ => .bind (.expect _ _) fun _ =>
          .bind parameters_built fun _ => .bind (body _) fun _ => .pure _) _ w ahead
      · exact .advance_bind (fun _ => .bind value fun _ => .bind (body _) fun _ => .bind else' fun _ =>
          .pure _) _ w ahead
      · exact .advance_bind (fun _ => .bind value fun _ => .bind (body _) fun _ => .pure _) _ w ahead
      · exact .advance_bind (fun _ => result_built n) _ w ahead
      · exact .advance_bind (fun _ => .bind (.expect _ _) fun _ => .bind (following_built (.expect _ _) _)
          fun _ => ended_built _ _) _ w ahead
      · exact .advance_bind (fun _ => .bind value fun _ => ended_built _ _) _ w ahead
      · apply Opens.congr (second_bind _ _ w ahead)
        split
        · exact .take_bind (fun _ => .bind .advance fun _ => .bind value fun _ => ended_built _ _) _ w ahead
        · split
          · exact .bind (fun _ => ended_built _ _) (expr_opens n _ _)
          · exact .fail (by simp) _ _
      · exact .fail (by simp) _ _

theorem statement_uses (again : w.token.kind = .kwIf) (n : Nat) :
  Uses (statement (n + 1)) w
  := by
  apply Uses.deeper
  apply Uses.peek_bind
  rw [again]
  exact .advance_bind fun _ => .bind (expr_built n) fun _ =>
    .bind (block_built (statement_built n) (statement_consumes n) _) fun _ =>
      .bind (elseBranch_built (statement_built n) (statement_consumes n)) fun _ => .pure _

theorem statement_compares (n : Nat) (levels : depth + n = maxDepth) (w : Word) (s : List Word) :
  g.Compares g.Stalled (fun _ => True) (statement n) depth (w :: s)
  := by
  induction n generalizing depth w s with
  | zero => apply Compares.fail_cons
  | succ n ih =>
    apply Compares.deeper
    have less : depth + 1 + n = maxDepth := by omega
    apply statementOf_compares (statement_built n) (statement_consumes n) (statement_opens n) (ih less) n
      less
    intro less' w again
    cases n with
    | zero => omega
    | succ n => apply statement_uses again

/-! ### Documents -/

theorem programRound_opens (n : Nat) (site : Site) (w : Word) (ahead : List Word) :
  Opens (programRound (statement n)) site (w :: ahead)
  := by
  apply Opens.peek_cons
  split
  · exact .advance_bind (fun _ => .pure _) site w ahead
  · exact .bind (fun _ => .bind .advance fun _ => .pure _) (.report (by simp) site _)
  · simp_all
  · apply recovered_opens (statement_opens n)

theorem program_opens (n : Nat) (site : Site) (w : Word) (ahead : List Word) :
  Opens (program n) site (w :: ahead)
  := by
  rw [program, many_eq (programRound_advances n)]
  apply (programRound_opens n site w ahead).bind (program_built n).many_next

/-- Only at the end of the document is there nothing to do at the place. -/
theorem program_declines (n : Nat) (site : Site) :
  g.Declines (program n site g.old) ∨ g.old = [] ∧ (program n site g.old).failures = []
  := by
  rcases split : g.old with _ | ⟨w, later⟩
  · exact .inr ⟨rfl, by rw [program, many_of_stop (programRound_advances n) programRound_nil]⟩
  · rw [← split]
    have opens := program_opens n site w later
    rw [← split] at opens
    exact .inl (declines_of_opens opens)

theorem program_compares (n : Nat) (levels : depth + n = maxDepth) (s : List Word) :
  g.Compares (fun _ _ => g.old = []) (fun _ => True) (program n) depth s
  := by
  apply Compares.many_resting (programRound_advances n) (programRound_built n)
  · intro w s
    apply Compares.peek_cons
    split
    · exact .advance_bind (.pure fun _ => trivial)
    · exact .bind (fun _ => .bind .advance fun _ => .pure _) (.report_cons _) fun _ s' _ _ =>
        .bind (fun _ => .pure _) .advance fun _ _ _ _ => .pure fun _ => trivial
    · exact .pure fun _ => trivial
    · apply recovered_compares (statement_built n) (statement_compares n levels w s)
  · intro finish finish'
    rcases program_declines n ⟨finish, depth⟩ with declines | ⟨finished, silent⟩
    · exact .of_declines declines rfl rfl (List.forall_mem_nil _)
    · refine .stalled ?_ finished
      change Inside _ (program n ⟨finish, depth⟩ g.old).failures
      rw [silent]
      exact nofun
  · exact fun _ _ site => program_declines n site

end PlanetServer.Parse
