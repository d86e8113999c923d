import PlanetServer.Proofs.Rule.Run

/-!
# The rules of the parser are built from the combinators

Every round of a repetition uses up a word, unless it is the last one or gives up, so no repetition
is cut short. This is `program_built` for the whole parser, and one statement for each rule before.
-/

namespace PlanetServer.Parse

open PlanetServer.Rule

variable {α : Type}

/-! ### Expressions -/

/-- One round of the operators of a rank and their right operands. -/
def tail (rank : Nat) (operand : Rule Expr) : Rule (Round (Kind × Expr)) := do
  match ← peek with
  | some op =>
    if op.rank? = some rank then
      advance
      return .item (op, ← operand)
    else
      return .stop
  | none => return .stop

theorem layer_succ (operand : Rule Expr) (n : Nat) :
  layer operand (n + 1) = (do
    let lhs ← layer operand n
    let tails ← many (tail (6 - n) (layer operand n))
    return tails.foldl joinOperand lhs)
  := rfl

theorem tail_advances {operand : Rule Expr} (built : Built operand) (rank : Nat) :
  Advances (tail rank operand)
  := by
  rintro site (_ | ⟨w, ahead⟩)
  · apply AdvancesAt.stop site
  · apply AdvancesAt.peek_cons
    dsimp only
    split
    · apply Built.advancesAt fun _ => .bind built fun _ => .pure _
    · apply AdvancesAt.stop

theorem tail_built {operand : Rule Expr} (built : Built operand) (rank : Nat) :
  Built (tail rank operand)
  := by
  apply Built.bind .peek
  intro k
  split
  · apply Built.ite (.bind .advance fun _ => .bind built fun _ => .pure _) (.pure _)
  · apply Built.pure

theorem tails_built {operand : Rule Expr} (built : Built operand) (rank : Nat) :
  Built (many (tail rank operand))
  := .many (tail_built built rank) (tail_advances built rank)

theorem layer_built {operand : Rule Expr} (built : Built operand) (n : Nat) :
  Built (layer operand n)
  := by
  induction n with
  | zero => apply built
  | succ n ih =>
    rw [layer_succ]
    exact .bind ih fun _ => .bind (tails_built ih _) fun _ => .pure _

theorem exprOf_built {operand : Rule Expr} (built : Built operand) :
  Built (exprOf operand)
  := layer_built built 6

theorem following_advances {item : Rule α} (built : Built item) (divider : Kind) :
  Advances (do
    if ← sees divider then
      advance
      return .item (← item)
    else
      return .stop)
  := by
  rintro site (_ | ⟨w, ahead⟩)
  · apply AdvancesAt.stop site
  · apply AdvancesAt.sees_cons
    split
    · apply Built.advancesAt fun _ => .bind built fun _ => .pure _
    · apply AdvancesAt.stop

theorem following_built {item : Rule α} (built : Built item) (divider : Kind) :
  Built (following divider item)
  := by
  apply Built.many _ (following_advances built divider)
  refine .bind (.sees divider) fun _ => .ite ?_ (.pure _)
  exact .bind .advance fun _ => .bind built fun _ => .pure _

theorem arguments_built {operand : Rule Expr} (built : Built operand) :
  Built (arguments operand)
  := by
  apply Built.bind (.sees _)
  intro found
  apply Built.ite
  · apply Built.bind .advance fun _ => .pure _
  · apply Built.bind (exprOf_built built) fun _ =>
      Built.bind (following_built (exprOf_built built) _) fun _ =>
        Built.bind (.expect _ _) fun _ => .pure _

theorem primary_built {operand : Rule Expr} (built : Built operand) :
  Built (primary operand)
  := by
  apply Built.bind .peek
  intro k
  split
  · apply Built.bind .take fun _ => .pure _
  · apply Built.bind .take fun _ => .pure _
  · apply Built.bind .take fun _ => .pure _
  · apply Built.bind .advance fun _ => .pure _
  · apply Built.bind .advance fun _ => .pure _
  · apply Built.bind .advance fun _ => Built.bind (exprOf_built built) fun _ =>
      Built.bind (.expect _ _) fun _ => .pure _
  · apply Built.fail (by simp)

theorem suffix_advances {operand : Rule Expr} (built : Built operand) :
  Advances (suffix operand)
  := by
  rintro site (_ | ⟨w, ahead⟩)
  · apply AdvancesAt.stop site
  · apply AdvancesAt.peek_cons
    split
    · apply Built.advancesAt fun _ => .bind (arguments_built built) fun _ => .pure _
    · apply Built.advancesAt fun _ => .bind (.expect _ _) fun _ => .pure _
    · apply AdvancesAt.stop

theorem suffix_built {operand : Rule Expr} (built : Built operand) :
  Built (suffix operand)
  := by
  apply Built.bind .peek
  intro k
  split
  · exact .bind .advance fun _ => .bind (arguments_built built) fun _ => .pure _
  · exact .bind .advance fun _ => .bind (.expect _ _) fun _ => .pure _
  · apply Built.pure

theorem suffixes_built {operand : Rule Expr} (built : Built operand) :
  Built (many (suffix operand))
  := .many (suffix_built built) (suffix_advances built)

theorem suffixed_built {operand : Rule Expr} (built : Built operand) :
  Built (suffixed operand)
  := .bind (primary_built built) fun _ => .bind (suffixes_built built) fun _ => .pure _

theorem unary_built (n : Nat) :
  Built (unary n)
  := by
  induction n with
  | zero => apply Built.fail (by simp)
  | succ n ih =>
    apply Built.deeper
    apply Built.bind .peek
    intro k
    split
    · apply Built.bind .advance fun _ => Built.bind ih fun _ => .pure _
    · apply Built.bind .advance fun _ => Built.bind ih fun _ => .pure _
    · apply suffixed_built ih

theorem expr_built (n : Nat) :
  Built (expr n)
  := exprOf_built (unary_built n)

/-! ### Expressions use up words -/

theorem primary_consumes (operand : Rule Expr) (built : Built operand) (site : Site)
    (ahead : List Word) :
  ConsumesAt (primary operand) site ahead
  := by
  rcases ahead with _ | ⟨w, ahead⟩
  · apply ConsumesAt.fail site
  · apply ConsumesAt.peek_cons
    split
    · apply ConsumesAt.bind (.take_cons site w ahead) fun _ => .pure _
    · apply ConsumesAt.bind (.take_cons site w ahead) fun _ => .pure _
    · apply ConsumesAt.bind (.take_cons site w ahead) fun _ => .pure _
    · apply ConsumesAt.bind (.advance_cons site w ahead) fun _ => .pure _
    · apply ConsumesAt.bind (.advance_cons site w ahead) fun _ => .pure _
    · apply ConsumesAt.bind (.advance_cons site w ahead) fun _ =>
        .bind (exprOf_built built) fun _ => .bind (.expect _ _) fun _ => .pure _
    · apply ConsumesAt.fail

theorem unary_consumes (n : Nat) (site : Site) (ahead : List Word) :
  ConsumesAt (unary n) site ahead
  := by
  rcases n with _ | n
  · apply ConsumesAt.fail
  · change ConsumesAt (_ >>= _) ⟨site.finish, site.depth + 1⟩ ahead
    rcases ahead with _ | ⟨w, ahead⟩
    · apply ConsumesAt.bind (primary_consumes _ (unary_built n) _ _)
      exact fun _ => .bind (suffixes_built (unary_built n)) fun _ => .pure _
    · apply ConsumesAt.peek_cons
      split
      · apply ConsumesAt.bind (.advance_cons _ w ahead) fun _ =>
          .bind (unary_built n) fun _ => .pure _
      · apply ConsumesAt.bind (.advance_cons _ w ahead) fun _ =>
          .bind (unary_built n) fun _ => .pure _
      · apply ConsumesAt.bind (primary_consumes _ (unary_built n) _ _)
        exact fun _ => .bind (suffixes_built (unary_built n)) fun _ => .pure _

theorem layer_consumes (n m : Nat) (site : Site) (ahead : List Word) :
  ConsumesAt (layer (unary n) m) site ahead
  := by
  induction m with
  | zero => apply unary_consumes
  | succ m ih =>
    apply ConsumesAt.bind ih
    exact fun _ => .bind (tails_built (layer_built (unary_built n) m) _) fun _ => .pure _

/-! ### Statements -/

theorem terminator_built (others : KindSet) :
  Built (terminator others)
  := by
  apply Built.bind .peek
  intro k
  split
  · apply Built.advance
  · apply Built.advance
  · apply Built.pure
  · apply Built.pure
  · apply Built.fail (by simp)

theorem skipWord_advances :
  Advances skipWord
  := by
  rintro site (_ | ⟨w, ahead⟩)
  · apply AdvancesAt.stop site
  · apply AdvancesAt.peek_cons
    split
    · apply AdvancesAt.stop
    · apply AdvancesAt.stop
    · apply AdvancesAt.stop
    · apply AdvancesAt.stop
    · apply Built.advancesAt fun _ => .pure _

theorem skipWords_built :
  Built (many skipWord)
  := by
  apply Built.many _ skipWord_advances
  apply Built.bind .peek
  intro k
  split
  · apply Built.pure
  · apply Built.pure
  · apply Built.pure
  · apply Built.pure
  · exact .bind .advance fun _ => .pure _

theorem resume_built :
  Built (do
    match ← peek with
    | some .semicolon | some .newline => advance
    | _ => return)
  := by
  apply Built.bind .peek
  intro k
  split
  · apply Built.advance
  · apply Built.advance
  · apply Built.pure

theorem synchronize_built :
  Built synchronize
  := .bind skipWords_built fun _ => resume_built

/-- The search for a place to go on from gets past every word but a closing brace. -/
theorem synchronize_consumes (site : Site) {w : Word} (ahead : List Word)
    (h : w.token.kind ≠ .rightBrace) :
  ConsumesAt synchronize site (w :: ahead)
  := by
  by_cases ends : w.token.kind = .semicolon ∨ w.token.kind = .newline
  · have stays : many skipWord site (w :: ahead) = ⟨some [], w :: ahead, []⟩ := by
      rw [many_eq skipWord_advances]
      rcases ends with k | k
      · simp [bind_run, skipWord, peek, lookahead, k, pure, Rule.pure]
      · simp [bind_run, skipWord, peek, lookahead, k, pure, Rule.pure]
    apply ConsumesAt.bind_of_eq stays
    apply ConsumesAt.peek_cons
    rcases ends with k | k
    · rw [k]
      apply ConsumesAt.advance_cons
    · rw [k]
      apply ConsumesAt.advance_cons
  · have skips : ConsumesAt (many skipWord) site (w :: ahead) := by
      rw [many_eq skipWord_advances]
      apply ConsumesAt.bind
      · apply ConsumesAt.peek_cons
        split
        · simp_all
        · simp_all
        · simp_all
        · simp_all
        · exact .bind (.advance_cons site w ahead) fun _ => .pure _
      · intro r
        split
        · apply Built.pure
        · apply skipWords_built
        · exact .bind skipWords_built fun _ => .pure _
    exact .bind skips fun _ => resume_built

theorem recovered_built {statement : Rule Stmt} (built : Built statement) :
  Built (recovered statement)
  := by
  apply Built.bind (.attempt built)
  intro found
  split
  · apply Built.pure
  · exact .bind synchronize_built fun _ => .pure _

/-- Whether a statement answers or gives up, reading goes on behind its first word. -/
theorem recovered_consumes {statement : Rule Stmt} (built : Built statement)
    (consumes : ∀ site ahead, ConsumesAt statement site ahead) (site : Site) {w : Word}
    (ahead : List Word) (h : w.token.kind ≠ .rightBrace) :
  ConsumesAt (recovered statement) site (w :: ahead)
  := by
  intro r answer
  rcases found : (statement site (w :: ahead)).value with _ | s
  · have run : recovered statement site (w :: ahead) = ⟨_, _, _⟩ :=
      bind_of_some (show (attempt statement site (w :: ahead)).value = _ from congrArg some found)
    rw [run] at answer ⊢
    have left := built.suffix site (w :: ahead)
    have resumed : Built (do synchronize; return (Round.skip : Round Stmt)) :=
      .bind synchronize_built fun _ => .pure _
    rcases Nat.lt_or_eq_of_le left.length_le with shorter | same
    · apply Nat.lt_of_le_of_lt (resumed.suffix site _).length_le shorter
    · have stays := left.eq_of_length same
      change ((do synchronize; return (Round.skip : Round Stmt)) site
        (statement site (w :: ahead)).rest).value = _ at answer
      change ((do synchronize; return (Round.skip : Round Stmt)) site
        (statement site (w :: ahead)).rest).rest.length < _
      rw [stays] at answer ⊢
      apply ConsumesAt.bind (synchronize_consumes site ahead h) (fun _ => .pure _) r answer
  · have run : recovered statement site (w :: ahead) = ⟨_, _, _⟩ :=
      bind_of_some (show (attempt statement site (w :: ahead)).value = _ from congrArg some found)
    rw [run]
    apply consumes site (w :: ahead) s found

theorem blockRound_advances {statement : Rule Stmt} (built : Built statement)
    (consumes : ∀ site ahead, ConsumesAt statement site ahead) :
  Advances (blockRound statement)
  := by
  rintro site (_ | ⟨w, ahead⟩)
  · apply AdvancesAt.fail site
  · apply AdvancesAt.peek_cons
    split
    · apply Built.advancesAt fun _ => .pure _
    · apply Built.advancesAt fun _ => .pure _
    · apply AdvancesAt.fail
    · apply ConsumesAt.advancesAt
      apply recovered_consumes built consumes
      simp_all

theorem blockRound_built {statement : Rule Stmt} (built : Built statement) :
  Built (blockRound statement)
  := by
  apply Built.bind .peek
  intro k
  split
  · exact .bind .advance fun _ => .pure _
  · exact .bind .advance fun _ => .pure _
  · exact .fail (by simp)
  · apply recovered_built built

theorem parameters_built :
  Built parameters
  := by
  apply Built.bind (.sees _)
  intro found
  apply Built.ite
  · exact .bind .take fun _ => .bind (following_built (.expect _ _) _) fun _ =>
      .bind (.expect _ _) fun _ => .pure _
  · exact .bind (.expect _ _) fun _ => .pure _

theorem block_built {statement : Rule Stmt} (built : Built statement)
    (consumes : ∀ site ahead, ConsumesAt statement site ahead) (others : KindSet) :
  Built (block statement others)
  := .bind (.expect _ _) fun _ =>
    .many (blockRound_built built) (blockRound_advances built consumes)

theorem skipNewline_advances :
  Advances skipNewline
  := by
  rintro site (_ | ⟨w, ahead⟩)
  · apply AdvancesAt.stop site
  · apply AdvancesAt.sees_cons
    split
    · apply Built.advancesAt fun _ => .pure _
    · apply AdvancesAt.stop

theorem skipNewline_built :
  Built skipNewline
  := .bind (.sees _) fun _ => .ite (.bind .advance fun _ => .pure _) (.pure _)

theorem skipNewlines_built :
  Built (many skipNewline)
  := .many skipNewline_built skipNewline_advances

theorem elseBranch_built {statement : Rule Stmt} (built : Built statement)
    (consumes : ∀ site ahead, ConsumesAt statement site ahead) :
  Built (elseBranch statement)
  := by
  refine .bind .elseAhead fun _ => .ite ?_ (.pure _)
  refine .bind skipNewlines_built fun _ => .bind .advance fun _ => .bind (.sees _) fun _ => .ite ?_ ?_
  · exact .bind built fun _ => .pure _
  · exact .bind (block_built built consumes _) fun _ => .pure _

theorem ended_built (others : KindSet) (s : Stmt) :
  Built (do
    terminator others
    return s)
  := .bind (terminator_built others) fun _ => .pure s

section

variable {expr : Rule Expr} {statement : Rule Stmt} (builtExpr : Built expr)
  (consumesExpr : ∀ site ahead, ConsumesAt expr site ahead) (built : Built statement)
  (consumes : ∀ site ahead, ConsumesAt statement site ahead)

include builtExpr in
theorem varDecl_leads :
  Leads (varDecl expr)
  := by
  refine .advance fun _ => .bind (.expect _ _) fun _ => .bind (.sees _) fun _ => .ite ?_ ?_
  · exact .bind .advance fun _ => .bind builtExpr fun _ => ended_built _ _
  · apply ended_built

include built consumes in
theorem defDecl_leads :
  Leads (defDecl statement)
  := .advance fun _ => .bind (.expect _ _) fun _ => .bind (.expect _ _) fun _ =>
    .bind parameters_built fun _ => .bind (block_built built consumes _) fun _ => .pure _

include builtExpr built consumes in
theorem ifStmt_leads :
  Leads (ifStmt expr statement)
  := .advance fun _ => .bind builtExpr fun _ => .bind (block_built built consumes _) fun _ =>
    .bind (elseBranch_built built consumes) fun _ => .pure _

include builtExpr built consumes in
theorem whileStmt_leads :
  Leads (whileStmt expr statement)
  := .advance fun _ => .bind builtExpr fun _ => .bind (block_built built consumes _) fun _ => .pure _

include builtExpr in
theorem returnStmt_leads :
  Leads (returnStmt expr)
  := by
  refine .advance fun _ => .bind .peek fun _ => .ite ?_ ?_
  · exact .bind builtExpr fun _ => ended_built _ _
  · apply ended_built

theorem importStmt_leads :
  Leads importStmt
  := .advance fun _ => .bind (.expect _ _) fun _ =>
    .bind (following_built (.expect _ _) _) fun _ => ended_built _ _

include builtExpr in
theorem executeStmt_leads :
  Leads (executeStmt expr)
  := .advance fun _ => .bind builtExpr fun _ => ended_built _ _

include builtExpr in
theorem assignment_leads :
  Leads (assignment expr)
  := .take fun _ => .bind .advance fun _ => .bind builtExpr fun _ => ended_built _ _

include builtExpr in
theorem exprStmt_built :
  Built (exprStmt expr)
  := .bind builtExpr fun _ => ended_built _ _

include builtExpr built consumes in
theorem statementOf_built :
  Built (statementOf expr statement)
  := by
  apply Built.bind .peek
  intro k
  split
  · apply (varDecl_leads builtExpr).built
  · apply (defDecl_leads built consumes).built
  · apply (ifStmt_leads builtExpr built consumes).built
  · apply (whileStmt_leads builtExpr built consumes).built
  · apply (returnStmt_leads builtExpr).built
  · apply importStmt_leads.built
  · apply (executeStmt_leads builtExpr).built
  · refine .bind (.lookahead 1) fun _ => .ite ?_ (.ite ?_ (.fail (by simp)))
    · apply (assignment_leads builtExpr).built
    · apply exprStmt_built builtExpr
  · exact .fail (by simp)

include builtExpr consumesExpr built consumes in
theorem statementOf_consumes (site : Site) (ahead : List Word) :
  ConsumesAt (statementOf expr statement) site ahead
  := by
  rcases ahead with _ | ⟨w, ahead⟩
  · apply ConsumesAt.fail site
  · apply ConsumesAt.peek_cons
    split
    · apply (varDecl_leads builtExpr).consumes
    · apply (defDecl_leads built consumes).consumes
    · apply (ifStmt_leads builtExpr built consumes).consumes
    · apply (whileStmt_leads builtExpr built consumes).consumes
    · apply (returnStmt_leads builtExpr).consumes
    · apply importStmt_leads.consumes
    · apply (executeStmt_leads builtExpr).consumes
    · rw [lookahead_eq_look]
      apply ConsumesAt.look_bind
      split
      · apply (assignment_leads builtExpr).consumes
      · split
        · exact .bind (consumesExpr site (w :: ahead)) fun _ => ended_built _ _
        · apply ConsumesAt.fail
    · apply ConsumesAt.fail

end

theorem statement_built_consumes (n : Nat) :
  Built (statement n) ∧ ∀ site ahead, ConsumesAt (statement n) site ahead
  := by
  induction n with
  | zero => exact ⟨.fail (by simp), fun site ahead => .fail site ahead⟩
  | succ n ih =>
    obtain ⟨built, consumes⟩ := ih
    constructor
    · apply Built.deeper
      apply statementOf_built (expr_built n) built consumes
    · intro site ahead
      apply ConsumesAt.deeper
      apply statementOf_consumes (expr_built n) (layer_consumes n 6) built consumes

theorem statement_built (n : Nat) :
  Built (statement n)
  := (statement_built_consumes n).1

theorem statement_consumes (n : Nat) (site : Site) (ahead : List Word) :
  ConsumesAt (statement n) site ahead
  := (statement_built_consumes n).2 site ahead

/-! ### Documents -/

theorem programRound_advances (n : Nat) :
  Advances (programRound (statement n))
  := by
  rintro site (_ | ⟨w, ahead⟩)
  · apply AdvancesAt.stop site
  · apply AdvancesAt.peek_cons
    split
    · apply Built.advancesAt fun _ => .pure _
    · exact .inr (.inr (Nat.lt_succ_self _))
    · apply AdvancesAt.stop
    · apply ConsumesAt.advancesAt
      apply recovered_consumes (statement_built n) (statement_consumes n)
      simp_all

theorem programRound_built (n : Nat) :
  Built (programRound (statement n))
  := by
  apply Built.bind .peek
  intro k
  split
  · exact .bind .advance fun _ => .pure _
  · exact .bind (.report (by simp)) fun _ => .bind .advance fun _ => .pure _
  · apply Built.pure
  · apply recovered_built (statement_built n)

theorem program_built (n : Nat) :
  Built (program n)
  := .many (programRound_built n) (programRound_advances n)

end PlanetServer.Parse
