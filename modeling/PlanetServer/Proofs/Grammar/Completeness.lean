import PlanetServer.Proofs.Grammar.Reading
import PlanetServer.Proofs.Grammar.Shape

/-!
# The parser reads the whole grammar

Words that make up a phrase are read, and the answer is what the phrase stands for. The parser reads
as much as it can, so this holds only before words that do not go on with the phrase: `Accepts` has a
condition on what follows.

* `Stops n` is the condition for expressions whose operators are among the `n` tightest ranks.
* `NoElse` is the condition for statements.

Operators, calls and members are grouped to the left in the grammar, and read by a repetition. The
proofs go from right to left: a shorter phrase is read before words at which the repetition is already
known to read the rest.
-/

namespace PlanetServer.Grammar

open Rule Word Parse

variable {α : Type}

theorem tokens_eq_cons {read : List Word} {t : Token} {w : List Token} (h : tokens read = t :: w) :
  ∃ v vs, read = v :: vs ∧ v.token = t ∧ tokens vs = w
  := List.map_eq_cons_iff.mp h

theorem tokens_eq_append {read : List Word} {v w : List Token} (h : tokens read = v ++ w) :
  ∃ vs ws, read = vs ++ ws ∧ tokens vs = v ∧ tokens ws = w
  := List.map_eq_append_iff.mp h

theorem tokens_eq_singleton {read : List Word} {t : Token} (h : tokens read = [t]) :
  ∃ v, read = [v] ∧ v.token = t
  := List.map_eq_singleton_iff.mp h

/-- Words that make up a phrase are read before any words that meet the condition. -/
def Accepts (rule : Rule α) (clause : Clause α) (follow : List Token → Prop) : Prop :=
  ∀ w after a, clause w after a → ∀ site read rest, tokens read = w → tokens rest = after →
    follow after → Reads rule site (read ++ rest) a rest

/-- The first token is of none of the kinds that go on. -/
def Halts (goes : Kind → Prop) (ts : List Token) : Prop :=
  ∀ t ∈ ts.head?, ¬ goes t.kind

theorem Halts.of_kind {goes : Kind → Prop} {t : Token} {k : Kind} (found : t.kind = k)
    (h : ¬ goes k) (ts : List Token) :
  Halts goes (t :: ts)
  := by
  rintro _ ⟨⟩
  rwa [found]

theorem Halts.mono {goes goes' : Kind → Prop} (h : ∀ k, goes' k → goes k) {ts : List Token}
    (halts : Halts goes ts) :
  Halts goes' ts
  := fun t member goes => halts t member (h _ goes)

theorem Halts.words {goes : Kind → Prop} {ws : List Word} (h : Halts goes (tokens ws)) :
  ∀ w ∈ ws.head?, ¬ goes w.token.kind
  := by
  rcases ws with _ | ⟨w, ws⟩
  · nofun
  · rintro _ ⟨⟩
    apply h w.token rfl

theorem Starts.exists_word {kinds : KindSet} {ws : List Word} (h : Starts kinds (tokens ws)) :
  ∃ v vs, ws = v :: vs ∧ kinds.contains v.token.kind
  := by
  rcases ws with _ | ⟨v, vs⟩
  · apply h.elim
  · exact ⟨v, vs, rfl, h⟩

theorem Starts.words {kinds : KindSet} {k : Kind} {ws : List Word} (h : Starts kinds (tokens ws))
    (other : ¬ kinds.contains k) (rest : List Word) :
  ∀ w ∈ (ws ++ rest).head?, w.token.kind ≠ k
  := by
  rcases ws with _ | ⟨w, ws⟩
  · apply h.elim
  · rintro _ ⟨⟩ rfl
    apply other h

/-- Lists of items, the first of which is read by the rule for items and the others by the
repetition. -/
theorem separated_reads {divider : Kind} {item : Rule α} {phrase : Phrase α}
    {follow : List Token → Prop} (built : Built item) (h : Accepts item phrase.clause follow)
    (divides : ∀ t ts, t.kind = divider → follow (t :: ts)) {w : List Token} {as : List α}
    (list : Separated divider phrase w as) (site : Site) {read : List Word} (rest : List Word)
    (whole : tokens read = w) (halts : Halts (· = divider) (tokens rest))
    (last : follow (tokens rest)) :
  ∃ a as' mid, as = a :: as' ∧ Reads item site (read ++ rest) a mid
    ∧ Reads (following divider item) site mid as' rest
  := by
  induction list generalizing read with
  | @last _ a first =>
    refine ⟨a, [], rest, rfl, h _ _ _ first site read rest whole rfl last, ?_⟩
    apply Reads.many_stop (following_advances built divider)
    exact .sees_neg halts.words (.pure _ _ _)
  | @cons _ _ _ a as first found _ ih =>
    obtain ⟨vs, ws, rfl, rfl, split⟩ := tokens_eq_append whole
    obtain ⟨d, ws, rfl, rfl, rfl⟩ := tokens_eq_cons split
    obtain ⟨b, bs, mid, rfl, next, others⟩ := ih rfl
    refine ⟨a, b :: bs, d :: ws ++ rest, rfl, ?_, ?_⟩
    · rw [List.append_assoc]
      apply h _ _ _ first site vs (d :: ws ++ rest) rfl rfl (divides _ _ found)
    · apply Reads.many_item (following_advances built divider) _ others
      exact .sees_pos found (.advance_bind (.bind next (.pure _ _ _)))

/-! ### Expressions -/

/-- The kinds that go on after an expression whose operators are among the `n` tightest ranks. -/
def goesOn (n : Nat) (k : Kind) : Prop :=
  k = .leftParen ∨ k = .dot ∨ ∃ m < n, k.rank? = some (6 - m)

instance (n : Nat) (k : Kind) : Decidable (goesOn n k) :=
  inferInstanceAs (Decidable (_ ∨ _ ∨ _))

/-- The first token does not go on with such an expression. -/
def Stops (n : Nat) : List Token → Prop :=
  Halts (goesOn n)

theorem Stops.succ {n : Nat} {ts : List Token} (h : Stops (n + 1) ts) :
  Stops n ts
  := by
  apply Halts.mono _ h
  rintro k (paren | dot | ⟨m, less, rank⟩)
  · exact .inl paren
  · exact .inr (.inl dot)
  · exact .inr (.inr ⟨m, Nat.lt_succ_of_lt less, rank⟩)

/-- A rule that reads the phrases for operands. -/
structure Operands (operand : Rule Expr) (unary : Phrase Expr) : Prop where
  /-- The rule is built from the combinators. -/
  built : Built operand
  /-- The phrases start as expressions do. -/
  starts : ∀ w e, unary w e → Starts exprStart w
  /-- The phrases are read. -/
  accepts : Accepts operand unary.clause (Stops 0)

section

variable {operand : Rule Expr} {unary : Phrase Expr}

/-- A chain of operands is read before words at which the rest of the chain is read. -/
theorem chain_reads (built : Built operand) {n : Nat} {ops : List Kind} {tighter : Phrase Expr}
    (table : ∀ k ∈ ops, k.rank? = some (6 - n)) (loose : ∀ k ∈ ops, ¬ goesOn n k)
    (h : Accepts (layer operand n) tighter.clause (Stops n)) {w : List Token} {e : Expr}
    (chain : Chain ops tighter w e) {site : Site} {read ahead rest : List Word}
    (tails : List (Kind × Expr)) (whole : tokens read = w) (stops : Stops n (tokens ahead))
    (more : Reads (many (tail (6 - n) (layer operand n))) site ahead tails rest) :
  Reads (layer operand (n + 1)) site (read ++ ahead) (tails.foldl joinOperand e) rest
  := by
  induction chain generalizing read ahead tails with
  | single first =>
    rw [layer_succ]
    apply Reads.bind (h _ _ _ first site read ahead whole rfl stops)
    exact .bind more (.pure _ _ _)
  | @join _ _ op lhs rhs _ joins last ih =>
    obtain ⟨vs, ws, rfl, left, split⟩ := tokens_eq_append whole
    obtain ⟨d, ws, rfl, rfl, right⟩ := tokens_eq_cons split
    rw [List.append_assoc]
    apply ih ((d.token.kind, rhs) :: tails) left
    · exact .of_kind rfl (loose _ joins) _
    · apply Reads.many_item (tail_advances (layer_built built n) _) _ more
      apply Reads.peek_cons
      simp only [table _ joins, if_true]
      apply Reads.advance_bind
      exact .bind (h _ _ _ last site ws ahead right rfl stops) (.pure _ _ _)

theorem layer_accepts (built : Built operand) {n : Nat} {ops : List Kind} {tighter : Phrase Expr}
    (table : ∀ k : Kind, k.rank? = some (6 - n) ↔ k ∈ ops) (loose : ∀ k ∈ ops, ¬ goesOn n k)
    (h : Accepts (layer operand n) tighter.clause (Stops n)) :
  Accepts (layer operand (n + 1)) (Chain ops tighter).clause (Stops (n + 1))
  := by
  rintro w _ e chain site read rest whole rfl stops
  apply chain_reads built (fun k => (table k).mpr) loose h chain [] whole stops.succ
  apply Reads.many_stop (tail_advances (layer_built built n) _)
  rcases rest with _ | ⟨v, rest⟩
  · exact .peek_nil (.pure _ _ _)
  · have other : ¬ v.token.kind.rank? = some (6 - n) := by
      intro rank
      apply stops.words v rfl (.inr (.inr ⟨n, Nat.lt_succ_self n, rank⟩))
    apply Reads.peek_cons
    simp only [other, if_false]
    apply Reads.pure

theorem exprOf_accepts (operands : Operands operand unary) :
  Accepts (exprOf operand) (Expression unary).clause (Stops 6)
  := by
  apply layer_accepts operands.built (by decide) (by decide)
  apply layer_accepts operands.built (by decide) (by decide)
  apply layer_accepts operands.built (by decide) (by decide)
  apply layer_accepts operands.built (by decide) (by decide)
  apply layer_accepts operands.built (by decide) (by decide)
  apply layer_accepts operands.built (by decide) (by decide)
  apply operands.accepts

theorem arguments_accepts (operands : Operands operand unary) :
  Accepts (arguments operand) (Closed .rightParen (Arguments unary)).clause fun _ => True
  := by
  rintro _ _ args ⟨w, r, rfl, list, paren⟩ site read rest whole rfl -
  obtain ⟨vs, ws, rfl, left, right⟩ := tokens_eq_append whole
  obtain ⟨r, rfl, rfl⟩ := tokens_eq_singleton right
  rw [List.append_assoc]
  cases list with
  | none =>
    obtain rfl := List.map_eq_nil_iff.mp left
    exact .sees_pos paren (.advance_bind (.pure _ _ _))
  | some list =>
    have starts := list.starts fun _ _ inner => Expression.starts operands.starts inner
    obtain ⟨e, es, mid, rfl, first, others⟩ := separated_reads (exprOf_built operands.built)
      (exprOf_accepts operands) (fun t ts comma => .of_kind comma (by decide) ts) list site
      (r :: rest) left (.of_kind paren (by decide) _) (.of_kind paren (by decide) _)
    apply Reads.sees_neg
    · rw [← left] at starts
      apply starts.words (by decide)
    · apply Reads.bind first
      apply Reads.bind others
      exact .bind (.expect paren) (.pure _ _ _)

theorem primary_accepts (operands : Operands operand unary) :
  Accepts (primary operand) (Primary unary).clause fun _ => True
  := by
  rintro w _ e whole site read rest split rfl -
  cases whole with
  | number found | string found | identifier found | true found | false found =>
    obtain ⟨v, rfl, rfl⟩ := tokens_eq_singleton split
    apply Reads.peek_cons
    simp only [found]
    first
    | exact .take_bind (.pure _ _ _)
    | exact .advance_bind (.pure _ _ _)
  | parens paren inner paren' =>
    obtain ⟨l, vs, rfl, rfl, tail⟩ := tokens_eq_cons split
    obtain ⟨vs, ws, rfl, left, right⟩ := tokens_eq_append tail
    obtain ⟨r, rfl, rfl⟩ := tokens_eq_singleton right
    rw [List.cons_append, List.append_assoc]
    apply Reads.peek_cons
    simp only [paren]
    apply Reads.advance_bind
    apply Reads.bind (exprOf_accepts operands _ _ _ inner site vs (r :: rest) left rfl
      (.of_kind paren' (by decide) _))
    exact .bind (.expect paren') (.pure _ _ _)

/-- A simple expression with its calls and members is read before words at which more calls and
members are read. -/
theorem postfix_reads (operands : Operands operand unary)
    {w : List Token} {e : Expr} (whole : Postfix unary w e) {site : Site}
    {read ahead rest : List Word} (suffixes : List Suffix) (split : tokens read = w)
    (more : Reads (many (suffix operand)) site ahead suffixes rest) :
  Reads (suffixed operand) site (read ++ ahead) (suffixes.foldl Suffix.apply e) rest
  := by
  induction whole generalizing read ahead suffixes with
  | primary first =>
    apply Reads.bind (primary_accepts operands _ _ _ first site read ahead split rfl trivial)
    exact .map _ more
  | @call _ w l r e args _ paren list paren' ih =>
    rw [List.append_assoc] at split
    obtain ⟨vs, ws, rfl, left, tail⟩ := tokens_eq_append split
    obtain ⟨l, ws, rfl, rfl, right⟩ := tokens_eq_cons tail
    rw [List.append_assoc]
    apply ih (.call args :: suffixes) left
    apply Reads.many_item (suffix_advances operands.built) _ more
    apply Reads.peek_cons
    simp only [paren]
    apply Reads.advance_bind
    apply Reads.map
    apply arguments_accepts operands _ _ _ ⟨w, r, rfl, list, paren'⟩ site ws ahead right rfl trivial
  | member _ found ident ih =>
    obtain ⟨vs, ws, rfl, left, tail⟩ := tokens_eq_append split
    obtain ⟨dot, ws, rfl, rfl, right⟩ := tokens_eq_cons tail
    obtain ⟨name, rfl, rfl⟩ := tokens_eq_singleton right
    rw [List.append_assoc]
    apply ih (.member name.token.text :: suffixes) left
    apply Reads.many_item (suffix_advances operands.built) _ more
    apply Reads.peek_cons
    simp only [found]
    apply Reads.advance_bind
    exact .map _ (.expect ident)

theorem suffixed_accepts (operands : Operands operand unary) :
  Accepts (suffixed operand) (Postfix unary).clause (Stops 0)
  := by
  rintro w _ e whole site read rest split rfl stops
  apply postfix_reads operands whole [] split
  apply Reads.many_stop (suffix_advances operands.built)
  rcases rest with _ | ⟨v, rest⟩
  · exact .peek_nil (.pure _ _ _)
  · have other := stops.words v rfl
    apply Reads.peek_cons
    split
    · apply absurd (.inl (Option.some.inj ‹_›)) other
    · apply absurd (.inr (.inl (Option.some.inj ‹_›))) other
    · apply Reads.pure

end

theorem unary_operands (n : Nat) :
  Operands (unary n) (Unary n)
  := by
  refine ⟨unary_built n, fun _ _ => Unary.starts, ?_⟩
  induction n with
  | zero => exact fun _ _ _ whole => whole.elim
  | succ n ih =>
    have operands : Operands (unary n) (Unary n) := ⟨unary_built n, fun _ _ => Unary.starts, ih⟩
    rintro w _ e whole site read rest split rfl stops
    apply Reads.deeper
    cases whole with
    | sign sign inner =>
      obtain ⟨op, ws, rfl, rfl, right⟩ := tokens_eq_cons split
      have operand := fun site => ih _ _ _ inner site ws rest right rfl stops
      apply Reads.peek_cons
      rcases sign with found | found
      · simp only [found]
        exact .advance_bind (.bind (operand _) (.pure _ _ _))
      · simp only [found]
        exact .advance_bind (.bind (operand _) (.pure _ _ _))
    | plain whole =>
      have reads := fun site =>
        suffixed_accepts operands _ _ _ whole site read rest split rfl stops
      have first := whole.starts
      rcases read with _ | ⟨v, read⟩
      · subst split
        apply first.elim
      · subst split
        apply Reads.peek_cons
        split
        · apply absurd first (by simp [Starts, Option.some.inj ‹_›]; decide)
        · apply absurd first (by simp [Starts, Option.some.inj ‹_›]; decide)
        · apply reads

theorem expr_accepts (n : Nat) :
  Accepts (expr n) (Expression (Unary n)).clause (Stops 6)
  := exprOf_accepts (unary_operands n)

/-! ### Ends of statements -/

theorem Terminator.halts {goes : Kind → Prop} {t after : List Token} (h : Terminator t after)
    (others : ∀ k ∈ [Kind.semicolon, .newline, .rightBrace], ¬ goes k) :
  Halts goes (t ++ after)
  := by
  cases h with
  | semicolon found => exact .of_kind found (others _ (by simp)) _
  | newline found => exact .of_kind found (others _ (by simp)) _
  | brace found => exact .of_kind found (others _ (by simp)) _
  | finish => nofun

theorem terminator_accepts (others : KindSet) :
  Accepts (terminator others) (fun w after _ => Terminator w after) fun _ => True
  := by
  rintro t after _ ends site read rest split split' -
  cases ends with
  | semicolon found | newline found =>
    obtain ⟨v, rfl, rfl⟩ := tokens_eq_singleton split
    apply Reads.peek_cons
    simp only [found]
    apply Reads.advance_cons
  | brace found =>
    obtain rfl := List.map_eq_nil_iff.mp split
    obtain ⟨v, rest, rfl, rfl, -⟩ := tokens_eq_cons split'
    apply Reads.peek_cons
    simp only [found]
    apply Reads.pure
  | finish =>
    obtain rfl := List.map_eq_nil_iff.mp split
    obtain rfl := List.map_eq_nil_iff.mp split'
    exact .peek_nil (.pure _ _ _)

theorem ended_reads {others : KindSet} {s : Stmt} {t after : List Token} (ends : Terminator t after)
    {site : Site} {read rest : List Word} (split : tokens read = t) (split' : tokens rest = after) :
  Reads (do
    terminator others
    return s) site (read ++ rest) s rest
  := by
  have last := terminator_accepts others t after () ends site read rest split split' trivial
  exact .bind last (.pure _ _ _)

theorem exprEnded_reads {expr : Rule Expr} {phrase : Phrase Expr}
    (hexpr : Accepts expr phrase.clause (Stops 6)) {others : KindSet} {s : Expr → Stmt} {e : Expr}
    {w t after : List Token} (whole : phrase w e) (ends : Terminator t after) {site : Site}
    {read rest : List Word} (split : tokens read = w ++ t) (split' : tokens rest = after) :
  Reads (do
    let e ← expr
    terminator others
    return s e) site (read ++ rest) (s e) rest
  := by
  obtain ⟨vs, ws, rfl, left, right⟩ := tokens_eq_append split
  have stops : Stops 6 (tokens (ws ++ rest)) := by
    rw [tokens_append, right, split']
    apply ends.halts (by decide)
  rw [List.append_assoc]
  apply Reads.bind (hexpr _ _ _ whole site vs (ws ++ rest) left rfl stops)
  apply ended_reads ends right split'

/-! ### Blocks -/

/-- No `else` follows after line ends. -/
def NoElse (ts : List Token) : Prop :=
  ∀ lines e rest, ts = lines ++ e :: rest → (∀ t ∈ lines, t.kind = .newline) → e.kind ≠ .kwElse

namespace NoElse

theorem nil : NoElse [] := by
  rintro (_ | ⟨t, lines⟩) e rest split
  · cases split
  · cases split

theorem newline {t : Token} {ts : List Token} (h : NoElse ts) (found : t.kind = .newline) :
  NoElse (t :: ts)
  := by
  rintro (_ | ⟨t, lines⟩) e rest split blank
  · obtain ⟨rfl, -⟩ := List.cons.inj split
    simp [found]
  · obtain ⟨rfl, rfl⟩ := List.cons.inj split
    apply h lines e rest rfl
    exact fun t member => blank t (by simp [member])

theorem of_kind {t : Token} {k : Kind} (found : t.kind = k) (line : k ≠ .newline)
    (other : k ≠ .kwElse) (ts : List Token) :
  NoElse (t :: ts)
  := by
  rintro (_ | ⟨t, lines⟩) e rest split blank
  · obtain ⟨rfl, -⟩ := List.cons.inj split
    rwa [found]
  · obtain ⟨rfl, -⟩ := List.cons.inj split
    apply absurd (blank t (by simp)) (found ▸ line)

theorem of_starts {w : List Token} (h : Starts stmtStart w) (ts : List Token) :
  NoElse (w ++ ts)
  := by
  cases w with
  | nil => apply h.elim
  | cons t w =>
    apply of_kind rfl
    · rintro found
      apply absurd h (by simp only [Starts, found]; decide)
    · rintro found
      apply absurd h (by simp only [Starts, found]; decide)

theorem words {ws : List Word} (h : NoElse (tokens ws)) :
  hasElse ws = false
  := by
  apply Bool.eq_false_iff.mpr
  intro found
  obtain ⟨lines, e, rest, rfl, blank, found⟩ := (hasElse_iff ws).mp found
  apply h (tokens lines) e.token (tokens rest) (by simp) (by simpa [tokens] using blank) found

end NoElse

/-- A rule that reads the clauses for statements. -/
structure Statements (statement : Rule Stmt) (clause : Clause Stmt) : Prop where
  /-- The rule is built from the combinators. -/
  built : Built statement
  /-- A statement that is read uses up a word. -/
  consumes : ∀ site ahead, ConsumesAt statement site ahead
  /-- The clauses depend little on what follows. -/
  stable : Stable clause
  /-- The clauses start as statements do. -/
  starts : ∀ w after s, clause w after s → Starts stmtStart w
  /-- The clauses are read. -/
  accepts : Accepts statement clause NoElse

section

variable {statement : Rule Stmt} {clause : Clause Stmt} (statements : Statements statement clause)

include statements

theorem Body.noElse {w after rest : List Token} {ss : List Stmt} (body : Body clause w after ss)
    (h : NoElse rest) :
  NoElse (w ++ rest)
  := by
  induction body with
  | nil => apply h
  | newline found _ ih => apply ih.newline found
  | cons first _ _ =>
    rw [List.append_assoc]
    exact .of_starts (statements.starts _ _ _ first) _

/-- A body is read before words at which the repetition ends. The repetition is that of a block or
that of a document. -/
theorem body_reads {round : Rule (Round Stmt)} (advances : Advances round) {site : Site}
    (line : ∀ (w : Word) ahead, w.token.kind = .newline → Reads round site (w :: ahead) .skip ahead)
    (item : ∀ (w : Word) ahead s rest, stmtStart.contains w.token.kind →
      Reads statement site (w :: ahead) s rest → Reads round site (w :: ahead) (.item s) rest)
    {w after : List Token} {ss : List Stmt} (body : Body clause w after ss)
    {read ahead rest : List Word} (split : tokens read = w)
    (ends : Ends after → Ends (tokens ahead)) (last : NoElse (tokens ahead))
    (stop : Reads (many round) site ahead [] rest) :
  Reads (many round) site (read ++ ahead) ss rest
  := by
  induction body generalizing read with
  | nil =>
    obtain rfl := List.map_eq_nil_iff.mp split
    apply stop
  | newline found _ ih =>
    obtain ⟨v, read, rfl, rfl, right⟩ := tokens_eq_cons split
    exact .many_skip advances (line v _ found) (ih right ends)
  | @cons _ w after s ss first body ih =>
    obtain ⟨vs, ws, rfl, left, right⟩ := tokens_eq_append split
    have starts := statements.starts _ _ _ first
    have follow : NoElse (tokens (ws ++ ahead)) := by
      rw [tokens_append, right]
      apply body.noElse statements last
    have first' : clause (tokens vs) (tokens (ws ++ ahead)) s := by
      rw [left]
      apply statements.stable _ _ _ _ first
      rw [tokens_append, right]
      cases w with
      | nil => apply ends
      | cons t w => apply id
    have reads := statements.accepts _ _ _ first' site vs _ rfl rfl follow
    rw [List.append_assoc]
    rcases vs with _ | ⟨v, vs⟩
    · subst left
      apply starts.elim
    · subst left
      exact .many_item advances (item v _ s _ starts reads) (ih right ends)

omit statements in
theorem recovered_reads {site : Site} {ahead rest : List Word} {s : Stmt}
    (h : Reads statement site ahead s rest) :
  Reads (recovered statement) site ahead (.item s) rest
  := .bind (.attempt h) (.pure _ _ _)

theorem block_accepts (others : KindSet) :
  Accepts (block statement others) (Block clause).clause fun _ => True
  := by
  rintro _ _ ss ⟨brace, body, brace'⟩ site read rest split rfl -
  obtain ⟨l, vs, rfl, rfl, tail⟩ := tokens_eq_cons split
  obtain ⟨vs, ws, rfl, left, right⟩ := tokens_eq_append tail
  obtain ⟨r, rfl, rfl⟩ := tokens_eq_singleton right
  have advances := blockRound_advances statements.built statements.consumes
  rw [List.cons_append, List.append_assoc]
  apply Reads.bind (.expect brace)
  apply body_reads statements advances _ _ body left
  · exact fun _ => brace'
  · exact .of_kind brace' (by decide) (by decide) (tokens rest)
  · apply Reads.many_stop advances
    apply Reads.peek_cons
    simp only [brace']
    exact .advance_bind (.pure _ _ _)
  · apply blockRound_line statement site
  · intro w ahead s rest starts reads
    apply Reads.peek_cons
    split
    · have found : w.token.kind = .newline := Option.some.inj ‹_›
      apply absurd starts (by rw [found]; decide)
    · have found : w.token.kind = .rightBrace := Option.some.inj ‹_›
      apply absurd starts (by rw [found]; decide)
    · cases ‹some w.token.kind = none›
    · apply recovered_reads reads

theorem elseBranch_accepts :
  Accepts (elseBranch statement) (ElseBranch clause) NoElse
  := by
  rintro w _ branch whole site read rest split rfl last
  cases whole with
  | none =>
    obtain rfl := List.map_eq_nil_iff.mp split
    exact .elseAhead_neg last.words (.pure _ _ _)
  | elseIf blank found again inner =>
    obtain ⟨lines, vs, rfl, left, tail⟩ := tokens_eq_append split
    obtain ⟨e, vs, rfl, rfl, right⟩ := tokens_eq_cons tail
    obtain ⟨i, vs, rfl, rfl, right'⟩ := tokens_eq_cons right
    rw [List.append_assoc]
    apply Reads.elseAhead_pos (by simpa [← left, tokens] using blank) found
    exact .sees_pos again (.map _ (statements.accepts _ _ _ inner site (i :: vs) rest right rfl last))
  | block blank found body =>
    obtain ⟨lines, vs, rfl, left, tail⟩ := tokens_eq_append split
    obtain ⟨e, vs, rfl, rfl, right⟩ := tokens_eq_cons tail
    rw [List.append_assoc]
    apply Reads.elseAhead_pos (by simpa [← left, tokens] using blank) found
    apply Reads.sees_neg
    · obtain ⟨brace, -, -⟩ := id body
      obtain ⟨l, vs, rfl, rfl, -⟩ := tokens_eq_cons right
      rintro _ ⟨⟩
      rw [brace]
      decide
    · apply Reads.map
      apply block_accepts statements _ _ _ _ body site vs rest right rfl trivial

end

theorem name_accepts (others : KindSet) :
  Accepts (expect .identifier others) Name.clause fun _ => True
  := by
  rintro _ _ _ ⟨ident⟩ site read rest split rfl -
  obtain ⟨v, rfl, rfl⟩ := tokens_eq_singleton split
  exact .expect ident

theorem parameters_accepts :
  Accepts parameters (Closed .rightParen Parameters).clause fun _ => True
  := by
  rintro _ _ names ⟨w, r, rfl, list, paren⟩ site read rest whole rfl -
  obtain ⟨vs, ws, rfl, left, right⟩ := tokens_eq_append whole
  obtain ⟨r, rfl, rfl⟩ := tokens_eq_singleton right
  rw [List.append_assoc]
  cases list with
  | none =>
    obtain rfl := List.map_eq_nil_iff.mp left
    apply Reads.sees_neg
    · rintro _ ⟨⟩
      rw [paren]
      decide
    · exact .bind (.expect paren) (.pure _ _ _)
  | some list =>
    obtain ⟨name, names, mid, rfl, first, others⟩ := separated_reads (.expect _ _)
      (name_accepts .empty) (fun _ _ _ => trivial) list site (r :: rest) left
      (.of_kind paren (by decide) _) trivial
    have starts := list.starts fun _ _ => Name.starts
    rw [← left] at starts
    obtain ⟨v, vs, rfl, ident⟩ := starts.exists_word
    have ident : v.token.kind = .identifier := by
      revert ident
      generalize v.token.kind = k
      revert k
      decide
    apply Reads.sees_pos ident
    apply Reads.bind (.congr (expect_of_eq ident _ _ _).symm first)
    apply Reads.bind others
    exact .bind (.expect paren) (.pure _ _ _)

/-! ### Statements -/

section

variable {expr : Rule Expr} {statement : Rule Stmt} {phrase : Phrase Expr} {clause : Clause Stmt}
  {site : Site} {read rest : List Word}

/-- A block after a condition. -/
theorem condition_reads {α : Type} (hexpr : Accepts expr phrase.clause (Stops 6))
    (statements : Statements statement clause) {next : Expr → List Stmt → Rule α} {c b : List Token}
    {e : Expr} {body : List Stmt} {a : α} {ahead : List Word} (whole : phrase c e)
    (inner : Block clause b body) (split : tokens read = c ++ b)
    (h : Reads (next e body) site ahead a rest) :
  Reads (do
    let condition ← expr
    let body ← block statement exprContinuation
    next condition body) site (read ++ ahead) a rest
  := by
  obtain ⟨vs, ws, rfl, left, right⟩ := tokens_eq_append split
  have stops : Stops 6 (tokens (ws ++ ahead)) := by
    obtain ⟨brace, -, -⟩ := id inner
    rw [tokens_append, right]
    exact .of_kind brace (by decide) _
  rw [List.append_assoc]
  apply Reads.bind (hexpr _ _ _ whole site vs (ws ++ ahead) left rfl stops)
  exact .bind (block_accepts statements _ _ _ _ inner site ws ahead right rfl trivial) h

theorem defDecl_reads (statements : Statements statement clause) {k : Word} {name l r : Token}
    {p b : List Token} {names : List String} {body : List Stmt} (ident : name.kind = .identifier)
    (paren : l.kind = .leftParen) (params : Parameters p names) (paren' : r.kind = .rightParen)
    (inner : Block clause b body) (split : tokens read = name :: l :: (p ++ r :: b)) :
  Reads (defDecl statement) site (k :: (read ++ rest)) (.define name.text names body) rest
  := by
  obtain ⟨name, vs, rfl, rfl, tail⟩ := tokens_eq_cons split
  obtain ⟨l, vs, rfl, rfl, tail'⟩ := tokens_eq_cons tail
  rw [List.append_cons] at tail'
  obtain ⟨vs, ws, rfl, left, right⟩ := tokens_eq_append tail'
  rw [List.cons_append, List.cons_append, List.append_assoc]
  apply Reads.advance_bind
  apply Reads.bind (.expect ident)
  apply Reads.bind (.expect paren)
  apply Reads.bind (parameters_accepts _ _ _ ⟨p, r, rfl, params, paren'⟩ site vs (ws ++ rest) left rfl
    trivial)
  exact .map _ (block_accepts statements _ _ _ _ inner site ws rest right rfl trivial)

theorem importStmt_reads {k : Word} {w t : List Token} {path : List String}
    (list : Separated .dot Name w path) (ends : Terminator t (tokens rest))
    (split : tokens read = w ++ t) :
  Reads importStmt site (k :: (read ++ rest)) (.use path) rest
  := by
  obtain ⟨vs, ws, rfl, left, right⟩ := tokens_eq_append split
  have halts : Halts (· = .dot) (tokens (ws ++ rest)) := by
    rw [tokens_append, right]
    apply ends.halts (by decide)
  obtain ⟨name, names, mid, rfl, first, others⟩ := separated_reads (.expect _ _)
    (name_accepts .empty) (fun _ _ _ => trivial) list site (ws ++ rest) left halts trivial
  rw [List.append_assoc]
  apply Reads.advance_bind
  apply Reads.bind first
  apply Reads.bind others
  apply ended_reads ends right rfl

theorem returnStmt_reads (hexpr : Accepts expr phrase.clause (Stops 6)) {k : Word}
    {w t : List Token} {e : Expr} (whole : phrase w e) (starts : Starts exprStart w)
    (ends : Terminator t (tokens rest)) (split : tokens read = w ++ t) :
  Reads (returnStmt expr) site (k :: (read ++ rest)) (.ret (some e)) rest
  := by
  have valued : Reads (do
      let e ← expr
      terminator exprContinuation
      return Stmt.ret (some e)) site (read ++ rest) (.ret (some e)) rest :=
    exprEnded_reads hexpr whole ends split rfl
  have starts' : Starts exprStart (tokens read) := by
    rw [split]
    apply starts.append
  obtain ⟨v, vs, rfl, first⟩ := starts'.exists_word
  apply Reads.advance_bind
  apply Reads.peek_cons
  simpa [first] using valued

theorem bareReturn_reads {k : Word} {t : List Token} (ends : Terminator t (tokens rest))
    (split : tokens read = t) :
  Reads (returnStmt expr) site (k :: (read ++ rest)) (.ret none) rest
  := by
  have bare : Reads (do
      terminator exprStart
      return Stmt.ret none) site (read ++ rest) (.ret none) rest :=
    ended_reads ends split rfl
  have halts : Halts (fun k => exprStart.contains k) (tokens (read ++ rest)) := by
    rw [tokens_append, split]
    apply ends.halts (by decide)
  apply Reads.advance_bind
  rcases ahead : read ++ rest with _ | ⟨v, ahead⟩
  · rw [ahead] at bare
    exact .peek_nil bare
  · rw [ahead] at bare halts
    have other := halts.words v rfl
    apply Reads.peek_cons
    simpa [other] using bare

theorem exprStmt_reads (hexpr : Accepts expr phrase.clause (Stops 6)) {w t : List Token} {e : Expr}
    (whole : phrase w e) (starts : Starts exprStart w) (plain : Plain w)
    (ends : Terminator t (tokens rest)) (split : tokens read = w ++ t) :
  Reads (statementOf expr statement) site (read ++ rest) (.expr e) rest
  := by
  have reads : Reads (exprStmt expr) site (read ++ rest) (.expr e) rest :=
    exprEnded_reads hexpr whole ends split rfl
  obtain ⟨vs, ws, rfl, rfl, right⟩ := tokens_eq_append split
  obtain ⟨v, vs, rfl, first⟩ := starts.exists_word
  -- a name is not the target of an assignment, because no expression goes on with its sign
  have second : ((v :: vs ++ ws ++ rest)[1]?.map fun w => w.token.kind) ≠ some .assign := by
    have halts : Halts (· = .assign) (tokens (vs ++ (ws ++ rest))) := by
      rcases vs with _ | ⟨u, vs⟩
      · rw [List.nil_append, tokens_append, right]
        apply ends.halts (by decide)
      · exact .of_kind rfl (plain u.token (by simp)) _
    intro assigns
    obtain ⟨u, next, found⟩ := Option.map_eq_some_iff.mp assigns
    apply halts.words u _ found
    simpa [List.head?_eq_getElem?] using next
  apply Reads.peek_cons
  split
  case h_8 =>
    cases Option.some.inj ‹some v.token.kind = _›
    apply Reads.lookahead_bind
    rw [if_neg fun assigns => second assigns.2, if_pos first]
    apply reads
  case h_9 => cases ‹some v.token.kind = none›
  all_goals
    have keyword := Option.some.inj ‹some v.token.kind = _›
    rw [keyword] at first
    apply absurd first (by decide)

variable (hexpr : Accepts expr phrase.clause (Stops 6)) (statements : Statements statement clause)
  (plain : ∀ w e, phrase w e → Plain w) (starts : ∀ w e, phrase w e → Starts exprStart w)

include hexpr statements plain starts in
theorem statementOf_accepts :
  Accepts (statementOf expr statement) (Form phrase clause) NoElse
  := by
  rintro w _ s whole site read rest split rfl last
  cases whole with
  | declaration found ident ends =>
    obtain ⟨k, vs, rfl, rfl, tail⟩ := tokens_eq_cons split
    obtain ⟨name, vs, rfl, rfl, right⟩ := tokens_eq_cons tail
    have halts : Halts (· = .assign) (tokens (vs ++ rest)) := by
      rw [tokens_append, right]
      apply ends.halts (by decide)
    apply Reads.peek_cons
    simp only [found]
    apply Reads.advance_bind
    apply Reads.bind (.expect ident)
    exact .sees_neg halts.words (ended_reads ends right rfl)
  | definition found ident assigns value ends =>
    obtain ⟨k, vs, rfl, rfl, tail⟩ := tokens_eq_cons split
    obtain ⟨name, vs, rfl, rfl, tail'⟩ := tokens_eq_cons tail
    obtain ⟨eq, vs, rfl, rfl, right⟩ := tokens_eq_cons tail'
    apply Reads.peek_cons
    simp only [found]
    apply Reads.advance_bind
    apply Reads.bind (.expect ident)
    apply Reads.sees_pos assigns
    apply Reads.advance_bind
    apply exprEnded_reads hexpr value ends right rfl
  | function found ident paren params paren' body =>
    obtain ⟨k, vs, rfl, rfl, right⟩ := tokens_eq_cons split
    apply Reads.peek_cons
    simp only [found]
    apply defDecl_reads statements ident paren params paren' body right
  | conditional found condition body branch =>
    obtain ⟨vs, ws, rfl, left, right⟩ := tokens_eq_append split
    obtain ⟨k, vs, rfl, rfl, inside⟩ := tokens_eq_cons left
    rw [List.append_assoc]
    apply Reads.peek_cons
    simp only [found]
    apply Reads.advance_bind
    apply condition_reads hexpr statements condition body inside
    exact .map _ (elseBranch_accepts statements _ _ _ branch site ws rest right rfl last)
  | loop found condition body =>
    obtain ⟨k, vs, rfl, rfl, right⟩ := tokens_eq_cons split
    apply Reads.peek_cons
    simp only [found]
    apply Reads.advance_bind
    apply condition_reads hexpr statements condition body right (.pure _ _ _)
  | ret found ends =>
    obtain ⟨k, vs, rfl, rfl, right⟩ := tokens_eq_cons split
    apply Reads.peek_cons
    simp only [found]
    apply bareReturn_reads ends right
  | result found value ends =>
    obtain ⟨k, vs, rfl, rfl, right⟩ := tokens_eq_cons split
    apply Reads.peek_cons
    simp only [found]
    apply returnStmt_reads hexpr value (starts _ _ value) ends right
  | use found path ends =>
    obtain ⟨k, vs, rfl, rfl, right⟩ := tokens_eq_cons split
    apply Reads.peek_cons
    simp only [found]
    apply importStmt_reads path ends right
  | execute found value ends =>
    obtain ⟨k, vs, rfl, rfl, right⟩ := tokens_eq_cons split
    apply Reads.peek_cons
    simp only [found]
    apply Reads.advance_bind
    apply exprEnded_reads hexpr value ends right rfl
  | assignment ident assigns value ends =>
    obtain ⟨name, vs, rfl, rfl, tail⟩ := tokens_eq_cons split
    obtain ⟨eq, vs, rfl, rfl, right⟩ := tokens_eq_cons tail
    apply Reads.peek_cons
    simp only [ident]
    apply Reads.lookahead_bind
    rw [if_pos (by simp [assigns])]
    apply Reads.take_bind
    apply Reads.advance_bind
    apply exprEnded_reads hexpr value ends right rfl
  | expression value ends =>
    apply exprStmt_reads hexpr value (starts _ _ value) (plain _ _ value) ends split

end

theorem statement_accepts (n : Nat) :
  Statements (statement n) (Statement n)
  := by
  refine ⟨statement_built n, statement_consumes n, Statement.stable n,
    fun _ _ _ => Statement.starts, ?_⟩
  induction n with
  | zero => exact fun _ _ _ whole => whole.elim
  | succ n ih =>
    intro w after s whole site read rest split split' last
    apply Reads.deeper
    have statements : Statements (statement n) (Statement n) :=
      ⟨statement_built n, statement_consumes n, Statement.stable n, fun _ _ _ => Statement.starts, ih⟩
    apply statementOf_accepts (expr_accepts n) statements
      (fun _ _ => Expression.plain fun _ _ => Unary.plain)
      (fun _ _ => Expression.starts fun _ _ => Unary.starts) w after s whole _ read rest split split'
      last

/-- A document of the grammar is read to its end. -/
theorem program_reads {n : Nat} {words : List Word} {ss : List Stmt} (site : Site)
    (whole : Program n (tokens words) ss) :
  Reads (program n) site words ss []
  := by
  have reads : Reads (program n) site (words ++ []) ss [] := by
    apply body_reads (statement_accepts n) (programRound_advances n) _ _ whole rfl
    · apply id
    · exact .nil
    · exact .many_stop (programRound_advances n) (.peek_nil (.pure _ _ _))
    · apply programRound_line (statement n) site
    · intro w ahead s rest starts reads
      apply Reads.peek_cons
      split
      · have found : w.token.kind = .newline := Option.some.inj ‹_›
        apply absurd starts (by rw [found]; decide)
      · have found : w.token.kind = .rightBrace := Option.some.inj ‹_›
        apply absurd starts (by rw [found]; decide)
      · cases ‹some w.token.kind = none›
      · apply recovered_reads reads
  simpa using reads

end PlanetServer.Grammar
