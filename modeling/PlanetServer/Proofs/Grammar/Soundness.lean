import PlanetServer.Proofs.Grammar.Reading
import PlanetServer.Proofs.Grammar.Shape

/-!
# The parser follows the grammar

One statement for each rule of the parser, from operands to documents. The first failure of a run
stands at the first token that no phrase goes on with, so at each place where a rule may fail the
tokens before it are completed to a phrase: with a name where an operand is missing, with a semicolon
where a statement could end, with braces where a block is missing.
-/

namespace PlanetServer.Grammar

open Rule Word Parse

/-- Some token of a kind. -/
def sample (k : Kind) : Token :=
  ⟨k, "", 0, .start⟩

/-- One more item at the end. -/
theorem Separated.concat {α : Type} {divider : Kind} {item : Phrase α} {w v : List Token}
    {d : Token} {as : List α} {a : α} (list : Separated divider item w as) (h : d.kind = divider)
    (last : item v a) :
  Separated divider item (w ++ d :: v) (as ++ [a])
  := by
  induction list with
  | last first => exact .cons first h (.last last)
  | @cons w' v' d' a' as' first h' _ ih =>
    have longer := Separated.cons first h' ih
    simpa using longer

/-- Items that are read after dividers make a list longer. -/
theorem following_along {α γ : Type} {divider : Kind} {item : Rule α} {phrase : Phrase α}
    (built : Built item) (h : Follows item phrase.clause) {clause : Clause γ}
    (prior : List Token) {w : List Token} {as : List α} {site : Site} {ahead : List Word}
    (start : Separated divider phrase w as)
    (completes : ∀ v bs, Separated divider phrase v bs → Completes clause (prior ++ v)) :
  Along clause (prior ++ w) (following divider item) site ahead
    fun bs begun _ => ∃ v, begun = prior ++ v ∧ Separated divider phrase v (as ++ bs)
  := by
  apply Along.many (following_advances built divider)
    (I := fun bs begun _ => ∃ v, begun = prior ++ v ∧ Separated divider phrase v (as ++ bs))
  · rintro bs begun ahead ⟨v, rfl, list⟩
    apply Along.sees_ite
    · intro d ahead divides _
      apply Along.advance_bind
      apply Along.sub h
      · intro u a whole
        have longer := completes _ _ (list.concat divides (whole []))
        simpa using longer
      · intro a read rest last
        apply Along.pure
        use v ++ d.token :: tokens read
        constructor
        · simp
        · simpa using list.concat divides last
    · exact .pure ⟨v, rfl, list⟩
  · exact ⟨w, rfl, by simpa using start⟩

/-! ### Expressions -/

section

variable {operand : Rule Expr} {unary : Phrase Expr}

/-- The operators of one more rank. The invariant of the repetition is that the operands read so far
make up a chain. -/
theorem layer_follows (built : Built operand) {n : Nat} {ops : List Kind} {tighter : Phrase Expr}
    (table : ∀ k : Kind, k.rank? = some (6 - n) ↔ k ∈ ops)
    (h : Follows (layer operand n) tighter.clause) :
  Follows (layer operand (n + 1)) (Chain ops tighter).clause
  := by
  intro site ahead
  rw [layer_succ]
  apply Along.sub h
  · intro v e whole
    apply Completes.whole fun _ => .single (whole [])
  · intro lhs read rest first
    apply Along.bind (Along.many (tail_advances (layer_built built n) _)
      (I := fun tails begun _ => Chain ops tighter begun (tails.foldl joinOperand lhs))
      (J := fun tails begun _ => Chain ops tighter begun (tails.foldl joinOperand lhs)) _ _)
    · intro tails begun rest chain
      exact .pure chain
    · intro tails begun ahead chain
      rcases ahead with _ | ⟨op, ahead⟩
      · exact .peek_nil (.pure chain)
      · apply Along.peek_cons
        dsimp only
        split
        · have joins := (table _).mp ‹_›
          apply Along.advance_bind
          apply Along.sub h
          · intro v e whole
            apply Completes.whole
            intro after
            simpa using Chain.join chain joins (whole [])
          · intro rhs read rest operand
            apply Along.pure
            simpa [List.foldl_append, joinOperand] using Chain.join chain joins operand
        · exact .pure chain
    · exact .single first

theorem exprOf_follows (built : Built operand) (h : Follows operand unary.clause) :
  Follows (exprOf operand) (Expression unary).clause
  := by
  apply layer_follows built (by decide)
  apply layer_follows built (by decide)
  apply layer_follows built (by decide)
  apply layer_follows built (by decide)
  apply layer_follows built (by decide)
  apply layer_follows built (by decide)
  apply h

theorem arguments_follows (built : Built operand) (h : Follows operand unary.clause) :
  Follows (arguments operand) (Closed .rightParen (Arguments unary)).clause
  := by
  have inside := exprOf_follows built h
  have closes : ∀ v args, Separated .comma (Expression unary) v args →
      Completes (Closed .rightParen (Arguments unary)).clause v := by
    intro v args list
    use [sample .rightParen], args
    exact fun _ => ⟨v, _, rfl, .some list, rfl⟩
  intro site ahead
  apply Along.sees_ite
  · intro r rest paren _
    apply Along.advance_bind
    exact .pure ⟨[], r.token, rfl, .none, paren⟩
  · apply Along.sub inside
    · intro v e whole
      apply closes v [e] (.last (whole []))
    · intro head read rest first
      apply Along.bind (following_along (exprOf_built built) inside [] (.last first) closes)
      rintro tail begun rest ⟨_, rfl, list⟩
      apply Along.expect_bind (closes begun _ list)
      intro r rest paren
      exact .pure ⟨begun, r.token, rfl, .some list, paren⟩

theorem primary_follows (built : Built operand) (h : Follows operand unary.clause) :
  Follows (primary operand) (Primary unary).clause
  := by
  have inside := exprOf_follows built h
  have completes : Completes (Primary unary).clause [] :=
    ⟨[sample .identifier], .identifier "", fun _ => .identifier rfl⟩
  rintro site (_ | ⟨w, ahead⟩)
  · exact .peek_nil (.fail (by simp) fun _ => completes)
  · apply Along.peek_cons
    split
    · exact .take_bind (.pure (.number (Option.some.inj ‹_›)))
    · exact .take_bind (.pure (.string (Option.some.inj ‹_›)))
    · exact .take_bind (.pure (.identifier (Option.some.inj ‹_›)))
    · exact .advance_bind (.pure (.true (Option.some.inj ‹_›)))
    · exact .advance_bind (.pure (.false (Option.some.inj ‹_›)))
    · have paren : w.token.kind = .leftParen := Option.some.inj ‹_›
      have closes : ∀ v e, Expression unary v e → Completes (Primary unary).clause ([w.token] ++ v) :=
        fun v e whole => ⟨[sample .rightParen], e, fun _ => .parens paren whole rfl⟩
      apply Along.advance_bind
      apply Along.sub inside
      · exact fun v e whole => closes v e (whole [])
      · intro e read rest whole
        apply Along.expect_bind (closes _ e whole)
        intro r rest paren'
        exact .pure (.parens paren whole paren')
    · exact .fail (by simp) fun _ => completes

/-- A simple expression with its calls and members. The invariant of the repetition is that what was
read so far is such an expression. -/
theorem suffixed_follows (built : Built operand) (h : Follows operand unary.clause) :
  Follows (suffixed operand) (Postfix unary).clause
  := by
  intro site ahead
  apply Along.sub (primary_follows built h)
  · exact fun v e whole => .whole fun _ => .primary (whole [])
  · intro head read rest first
    apply Along.bind (Along.many (suffix_advances built)
      (I := fun suffixes begun _ => Postfix unary begun (suffixes.foldl Suffix.apply head))
      (J := fun suffixes begun _ => Postfix unary begun (suffixes.foldl Suffix.apply head)) _ _)
    · exact fun suffixes begun rest so => .pure so
    · intro suffixes begun ahead so
      rcases ahead with _ | ⟨w, ahead⟩
      · exact .peek_nil (.pure so)
      · apply Along.peek_cons
        split
        · have paren : w.token.kind = .leftParen := Option.some.inj ‹_›
          apply Along.advance_bind
          apply Along.sub (arguments_follows built h)
          · intro v args whole
            obtain ⟨u, r, rfl, list, paren'⟩ := whole []
            apply Completes.whole
            intro after
            simpa using Postfix.call so paren list paren'
          · rintro args read rest ⟨u, r, split, list, paren'⟩
            apply Along.pure
            have longer := Postfix.call so paren list paren'
            simpa [List.foldl_append, Suffix.apply, split] using longer
        · have dot : w.token.kind = .dot := Option.some.inj ‹_›
          have member : ∀ name : Token, name.kind = .identifier →
              Postfix unary (begun ++ [w.token] ++ [name])
                (.member (suffixes.foldl Suffix.apply head) name.text) := by
            intro name ident
            simpa using Postfix.member so dot ident
          apply Along.advance_bind
          apply Along.expect_bind
          · exact ⟨[sample .identifier], _, fun _ => member _ rfl⟩
          · intro name rest ident
            apply Along.pure
            simpa [List.foldl_append, Suffix.apply] using member name.token ident
        · exact .pure so
    · exact .primary first

end

theorem unary_follows (n : Nat) :
  Follows (unary n) (Unary n).clause
  := by
  induction n with
  | zero => exact fun site ahead => .fail (by simp) fun deep => absurd rfl deep
  | succ n ih =>
    have signed : ∀ {op site} {w : Word} {ahead}, w.token.kind = op → op = .minus ∨ op = .bang →
        Along (Unary (n + 1)).clause [] (do
          Rule.advance
          return Expr.unary op (← unary n)) site (w :: ahead)
          fun e begun _ => Unary (n + 1) begun e := by
      rintro op site w ahead rfl sign
      apply Along.advance_bind
      apply Along.sub ih
      · exact fun v e whole => .whole fun _ => Signed.sign sign (whole [])
      · exact fun e read rest whole => .pure (Signed.sign sign whole)
    have plain : Follows (suffixed (unary n)) (Unary (n + 1)).clause :=
      (suffixed_follows (unary_built n) ih).mono fun _ _ _ whole => Signed.plain whole
    intro site ahead
    apply Along.deeper
    rcases ahead with _ | ⟨w, ahead⟩
    · exact .peek_nil (plain _ _)
    · apply Along.peek_cons
      split
      · apply signed (Option.some.inj ‹_›) (.inl rfl)
      · apply signed (Option.some.inj ‹_›) (.inr rfl)
      · apply plain

theorem expr_follows (n : Nat) :
  Follows (expr n) (Expression (Unary n)).clause
  := exprOf_follows (unary_built n) (unary_follows n)

/-! ### Statements -/

theorem terminator_follows (others : KindSet) :
  Follows (terminator others) fun w after _ => Terminator w after
  := by
  rintro site (_ | ⟨w, ahead⟩)
  · exact .peek_nil (.pure .finish)
  · apply Along.peek_cons
    split
    · exact .advance (.semicolon (Option.some.inj ‹_›))
    · exact .advance (.newline (Option.some.inj ‹_›))
    · cases ‹some w.token.kind = none›
    · exact .pure (.brace (Option.some.inj ‹_›))
    · exact .fail (by simp) fun _ => ⟨[sample .semicolon], (), fun _ => .semicolon rfl⟩

/-- The end of a statement that lacks nothing else. -/
theorem ended_along {clause : Clause Stmt} {begun : List Token} {s : Stmt} {others : KindSet}
    {site : Site} {ahead : List Word}
    (h : ∀ t after, Terminator t after → clause (begun ++ t) after s) :
  Along clause begun (do
    terminator others
    return s) site ahead fun s begun rest => clause begun (tokens rest) s
  := by
  apply Along.sub (terminator_follows others)
  · exact fun t _ whole => .whole fun after => h t after (whole after)
  · exact fun _ read rest whole => .pure (h _ _ whole)

/-- A statement that lacks an expression and its end. -/
theorem exprEnded_along {clause : Clause Stmt} {begun : List Token} {expr : Rule Expr}
    {phrase : Phrase Expr} (hexpr : Follows expr phrase.clause) {s : Expr → Stmt} {others : KindSet}
    {site : Site} {ahead : List Word}
    (h : ∀ e w t after, phrase w e → Terminator t after → clause (begun ++ w ++ t) after (s e)) :
  Along clause begun (do
    let e ← expr
    terminator others
    return s e) site ahead fun s begun rest => clause begun (tokens rest) s
  := by
  apply Along.sub hexpr
  · intro v e whole
    use [sample .semicolon], s e
    exact fun after => h e v _ after (whole []) (.semicolon rfl)
  · intro e read rest whole
    apply ended_along
    intro t after ends
    apply h e _ t after whole ends

section

variable {expr : Rule Expr} {statement : Rule Stmt} {phrase : Phrase Expr} {clause : Clause Stmt}
  (hexpr : Follows expr phrase.clause) {site : Site} {w : Word} {ahead : List Word}

include hexpr in
theorem varDecl_along (found : w.token.kind = .kwVar) :
  Along (Form phrase clause) [] (varDecl expr) site (w :: ahead)
    fun s begun rest => Form phrase clause begun (tokens rest) s
  := by
  have declares : ∀ name : Token, name.kind = .identifier → ∀ t after, Terminator t after →
      Form phrase clause ([w.token, name] ++ t) after (.var name.text none) :=
    fun name ident t after ends => .declaration found ident ends
  apply Along.advance_bind
  apply Along.expect_bind
  · exact ⟨[sample .identifier, sample .semicolon], _,
      fun after => declares (sample .identifier) rfl _ after (.semicolon rfl)⟩
  · intro name rest ident
    apply Along.sees_ite
    · intro eq rest assigns _
      apply Along.advance_bind
      apply exprEnded_along hexpr
      intro e v t after whole ends
      simpa using Form.definition found ident assigns whole ends
    · apply ended_along
      intro t after ends
      apply declares name.token ident t after ends

include hexpr in
theorem returnStmt_along (found : w.token.kind = .kwReturn) :
  Along (Form phrase clause) [] (returnStmt expr) site (w :: ahead)
    fun s begun rest => Form phrase clause begun (tokens rest) s
  := by
  apply Along.advance_bind
  have bare : ∀ {others : KindSet}, Along (Form phrase clause) [w.token] (do
      terminator others
      return Stmt.ret none) site ahead fun s begun rest => Form phrase clause begun (tokens rest) s :=
    ended_along fun t after ends => .ret found ends
  have valued : Along (Form phrase clause) [w.token] (do
      let e ← expr
      terminator exprContinuation
      return Stmt.ret (some e)) site ahead
      fun s begun rest => Form phrase clause begun (tokens rest) s :=
    exprEnded_along hexpr fun e v t after whole ends => .result found whole ends
  rcases ahead with _ | ⟨v, ahead⟩
  · exact .peek_nil bare
  · apply Along.peek_cons
    split
    · apply valued
    · apply bare

theorem name_follows (others : KindSet) :
  Follows (expect .identifier others) Name.clause
  := by
  have completes : Completes Name.clause [] := ⟨[sample .identifier], _, fun _ => .mk rfl⟩
  rintro site (_ | ⟨w, ahead⟩)
  · exact .inr ⟨_, [], .fail (by simp) site [], [], rfl, fun _ => completes⟩
  · by_cases ident : w.token.kind = .identifier
    · apply Outcome.congr (expect_of_eq ident others site ahead)
      exact .reads (.take_cons site w ahead) ⟨[w], rfl, .mk ident⟩
    · apply Outcome.congr (expect_of_ne ident others site ahead)
      exact .inr ⟨_, _, .fail (by simp) site _, [], rfl, fun _ => completes⟩

theorem importStmt_along (found : w.token.kind = .kwImport) :
  Along (Form phrase clause) [] importStmt site (w :: ahead)
    fun s begun rest => Form phrase clause begun (tokens rest) s
  := by
  have ends : ∀ path v, Separated .dot Name v path → ∀ t after, Terminator t after →
      Form phrase clause ([w.token] ++ v ++ t) after (.use path) :=
    fun path v list t after ends => .use found list ends
  have completes : ∀ v path, Separated .dot Name v path →
      Completes (Form phrase clause) ([w.token] ++ v) :=
    fun v path list => ⟨[sample .semicolon], _, fun after => ends path v list _ after (.semicolon rfl)⟩
  apply Along.advance_bind
  apply Along.sub (name_follows .empty)
  · exact fun v name whole => completes v [name] (.last (whole []))
  · intro head read rest first
    apply Along.bind (following_along (.expect _ _) (name_follows .empty) [w.token] (.last first)
      completes)
    rintro tail _ rest ⟨v, rfl, list⟩
    apply ended_along
    apply ends _ v list

include hexpr in
theorem executeStmt_along (found : w.token.kind = .kwExecute) :
  Along (Form phrase clause) [] (executeStmt expr) site (w :: ahead)
    fun s begun rest => Form phrase clause begun (tokens rest) s
  := by
  apply Along.advance_bind
  apply exprEnded_along hexpr
  exact fun e v t after whole ends => .execute found whole ends

include hexpr in
theorem assignment_along {eq : Word} (found : w.token.kind = .identifier)
    (assigns : eq.token.kind = .assign) :
  Along (Form phrase clause) [] (assignment expr) site (w :: eq :: ahead)
    fun s begun rest => Form phrase clause begun (tokens rest) s
  := by
  apply Along.take_bind
  apply Along.advance_bind
  apply exprEnded_along hexpr
  exact fun e v t after whole ends => .assignment found assigns whole ends

include hexpr in
theorem exprStmt_along :
  Along (Form phrase clause) [] (exprStmt expr) site ahead
    fun s begun rest => Form phrase clause begun (tokens rest) s
  := by
  apply exprEnded_along hexpr
  exact fun e v t after whole ends => .expression whole ends

end

/-! ### Blocks -/

/-- Tokens that make up a body with whatever body comes after them. What comes after may end the last
statement if the tokens ahead do. -/
def Open (statement : Clause Stmt) (begun ahead : List Token) (ss : List Stmt) : Prop :=
  ∀ w after ss', (Ends ahead → Ends (w ++ after)) → Body statement w after ss' →
    Body statement (begun ++ w) after (ss ++ ss')

namespace Open

variable {clause : Clause Stmt} {begun ahead : List Token} {ss : List Stmt}

theorem nil (ahead : List Token) :
  Open clause [] ahead []
  := fun _ _ _ _ body => body

theorem newline {t : Token} (h : Open clause begun (t :: ahead) ss) (found : t.kind = .newline) :
  Open clause (begun ++ [t]) ahead ss
  := by
  intro w after ss' _ body
  have longer := h (t :: w) after ss' id (.newline found body)
  simpa using longer

theorem statement {v : List Token} {s : Stmt} (stable : Stable clause)
    (h : Open clause begun (v ++ ahead) ss) (whole : clause v ahead s) :
  Open clause (begun ++ v) ahead (ss ++ [s])
  := by
  intro w after ss' ends body
  have first := stable v ahead (w ++ after) s whole ends
  have longer := h (v ++ w) after (s :: ss') ?_ (.cons first body)
  · simpa using longer
  · cases v with
    | nil => apply ends
    | cons t v => apply id

/-- What was read so far is a body if a statement may end there. -/
theorem close (h : Open clause begun ahead ss) {after : List Token} (ends : Ends after) :
  Body clause begun after ss
  := by
  have whole := h [] after [] (fun _ => ends) .nil
  simpa using whole

/-- A statement that was begun is completed, and then the body is closed. -/
theorem broken {v : List Token} (h : Open clause begun ahead ss) (more : ¬ Ends ahead)
    (beginning : Completes clause v) (after : List Token) :
  ∃ w ss, Body clause (begun ++ v ++ w) after ss
  := by
  obtain ⟨w, s, whole⟩ := beginning
  use w, ss ++ [s]
  have body : Body clause (v ++ w) after [s] := by
    simpa using Body.cons (whole ([] ++ after)) .nil
  have longer := h (v ++ w) after [s] (absurd · more) body
  simpa using longer

end Open

theorem not_ends {t : Token} {ahead : List Token} (h : t.kind ≠ .rightBrace) :
  ¬ Ends (t :: ahead)
  := h

section

variable {statement : Rule Stmt} {clause : Clause Stmt} (hstatement : Follows statement clause)
  (built : Built statement) (consumes : ∀ site ahead, ConsumesAt statement site ahead)
  (stable : Stable clause)

include hstatement in
theorem recovered_along {γ : Type} {outer : Clause γ} {begun : List Token} {site : Site}
    {ahead : List Word} {P : Round Stmt → List Token → List Word → Prop}
    (completes : ∀ read stop, ahead = read ++ stop → Completes clause (tokens read) →
      Completes outer (begun ++ tokens read))
    (item : ∀ s read rest, ahead = read ++ rest → clause (tokens read) (tokens rest) s →
      P (.item s) (begun ++ tokens read) rest) :
  Along outer begun (recovered statement) site ahead P
  := by
  rcases hstatement site ahead with ⟨s, rest, reads, read, split, whole⟩
    | ⟨cause, stop, breaks, read, split, beginning⟩
  · left
    use .item s, rest
    constructor
    · exact .bind (.attempt reads) (.pure _ _ _)
    · exact ⟨read, split, item s read rest split whole⟩
  · right
    use cause, stop
    constructor
    · exact .bind (.attempt breaks)
    · exact ⟨read, split, fun shallow => completes read stop split (beginning shallow)⟩

include hstatement built consumes stable in
/-- A block. The invariant of the repetition is that what was read after the brace makes up a body
with whatever body comes after it. -/
theorem block_follows (others : KindSet) :
  Follows (block statement others) (Block clause).clause
  := by
  intro site ahead
  apply Along.expect_bind
  · exact ⟨[sample .leftBrace, sample .rightBrace], [], fun _ => .mk (w := []) rfl .nil rfl⟩
  · intro l ahead brace
    apply Along.many (blockRound_advances built consumes)
      (I := fun ss begun rest => ∃ b, begun = l.token :: b ∧ Open clause b (tokens rest) ss)
    · rintro ss _ ahead ⟨b, rfl, opened⟩
      have closes : ∀ r : Token, r.kind = .rightBrace →
          Block clause (l.token :: b ++ [r]) ss :=
        fun r brace' => .mk brace (opened.close brace') brace'
      rcases ahead with _ | ⟨w, ahead⟩
      · apply Along.peek_nil
        exact .fail (by simp) fun _ => ⟨[sample .rightBrace], ss, fun _ => closes _ rfl⟩
      · apply Along.peek_cons
        split
        · apply Along.advance_bind
          apply Along.pure
          exact ⟨b ++ [w.token], rfl, opened.newline (Option.some.inj ‹_›)⟩
        · apply Along.advance_bind
          exact .pure (closes w.token (Option.some.inj ‹_›))
        · cases ‹some w.token.kind = none›
        · have more : ¬ Ends (tokens (w :: ahead)) := not_ends (by simp_all)
          apply recovered_along hstatement
          · intro read stop _ beginning
            obtain ⟨v, ss, body⟩ := opened.broken more beginning [sample .rightBrace]
            use v ++ [sample .rightBrace], ss
            intro after
            simpa using Block.mk brace body rfl
          · intro s read rest split whole
            use b ++ tokens read
            rw [split, tokens_append] at opened
            exact ⟨rfl, opened.statement stable whole⟩
    · exact ⟨[], rfl, .nil _⟩

include hstatement built consumes stable in
theorem elseBranch_follows (starts : ∀ after s, ¬ clause [] after s) :
  Follows (elseBranch statement) (ElseBranch clause)
  := by
  intro site ahead
  apply Along.elseAhead_ite
  · intro lines e ahead blank found _
    have blank' : ∀ t ∈ tokens lines, t.kind = .newline := by
      simpa [tokens] using blank
    apply Along.bind_of_reads (skipNewlines_reads blank (by simp [found]))
    apply Along.advance_bind
    have inBraces : ∀ w ss, Block clause w ss →
        ∀ after, ElseBranch clause (tokens lines ++ [e.token] ++ w) after (some ss) := by
      intro w ss body after
      simpa using ElseBranch.block blank' found body
    apply Along.sees_ite
    · rintro i ahead again rfl
      have again' : ∀ w after s, clause (i.token :: w) after s →
          ElseBranch clause (tokens lines ++ [e.token] ++ i.token :: w) after (some [s]) := by
        intro w after s whole
        simpa using ElseBranch.elseIf blank' found again whole
      apply Along.inside hstatement
      · rintro (_ | ⟨i', read⟩) stop split ⟨more, s, whole⟩
        -- nothing of the inner statement was read, so a block may stand there too
        · use [sample .leftBrace, sample .rightBrace], some []
          have body : Block clause ([sample .leftBrace] ++ [] ++ [sample .rightBrace]) [] :=
            .mk rfl .nil rfl
          simpa using inBraces _ [] body
        · obtain ⟨rfl, -⟩ := List.cons.inj split
          use more, some [s]
          intro after
          simpa using again' (tokens read ++ more) after s (whole after)
      · rintro s (_ | ⟨i', read⟩) rest split whole
        · apply absurd whole (starts _ s)
        · obtain ⟨rfl, -⟩ := List.cons.inj split
          exact .pure (again' _ _ s whole)
    · apply Along.sub (block_follows hstatement built consumes stable _)
      · exact fun w ss whole => .whole (inBraces w ss (whole []))
      · exact fun ss read rest whole => .pure (inBraces _ ss whole _)
  · exact .pure .none

theorem parameters_follows :
  Follows parameters (Closed .rightParen Parameters).clause
  := by
  have closes : ∀ v names, Parameters v names → Completes (Closed .rightParen Parameters).clause v :=
    fun v names list => ⟨[sample .rightParen], names, fun _ => ⟨v, _, rfl, list, rfl⟩⟩
  intro site ahead
  apply Along.sees_ite
  · intro head ahead ident _
    apply Along.take_bind
    apply Along.bind (following_along (.expect _ _) (name_follows .empty) [] (.last (.mk ident))
      fun v names list => closes v names (.some list))
    rintro tail v rest ⟨_, rfl, list⟩
    apply Along.expect_bind (closes v _ (.some list))
    intro r rest paren
    exact .pure ⟨v, r.token, rfl, .some list, paren⟩
  · apply Along.expect_bind (closes [] [] .none)
    intro r rest paren
    exact .pure ⟨[], r.token, rfl, .none, paren⟩

section

variable {expr : Rule Expr} {phrase : Phrase Expr} (hexpr : Follows expr phrase.clause)
  {site : Site} {w : Word} {ahead : List Word}

include hstatement built consumes stable in
theorem defDecl_along (found : w.token.kind = .kwDef) :
  Along (Form phrase clause) [] (defDecl statement) site (w :: ahead)
    fun s begun rest => Form phrase clause begun (tokens rest) s
  := by
  have defines : ∀ name l : Token, name.kind = .identifier → l.kind = .leftParen →
      ∀ p names, Closed .rightParen Parameters p names → ∀ b body, Block clause b body →
      ∀ after, Form phrase clause ([w.token] ++ [name] ++ [l] ++ p ++ b) after
        (.define name.text names body) := by
    rintro name l ident paren p names ⟨v, r, rfl, list, paren'⟩ b body inner after
    simpa using Form.function found ident paren list paren' inner
  have braces : Block clause [sample .leftBrace, sample .rightBrace] [] :=
    .mk (w := []) rfl .nil rfl
  have bare : Closed .rightParen Parameters [sample .rightParen] [] := ⟨[], _, rfl, .none, rfl⟩
  apply Along.advance_bind
  apply Along.expect_bind
  · apply Completes.append [sample .identifier]
    apply Completes.append [sample .leftParen]
    apply Completes.append [sample .rightParen]
    apply Completes.append [sample .leftBrace, sample .rightBrace]
    exact .whole (defines _ _ rfl rfl _ _ bare _ _ braces)
  · intro name rest ident
    apply Along.expect_bind
    · apply Completes.append [sample .leftParen]
      apply Completes.append [sample .rightParen]
      apply Completes.append [sample .leftBrace, sample .rightBrace]
      exact .whole (defines _ _ ident rfl _ _ bare _ _ braces)
    · intro l rest paren
      apply Along.sub parameters_follows
      · intro p names list
        apply Completes.append [sample .leftBrace, sample .rightBrace]
        exact .whole (defines _ _ ident paren _ _ (list []) _ _ braces)
      · intro names read rest list
        apply Along.sub (block_follows hstatement built consumes stable _)
        · exact fun b body inner => .whole (defines _ _ ident paren _ _ list _ _ (inner []))
        · exact fun body read' rest inner => .pure (defines _ _ ident paren _ _ list _ _ inner _)

include hexpr hstatement built consumes stable in
/-- A block after a condition. -/
theorem condition_along {γ : Type} {outer : Clause γ} {begun : List Token} {α : Type}
    {next : Expr → List Stmt → Rule α} {P : α → List Token → List Word → Prop}
    (completes : ∀ c e b body, phrase c e → Block clause b body → Completes outer (begun ++ c ++ b))
    (h : ∀ e body c b rest, phrase c e → Block clause b body →
      Along outer (begun ++ c ++ b) (next e body) site rest P) :
  Along outer begun (do
    let condition ← expr
    let body ← block statement exprContinuation
    next condition body) site ahead P
  := by
  apply Along.sub hexpr
  · intro c e whole
    apply Completes.append [sample .leftBrace, sample .rightBrace]
    apply completes c e _ [] (whole []) (.mk (w := []) rfl .nil rfl)
  · intro e read rest whole
    apply Along.sub (block_follows hstatement built consumes stable _)
    · exact fun b body whole' => completes _ e b body whole (whole' [])
    · exact fun body read' rest whole' => h e body _ _ rest whole whole'

include hexpr hstatement built consumes stable in
theorem whileStmt_along (found : w.token.kind = .kwWhile) :
  Along (Form phrase clause) [] (whileStmt expr statement) site (w :: ahead)
    fun s begun rest => Form phrase clause begun (tokens rest) s
  := by
  apply Along.advance_bind
  apply condition_along hstatement built consumes stable hexpr
  · exact fun c e b body whole inner => .whole fun _ => .loop found whole inner
  · exact fun e body c b rest whole inner => .pure (.loop found whole inner)

include hexpr hstatement built consumes stable in
theorem ifStmt_along (starts : ∀ after s, ¬ clause [] after s) (found : w.token.kind = .kwIf) :
  Along (Form phrase clause) [] (ifStmt expr statement) site (w :: ahead)
    fun s begun rest => Form phrase clause begun (tokens rest) s
  := by
  apply Along.advance_bind
  have branches : ∀ c e b body, phrase c e → Block clause b body →
      ∀ v after branch, ElseBranch clause v after branch →
      Form phrase clause ([w.token] ++ c ++ b ++ v) after (.cond e body branch) :=
    fun c e b body whole inner v after branch last => .conditional found whole inner last
  apply condition_along hstatement built consumes stable hexpr
  · intro c e b body whole inner
    apply Completes.whole
    intro after
    simpa using branches c e b body whole inner [] after none .none
  · intro e body c b rest whole inner
    apply Along.sub (elseBranch_follows hstatement built consumes stable starts)
    · intro v branch last
      exact .whole fun after => branches c e b body whole inner v after branch (last after)
    · exact fun branch read rest last => .pure (branches c e b body whole inner _ _ branch last)

include hexpr hstatement built consumes stable in
theorem statementOf_follows (starts : ∀ after s, ¬ clause [] after s) :
  Follows (statementOf expr statement) (Form phrase clause)
  := by
  have completes : Completes (Form phrase clause) [] :=
    ⟨[sample .kwReturn, sample .semicolon], _, fun _ => .ret rfl (.semicolon rfl)⟩
  rintro site (_ | ⟨w, ahead⟩)
  · exact .peek_nil (.fail (by simp) fun _ => completes)
  · apply Along.peek_cons
    split
    · apply varDecl_along hexpr (Option.some.inj ‹_›)
    · apply defDecl_along hstatement built consumes stable (Option.some.inj ‹_›)
    · apply ifStmt_along hstatement built consumes stable hexpr starts (Option.some.inj ‹_›)
    · apply whileStmt_along hstatement built consumes stable hexpr (Option.some.inj ‹_›)
    · apply returnStmt_along hexpr (Option.some.inj ‹_›)
    · apply importStmt_along (Option.some.inj ‹_›)
    · apply executeStmt_along hexpr (Option.some.inj ‹_›)
    · cases Option.some.inj ‹some w.token.kind = _›
      apply Along.lookahead_bind
      split
      · rcases ahead with _ | ⟨eq, ahead⟩
        · simp_all
        · apply assignment_along hexpr (by simp_all) (by simp_all)
      · split
        · apply exprStmt_along hexpr
        · exact .fail (by simp) fun _ => completes
    · cases ‹some w.token.kind = none›

end

end

theorem statement_follows (n : Nat) :
  Follows (statement n) (Statement n)
  := by
  induction n with
  | zero => exact fun site ahead => .fail (by simp) fun deep => absurd rfl deep
  | succ n ih =>
    intro site ahead
    apply Along.deeper
    apply statementOf_follows ih (statement_built n) (statement_consumes n) (Statement.stable n)
      (expr_follows n)
    exact fun after s whole => whole.starts

/-- A document. A brace that closes nothing is where the run breaks, and what stands before it is a
document of its own. -/
theorem program_along (n : Nat) (site : Site) (ahead : List Word) :
  Along (Program n).clause [] (program n) site ahead
    fun ss begun rest => rest = [] ∧ Program n begun ss
  := by
  apply Along.many (programRound_advances n)
    (I := fun ss begun rest => Open (Statement n) begun (tokens rest) ss)
  · intro ss begun ahead opened
    have whole : Program n begun ss := opened.close trivial
    rcases ahead with _ | ⟨w, ahead⟩
    · exact .peek_nil (.pure ⟨rfl, whole⟩)
    · apply Along.peek_cons
      split
      · apply Along.advance_bind
        exact .pure (opened.newline (Option.some.inj ‹_›))
      · right
        use .noViable, w :: ahead
        constructor
        · exact .bind (.report (by simp) site (w :: ahead))
        · exact ⟨[], rfl, fun _ => .whole fun _ => by simpa using whole⟩
      · cases ‹some w.token.kind = none›
      · have more : ¬ Ends (tokens (w :: ahead)) := not_ends (by simp_all)
        apply recovered_along (statement_follows n)
        · intro read stop _ beginning
          obtain ⟨v, ss, body⟩ := opened.broken more beginning []
          exact ⟨v, ss, fun _ => body⟩
        · intro s read rest split whole
          rw [split, tokens_append] at opened
          apply opened.statement (Statement.stable n) whole
  · exact .nil _

end PlanetServer.Grammar
