import PlanetServer.Proofs.Grammar.Completeness
import PlanetServer.Proofs.Rule.Levels
import PlanetServer.Proofs.Rule.Pieces

/-!
# Documents in a block

A document and a block are read by two different repetitions. The one for documents reports a closing
brace and goes on, and it ends at the end of the document. The one for blocks ends at a closing brace, and
the end of the document is a failure. Where neither makes a difference, what is read in a block is what is
read as a document, failures and recovery included.

* `Parse.block_encloses` compares the two repetitions.
* `Rule.enclosed` is the view of a document that stands one level deeper and further down.
* `Program.loop_encloses` says what is read from a document in the body of a loop.
-/

namespace PlanetServer

open Rule

/-! ### One level deeper -/

/-- The failure as it is met where one more level is nested. Levels do not show in failures of unreadable
tokens. -/
def Failure.inside (f : Failure) : Failure :=
  if f.cause = .unreadable then f else ⟨f.offending, f.mark, f.cause, f.depth + 1⟩

/-- A failure says the same wherever it is met. -/
theorem Failure.message_inside (f : Failure) :
  f.inside.message = f.message
  := by
  unfold inside
  split
  · rfl
  · cases f with
    | mk offending mark cause depth =>
      cases cause <;> rfl

/-- The failure in a document that stands in a block, with some tokens and lines before it. -/
def Failure.enclose (count lines : Nat) (f : Failure) : Failure :=
  (f.shift count lines).inside

theorem Failure.offending_enclose (count lines : Nat) (f : Failure) :
  (f.enclose count lines).offending = f.offending.map (Token.shift count lines)
  := by
  unfold enclose inside
  split
  · rfl
  · rfl

namespace Rule

variable (count lines : Nat)

theorem unreadable_enclose (ts : List Token) :
  unreadable (ts.map (Token.shift count lines))
    = (unreadable ts).map (Failure.enclose count lines)
  := by
  rw [unreadable_shift]
  apply List.map_congr_left
  intro f member
  have cause := cause_of_mem_unreadable member
  rw [Failure.enclose, Failure.inside, Failure.shift, if_pos cause]

theorem failureAt_enclose {cause : Cause} (real : cause ≠ .unreadable) (site : Site)
    (ahead : List Word) :
  failureAt cause ⟨site.finish.down lines, site.depth + 1⟩ (ahead.map (Word.shift count lines))
    = (failureAt cause site ahead).enclose count lines
  := by
  cases ahead with
  | nil => simp [failureAt, Failure.enclose, Failure.inside, Failure.shift, real]
  | cons w ahead => simp [failureAt, Failure.enclose, Failure.inside, Failure.shift, Word.shift, real]

/-- A document that stands in a block, with some tokens and lines before it, as a view of the
document. -/
def enclosed : View where
  word := Word.shift count lines
  finish := Mark.down lines
  failures := List.map (Failure.enclose count lines)
  depth := (· + 1)
  kind := Word.shift_kind count lines
  text := Word.shift_text count lines
  level _ := rfl
  append _ _ := List.map_append
  trail w := unreadable_enclose count lines w.trail
  next _ site ahead real := congrArg List.singleton (failureAt_enclose count lines real site ahead)

end Rule

/-! ### The two repetitions -/

namespace Parse

variable {site : Site} {w close : Word} {ahead rest : List Word}

/-- The two repetitions do the same before every word that is no closing brace. -/
theorem blockRound_eq_programRound {statement : Rule Stmt} (other : w.token.kind ≠ .rightBrace) :
  blockRound statement site (w :: ahead) = programRound statement site (w :: ahead)
  := by
  by_cases line : w.token.kind = .newline
  · rw [blockRound_newline line, programRound_newline line]
  · rw [blockRound_other line other, programRound_other line other]

/-- A closing brace that is next in a document is at fault. -/
theorem program_brace {n : Nat} (brace : w.token.kind = .rightBrace) :
  failureAt .noViable site (w :: ahead) ∈ (program n site (w :: ahead)).failures
  := by
  rw [program, many_of_skip (programRound_advances n) (programRound_brace brace)]
  apply List.mem_append_left _ (List.mem_cons_self ..)

/-- The failures of a document that ends too early, or in which a closing brace is at fault. -/
def Unbalanced (failures : List Failure) : Prop :=
  ∃ f ∈ failures, ∀ t, f.offending = some t → t.kind = .rightBrace

theorem Unbalanced.append_right {gs : List Failure} (h : Unbalanced gs) (fs : List Failure) :
  Unbalanced (fs ++ gs)
  := by
  obtain ⟨f, member, fault⟩ := h
  exact ⟨f, List.mem_append_right fs member, fault⟩

theorem Unbalanced.of_enclose {count lines : Nat} {fs : List Failure}
    (h : Unbalanced (fs.map (Failure.enclose count lines))) :
  Unbalanced fs
  := by
  obtain ⟨_, reported, fault⟩ := h
  obtain ⟨f, member, rfl⟩ := List.mem_map.mp reported
  refine ⟨f, member, fun t found => ?_⟩
  apply fault (t.shift count lines)
  rw [Failure.offending_enclose, found, Option.map_some]

/-- A document whose last word ends a line, and the same words in a block that is closed after them.
The induction is on the words that are left, with a round of both repetitions in each step. -/
theorem block_continues {n : Nat} {t : Word} (seam : Seam t t (close :: rest))
    (brace : close.token.kind = .rightBrace) (finish finish' : Mark) (depth : Nat) (s : List Word)
    (balanced : ¬ Unbalanced (program n ⟨finish, depth⟩ (s ++ [t])).failures) :
  many (blockRound (statement n)) ⟨finish', depth⟩ (s ++ t :: close :: rest)
    = ⟨(program n ⟨finish, depth⟩ (s ++ [t])).value, rest,
        (program n ⟨finish, depth⟩ (s ++ [t])).failures ++ unreadable close.trail⟩
  := by
  have advances := programRound_advances n
  have advances' := blockRound_advances (statement_built n) (statement_consumes n)
  induction length : s.length using Nat.strongRecOn generalizing s with
  | _ length' ih =>
    subst length
    obtain ⟨w, ws, first⟩ : ∃ w ws, s ++ [t] = w :: ws := by
      cases s with
      | nil => exact ⟨t, [], rfl⟩
      | cons w s => exact ⟨w, s ++ [t], rfl⟩
    obtain ⟨ws', first'⟩ : ∃ ws', s ++ t :: close :: rest = w :: ws' := by
      have longer : s ++ t :: close :: rest = (s ++ [t]) ++ close :: rest := by simp
      rw [longer, first]
      exact ⟨_, rfl⟩
    have other : w.token.kind ≠ .rightBrace := by
      intro found
      apply balanced
      rw [first]
      refine ⟨_, program_brace found, ?_⟩
      rintro _ ⟨⟩
      apply found
    have round' : blockRound (statement n) ⟨finish', depth⟩ (s ++ t :: close :: rest)
        = programRound (statement n) ⟨finish', depth⟩ (s ++ t :: close :: rest) := by
      rw [first', blockRound_eq_programRound other]
    obtain ⟨r, found, more⟩ : AnswersAt (fun r => r ≠ .stop) (programRound (statement n))
        ⟨finish, depth⟩ (s ++ [t]) := by
      rw [first]
      apply programRound_answersAt
    unfold program at balanced ih ⊢
    rcases programRound_continues seam n s finish finish' depth with ⟨f, member, missing⟩
      | ⟨value, s', failures, run, run'⟩ | ⟨r', failures, -, run, run'⟩
    · have truncated : Truncated (many (programRound (statement n)) ⟨finish, depth⟩
          (s ++ [t])).failures := by
        rw [many_eq advances]
        apply Truncated.bind ⟨f, member, missing⟩
      obtain ⟨g, reported, nowhere⟩ := truncated
      exact absurd ⟨g, reported, by simp [nowhere]⟩ balanced
    · obtain rfl : value = some r := by rw [run] at found; exact found
      have shorter := advances ⟨finish, depth⟩ (s ++ [t])
      unfold AdvancesAt at shorter
      rw [run] at shorter
      rw [many_of_next advances run more] at balanced ⊢
      rw [many_of_next advances' (round'.trans run') more,
        ih s'.length (by simpa [more] using shorter) s' (balanced <| ·.append_right _) rfl]
      simp
    · obtain rfl : r' = r := by rw [run] at found; exact Option.some.inj found
      have ended : many (programRound (statement n)) ⟨finish, depth⟩ [] = ⟨some [], [], []⟩ := rfl
      have closed : many (blockRound (statement n)) ⟨finish', depth⟩ (close :: rest)
          = ⟨some [], rest, unreadable close.trail⟩ := many_of_stop advances' (blockRound_brace brace)
      rw [many_of_next advances run more, many_of_next advances' (round'.trans run') more, ended, closed]
      simp [seam.bare, unreadable]

/-- A document that is empty or whose last word ends a line, and the same words in a block. -/
theorem block_encloses {n : Nat} {ws : List Word} (finish finish' : Mark) (depth : Nat)
    (brace : close.token.kind = .rightBrace)
    (ends : ws = [] ∨ ∃ s t, ws = s ++ [⟨t, []⟩] ∧ t.kind = .newline)
    (balanced : ¬ Unbalanced (program n ⟨finish, depth⟩ ws).failures) (rest : List Word) :
  many (blockRound (statement n)) ⟨finish', depth⟩ (ws ++ close :: rest)
    = ⟨(program n ⟨finish, depth⟩ ws).value, rest,
        (program n ⟨finish, depth⟩ ws).failures ++ unreadable close.trail⟩
  := by
  rcases ends with rfl | ⟨s, t, rfl, line⟩
  · apply many_of_stop (blockRound_advances (statement_built n) (statement_consumes n))
    apply blockRound_brace brace
  · have noElse : hasElse (close :: rest) = false := by
      rw [hasElse_other (by simp [brace]), brace]
      rfl
    have seam : Seam ⟨t, []⟩ ⟨t, []⟩ (close :: rest) := ⟨line, rfl, rfl, noElse⟩
    rw [List.append_assoc]
    apply block_continues seam brace finish finish' depth s balanced

/-! ### A loop around a document -/

/-- A single name is an expression. -/
theorem expr_name {x : Word} (ident : x.token.kind = .identifier)
    (stops : Grammar.Stops 6 (Word.tokens ahead)) (n : Nat) (site : Site) :
  expr (n + 1) site (x :: ahead) = ⟨some (.identifier x.token.text), ahead, unreadable x.trail⟩
  := by
  have operand : Grammar.Unary (n + 1) [x.token] (.identifier x.token.text) :=
    Grammar.Signed.plain (.primary (.identifier ident))
  have whole : Grammar.Expression (Grammar.Unary (n + 1)) [x.token] (.identifier x.token.text) :=
    .single (.single (.single (.single (.single (.single operand)))))
  have reads := Grammar.expr_accepts (n + 1) _ _ _ whole site [x] ahead rfl rfl stops
  have run := reads.run_eq (expr_built (n + 1)) rfl
  rw [lexical, List.flatMap_singleton] at run
  exact run

/-- A loop while a name holds. -/
theorem statement_loop {k x l : Word} (found : k.token.kind = .kwWhile)
    (ident : x.token.kind = .identifier) (opens : l.token.kind = .leftBrace) (n : Nat) (site : Site)
    (ahead : List Word) :
  let body := many (blockRound (statement (n + 1))) ⟨site.finish, site.depth + 1⟩ ahead
  statement (n + 2) site (k :: x :: l :: ahead)
    = ⟨body.value.map (.loop (.identifier x.token.text)), body.rest,
        lexical [k, x, l] ++ body.failures⟩
  := by
  intro body
  let inner : Site := ⟨site.finish, site.depth + 1⟩
  have stops : Grammar.Stops 6 (Word.tokens (l :: ahead)) := .of_kind opens (by decide) _
  have condition := expr_name ident stops n inner
  have reading : block (statement (n + 1)) exprContinuation inner (l :: ahead) = ⟨_, _, _⟩ :=
    block_brace opens exprContinuation
  change statementOf (expr (n + 1)) (statement (n + 1)) inner (k :: x :: l :: ahead) = _
  rw [statementOf, peek_bind_cons, found]
  dsimp only
  rw [whileStmt, bind_of_some rfl]
  dsimp only [advance]
  rw [bind_of_some (congrArg Reply.value condition), condition]
  dsimp only
  rw [bind_pure_run, reading]
  simp [lexical, body, inner]

/-- A document that is one loop, with a body that could stand as a document of its own. -/
theorem program_loop {k x l e c e' : Word} (found : k.token.kind = .kwWhile)
    (ident : x.token.kind = .identifier) (opens : l.token.kind = .leftBrace)
    (line : e.token.kind = .newline) (brace : c.token.kind = .rightBrace)
    (line' : e'.token.kind = .newline) {n : Nat} {ws : List Word} (site : Site) (finish : Mark)
    (ends : ws = [] ∨ ∃ s t, ws = s ++ [⟨t, []⟩] ∧ t.kind = .newline)
    (balanced : ¬ Unbalanced (program (n + 1) ⟨finish, site.depth + 1⟩ ws).failures) :
  program (n + 2) site (k :: x :: l :: e :: (ws ++ [c, e']))
    = ⟨some [.loop (.identifier x.token.text)
          ((program (n + 1) ⟨finish, site.depth + 1⟩ ws).value.getD [])], [],
        lexical [k, x, l, e] ++ (program (n + 1) ⟨finish, site.depth + 1⟩ ws).failures
          ++ lexical [c, e']⟩
  := by
  obtain ⟨ss, answer, -⟩ := program_finishes (n + 1) ⟨finish, site.depth + 1⟩ ws
  have inside := block_encloses finish site.finish (site.depth + 1) brace ends balanced [e']
  have advances := blockRound_advances (statement_built (n + 1)) (statement_consumes (n + 1))
  have body : many (blockRound (statement (n + 1))) ⟨site.finish, site.depth + 1⟩
      (e :: (ws ++ [c, e'])) = ⟨_, _, _⟩ := many_of_skip advances (blockRound_newline line)
  have loop := statement_loop found ident opens n site (e :: (ws ++ [c, e']))
  dsimp only at loop
  rw [body, inside, answer] at loop
  have round : programRound (statement (n + 2)) site (k :: x :: l :: e :: (ws ++ [c, e'])) = _ :=
    programRound_other (by rw [found]; decide) (by rw [found]; decide)
  rw [recovered_of_some (congrArg Reply.value loop), loop] at round
  have advances' := programRound_advances (n + 2)
  have ended : program (n + 2) site [] = ⟨some [], [], []⟩ := many_of_stop advances' programRound_nil
  have last : program (n + 2) site [e'] = ⟨_, _, _⟩ :=
    many_of_skip advances' (programRound_newline line')
  rw [program, many_of_item advances' round, ← program, last, ← program, ended, answer]
  simp [lexical]

end Parse

/-! ### Documents in a loop -/

open Word

/-- The words of a document that starts with the head of a loop. -/
theorem Word.gather_loop (us : List Token) :
  ∃ k x l e : Word, k.token.kind = .kwWhile ∧ x.token.kind = .identifier ∧ x.token.text = "x"
    ∧ l.token.kind = .leftBrace ∧ e.token.kind = .newline
    ∧ lexical [k, x, l, e] = unreadable (gather us).1
    ∧ gather ((Stream.ofText "while x \x7b\n").tokens ++ us)
      = ([], k :: x :: l :: e :: (gather us).2)
  := by
  have tokens : (Stream.ofText "while x \x7b\n").tokens
      = [⟨.kwWhile, "while", 0, ⟨1, 0⟩⟩, ⟨.whitespace, " ", 1, ⟨1, 5⟩⟩, ⟨.identifier, "x", 2, ⟨1, 6⟩⟩,
        ⟨.whitespace, " ", 3, ⟨1, 7⟩⟩, ⟨.leftBrace, "\x7b", 4, ⟨1, 8⟩⟩,
        ⟨.newline, "\n", 5, ⟨1, 9⟩⟩] := by decide +kernel
  rw [tokens]
  exact ⟨_, _, _, ⟨_, (gather us).1⟩, rfl, rfl, rfl, rfl, rfl, by simp [lexical, unreadable], rfl⟩

/-- The tokens of a document that goes on with a closing brace and a line feed. -/
theorem Stream.ofText_close {a : String} (ends : a = "" ∨ a.toList.getLast? = some '\n') :
  ∃ c e, c.kind = .rightBrace ∧ e.kind = .newline
    ∧ (ofText (a ++ "\x7d\n")).tokens = (ofText a).tokens ++ [c, e]
  := by
  have tokens : (ofText "\x7d\n").tokens
      = [⟨.rightBrace, "\x7d", 0, ⟨1, 0⟩⟩, ⟨.newline, "\n", 1, ⟨1, 1⟩⟩] := by decide +kernel
  have nothing : (ofText "").tokens = [] := by decide +kernel
  rcases ends with rfl | ends
  · rw [String.empty_append, tokens, nothing]
    exact ⟨_, _, rfl, rfl, rfl⟩
  · rw [ofText_append ends, tokens]
    exact ⟨_, _, rfl, rfl, rfl⟩

/-- The words of a document that is empty or ends with a line end, with a closing brace and a line end
behind them. -/
theorem Word.gather_close {ts : List Token} {c e : Token} (brace : c.kind = .rightBrace)
    (line : e.kind = .newline) (ends : ts = [] ∨ ∃ us t, ts = us ++ [t] ∧ t.kind = .newline) :
  gather (ts ++ [c, e]) = ((gather ts).1, (gather ts).2 ++ [⟨c, []⟩, ⟨e, []⟩])
    ∧ ((gather ts).2 = [] ∨ ∃ s t, (gather ts).2 = s ++ [⟨t, []⟩] ∧ t.kind = .newline)
  := by
  have shown : c.isHidden = false := by rw [Token.isHidden, brace]; rfl
  have shown' : e.isHidden = false := by rw [Token.isHidden, line]; rfl
  have last : gather [c, e] = ([], [⟨c, []⟩, ⟨e, []⟩]) := by
    rw [gather_of_significant shown, gather_of_significant shown']
    rfl
  rcases ends with rfl | ⟨us, t, rfl, line'⟩
  · exact ⟨last, .inl rfl⟩
  · have shown'' : t.isHidden = false := by rw [Token.isHidden, line']; rfl
    obtain ⟨lead, ws, split⟩ := gather_append shown'' us
    rw [split [], List.append_assoc, List.singleton_append, split, last]
    exact ⟨by simp [gather], .inr ⟨ws, t, rfl, line'⟩⟩

/-- A stream in the body of a loop, where one level more may be nested. -/
theorem Program.ofStreamWithin_loop {n : Nat} {body : Stream} {c e : Token}
    (brace : c.kind = .rightBrace) (line : e.kind = .newline) (finish : Mark)
    (ends : body.tokens = [] ∨ ∃ us t, body.tokens = us ++ [t] ∧ t.kind = .newline)
    (balanced : ¬ Parse.Unbalanced (ofStreamWithin (n + 1) body).failures) :
  ofStreamWithin (n + 2) ⟨(Stream.ofText "while x \x7b\n").tokens
      ++ (body.tokens.map (Token.shift 6 1) ++ [c, e]), finish⟩
    = ⟨[.loop (.identifier "x") (ofStreamWithin (n + 1) body).statements],
        (ofStreamWithin (n + 1) body).failures.map (Failure.enclose 6 1)⟩
  := by
  have ends' : body.tokens.map (Token.shift 6 1) = []
      ∨ ∃ us t, body.tokens.map (Token.shift 6 1) = us ++ [t] ∧ t.kind = .newline := by
    rcases ends with nothing | ⟨us, t, split, last⟩
    · exact .inl (by rw [nothing, List.map_nil])
    · exact .inr ⟨us.map (Token.shift 6 1), t.shift 6 1, by rw [split, List.map_append]; rfl, last⟩
  obtain ⟨gathered, ends''⟩ := gather_close brace line ends'
  obtain ⟨k, x, l, e', found, ident, text, opens, line', lead, words⟩ :=
    gather_loop (body.tokens.map (Token.shift 6 1) ++ [c, e])
  rw [gathered] at words lead
  rw [gather_shift] at words lead ends''
  have inside := (Parse.program_built (n + 1)).view (enclosed 6 1) ⟨body.finish, 0⟩
    (gather body.tokens).2
  dsimp only [enclosed, View.site, View.reply] at inside
  have balanced' : ¬ Parse.Unbalanced (Parse.program (n + 1) ⟨body.finish.down 1, 0 + 1⟩
      ((gather body.tokens).2.map (Word.shift 6 1))).failures := by
    rw [inside]
    exact fun fault => balanced (fault.of_enclose.append_right _)
  have loop := Parse.program_loop found ident opens line' (show (Word.mk c []).token.kind = _ from brace)
    (show (Word.mk e []).token.kind = _ from line) ⟨finish, 0⟩ _ ends'' balanced'
  rw [inside, lead] at loop
  have bare : lexical [⟨c, []⟩, ⟨e, []⟩] = [] := rfl
  have none : unreadable [] = [] := rfl
  rw [ofStreamWithin, ofStreamWithin, words]
  dsimp only
  rw [loop, text, bare, none, unreadable_enclose]
  simp

/-- A document in the body of a loop. If it is empty or ends with a line feed, is not cut off inside a
statement or block, and no closing brace in it is at fault, then the loop is the only statement that is
read, its body are the statements of the document, and the failures are those of the document, moved down
and with the same messages. -/
theorem Program.loop_encloses (a : String) (ends : a = "" ∨ a.toList.getLast? = some '\n')
    (complete : ∀ f ∈ (ofText a).failures, f.offending ≠ none)
    (unclosed : ∀ f ∈ (ofText a).failures, ∀ t, f.offending = some t → t.kind ≠ .rightBrace)
    (shallow : NestsWithin 255 (.ofText a)) :
  (ofText ("while x \x7b\n" ++ a ++ "\x7d\n")).statements
      = [.loop (.identifier "x") (ofText a).statements]
    ∧ (ofText ("while x \x7b\n" ++ a ++ "\x7d\n")).failures
      = (ofText a).failures.map (Failure.enclose 6 1)
    ∧ (ofText ("while x \x7b\n" ++ a ++ "\x7d\n")).failures.map Failure.message
      = (ofText a).failures.map Failure.message
  := by
  obtain ⟨c, e, brace, line, closed⟩ := Stream.ofText_close ends
  have ends' : (Stream.ofText a).tokens = []
      ∨ ∃ us t, (Stream.ofText a).tokens = us ++ [t] ∧ t.kind = .newline := by
    rcases ends with rfl | ends
    · exact .inl (by decide +kernel)
    · exact .inr (Stream.ofText_ends ends)
  have size : (Stream.ofText "while x \x7b\n").tokens.length = 6 := by decide +kernel
  have lines : Lexeme.lineEnds "while x \x7b\n".toList = 1 := by decide +kernel
  have opened := Stream.ofText_append (a := "while x \x7b\n") (by decide +kernel) (a ++ "\x7d\n")
  rw [closed, size, lines, List.map_append, ← String.append_assoc] at opened
  have within : ofText a = ofStreamWithin 255 (.ofText a) := shallow.ofStreamWithin_eq (by decide)
  have balanced : ¬ Parse.Unbalanced (ofStreamWithin 255 (.ofText a)).failures := by
    rw [← within]
    rintro ⟨f, member, fault⟩
    cases found : f.offending with
    | none => exact complete f member found
    | some t => exact unclosed f member t found (fault t found)
  have read : ofText ("while x \x7b\n" ++ a ++ "\x7d\n") = ofStreamWithin 256
      (.ofText ("while x \x7b\n" ++ a ++ "\x7d\n")) := rfl
  have loop := ofStreamWithin_loop (c := c.shift 6 1) (e := e.shift 6 1) brace line
    ((Stream.ofText (a ++ "\x7d\n")).finish.down 1) ends' balanced
  rw [← within] at loop
  rw [read, opened, List.map_cons, List.map_singleton, loop]
  refine ⟨rfl, rfl, ?_⟩
  rw [List.map_map]
  congr 1
  funext f
  rw [Function.comp_apply, Failure.enclose, Failure.message_inside, Failure.message_shift]

/-- Three broken statements in the body of a loop, with one that is read between them. -/
theorem Program.loop_encloses_broken :
  (ofText "var 1\ny = $ 2\nf(,\n\x7b z\n").failures.length = 4
    ∧ (ofText ("while x \x7b\n" ++ "var 1\ny = $ 2\nf(,\n\x7b z\n" ++ "\x7d\n")).failures
      = (ofText "var 1\ny = $ 2\nf(,\n\x7b z\n").failures.map (Failure.enclose 6 1)
  := by
  have complete : ∀ f ∈ (ofText "var 1\ny = $ 2\nf(,\n\x7b z\n").failures, f.offending ≠ none := by
    decide +kernel
  have unclosed : ∀ f ∈ (ofText "var 1\ny = $ 2\nf(,\n\x7b z\n").failures, ∀ t ∈ f.offending,
      t.kind ≠ .rightBrace := by decide +kernel
  have shallow : NestsWithin 255 (.ofText "var 1\ny = $ 2\nf(,\n\x7b z\n") := by
    unfold NestsWithin Shallow
    decide +kernel
  have enclosed := loop_encloses _ (.inr (by decide +kernel)) complete unclosed shallow
  exact ⟨by decide +kernel, enclosed.2.1⟩

end PlanetServer
