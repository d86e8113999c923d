import PlanetServer.Proofs.Rule.Answer
import PlanetServer.Proofs.Rule.Outcome
import PlanetServer.Proofs.Rule.Words
import PlanetServer.Proofs.Token.Maximal

/-!
# What is kept of a document

The tree of a document stands for some of its tokens: the names and literals that it holds, and the
keywords, operators and marks that tell its nodes apart. Whatever failures there are, these are tokens
of the document, each used once and in the order of the document.

* `Expr.yield` and `Stmt.yield` are the lexemes that a tree stands for.
* `Rule.Yields` says of a rule that what its answers stand for is among the words that it has read.
* `Program.yield_sublist` says what follows for documents.
-/

namespace PlanetServer

/-! ### What trees stand for -/

/-- The lexeme of a kind that is always written the same way. -/
def Kind.lexeme (k : Kind) : Lexeme :=
  ⟨k, (k.literal?.getD "").toList⟩

/-- The lexeme of a name. -/
def Lexeme.name (text : String) : Lexeme :=
  ⟨.identifier, text.toList⟩

mutual

/-- The lexemes that an expression stands for, in the order in which they are written. Parentheses and
commas are left out. -/
def Expr.yield : Expr → List Lexeme
  | .number text => [⟨.number, text.toList⟩]
  | .string text => [⟨.string, text.toList⟩]
  | .bool value => [if value then Kind.kwTrue.lexeme else Kind.kwFalse.lexeme]
  | .identifier name => [.name name]
  | .unary op operand => op.lexeme :: operand.yield
  | .binary op lhs rhs => lhs.yield ++ op.lexeme :: rhs.yield
  | .call callee args => callee.yield ++ Expr.yields args
  | .member object name => object.yield ++ [Kind.dot.lexeme, .name name]

/-- The lexemes that expressions stand for, one after the other. -/
def Expr.yields : List Expr → List Lexeme
  | [] => []
  | e :: es => e.yield ++ Expr.yields es

end

mutual

/-- The lexemes that a statement stands for, in the order in which they are written. Parentheses,
braces, commas and ends of statements are left out. -/
def Stmt.yield : Stmt → List Lexeme
  | .var name none => [Kind.kwVar.lexeme, .name name]
  | .var name (some value) => Kind.kwVar.lexeme :: .name name :: Kind.assign.lexeme :: value.yield
  | .define name params body =>
    Kind.kwDef.lexeme :: .name name :: (params.map Lexeme.name ++ Stmt.yields body)
  | .cond condition thenBranch none =>
    Kind.kwIf.lexeme :: (condition.yield ++ Stmt.yields thenBranch)
  | .cond condition thenBranch (some elseBranch) =>
    Kind.kwIf.lexeme :: (condition.yield ++ Stmt.yields thenBranch
      ++ Kind.kwElse.lexeme :: Stmt.yields elseBranch)
  | .loop condition body => Kind.kwWhile.lexeme :: (condition.yield ++ Stmt.yields body)
  | .ret none => [Kind.kwReturn.lexeme]
  | .ret (some value) => Kind.kwReturn.lexeme :: value.yield
  | .use path => Kind.kwImport.lexeme :: (path.map Lexeme.name).intersperse Kind.dot.lexeme
  | .execute value => Kind.kwExecute.lexeme :: value.yield
  | .assign target value => .name target :: Kind.assign.lexeme :: value.yield
  | .expr value => value.yield

/-- The lexemes that statements stand for, one after the other. -/
def Stmt.yields : List Stmt → List Lexeme
  | [] => []
  | s :: ss => s.yield ++ Stmt.yields ss

end

/-- The lexemes that what is read from a document stands for. -/
def Program.yield (p : Program) : List Lexeme :=
  Stmt.yields p.statements

theorem Expr.yields_eq_flatMap (es : List Expr) :
  yields es = es.flatMap yield
  := by
  induction es with
  | nil => rw [yields, List.flatMap_nil]
  | cons e es ih => rw [yields, List.flatMap_cons, ih]

theorem Stmt.yields_eq_flatMap (ss : List Stmt) :
  yields ss = ss.flatMap yield
  := by
  induction ss with
  | nil => rw [yields, List.flatMap_nil]
  | cons s ss ih => rw [yields, List.flatMap_cons, ih]

/-- The rest of a conditional statement stands for its `else` and the statements behind it. -/
def Stmt.yieldElse : Option (List Stmt) → List Lexeme
  | none => []
  | some ss => Kind.kwElse.lexeme :: Stmt.yields ss

theorem Stmt.yield_cond (condition : Expr) (thenBranch : List Stmt)
    (elseBranch : Option (List Stmt)) :
  (Stmt.cond condition thenBranch elseBranch).yield
    = Kind.kwIf.lexeme :: (condition.yield ++ yields thenBranch ++ yieldElse elseBranch)
  := by
  cases elseBranch
  · simp [yield, yieldElse]
  · simp [yield, yieldElse]

theorem intersperse_cons {α : Type} (divider a : α) (as : List α) :
  (a :: as).intersperse divider = a :: as.flatMap fun b => [divider, b]
  := by
  induction as generalizing a with
  | nil => rfl
  | cons b as ih => rw [List.intersperse_cons_cons, ih, List.flatMap_cons]; rfl

/-! ### Tokens that trees can stand for -/

/-- The token without its place, with the text that its kind is always written as, if there is one. -/
def Token.leaf (t : Token) : Lexeme :=
  ⟨t.kind, (t.kind.literal?.getD t.text).toList⟩

theorem Token.leaf_of_literal {t : Token} {k : Kind} (found : t.kind = k)
    (written : k.literal?.isSome = true) :
  t.leaf = k.lexeme
  := by
  obtain ⟨literal, known⟩ := Option.isSome_iff_exists.mp written
  rw [leaf, Kind.lexeme, found, known, Option.getD_some, Option.getD_some]

theorem Token.leaf_of_class {t : Token} {k : Kind} (found : t.kind = k) (varies : k.literal? = none) :
  t.leaf = ⟨k, t.text.toList⟩
  := by
  rw [leaf, found, varies, Option.getD_none]

/-- Operators are always written the same way. -/
theorem Kind.isSome_literal?_of_rank? :
  ∀ k : Kind, k.rank?.isSome = true → k.literal?.isSome = true
  := by
  decide

/-- The tokens of words, as trees stand for them. -/
def Word.leaves (ws : List Word) : List Lexeme :=
  (tokens ws).map Token.leaf

@[simp] theorem Word.leaves_nil : leaves [] = [] := rfl

@[simp] theorem Word.leaves_cons (w : Word) (ws : List Word) :
  leaves (w :: ws) = w.token.leaf :: leaves ws
  := rfl

@[simp] theorem Word.leaves_append (ws vs : List Word) :
  leaves (ws ++ vs) = leaves ws ++ leaves vs
  := by
  rw [leaves, tokens_append, List.map_append]
  rfl

namespace Rule

open Word

variable {α β : Type}

/-- What a round of a repetition stands for. -/
def Round.yield (y : α → List Lexeme) : Round α → List Lexeme
  | .item a => y a
  | .skip | .stop => []

/-! ### Rules that keep what they read -/

/-- If the rule answers, what the answer stands for is among what was shown before and the words that
the rule has read, in this order. -/
def YieldsAt (shown : List Lexeme) (rule : Rule α) (y : α → List Lexeme) (site : Site)
    (ahead : List Word) : Prop :=
  Ensures rule site ahead fun a rest =>
    ∃ read, ahead = read ++ rest ∧ (y a).Sublist (shown ++ leaves read)

/-- If the rule answers, what the answer stands for is among the words that the rule has read, in
order. -/
def Yields (rule : Rule α) (y : α → List Lexeme) : Prop :=
  ∀ site ahead, YieldsAt [] rule y site ahead

namespace YieldsAt

variable {shown : List Lexeme} {y : α → List Lexeme} {site : Site} {w : Word} {ahead : List Word}

theorem pure {a : α} (h : (y a).Sublist shown) :
  YieldsAt shown (pure a) y site ahead
  := Ensures.pure ⟨[], rfl, by simpa using h⟩

theorem fail {cause : Cause} :
  YieldsAt shown (fail cause) y site ahead
  := Ensures.fail

/-- Words that were read before may be counted as read by the rule. -/
theorem shift {rule : Rule α} (read : List Word)
    (h : YieldsAt (shown ++ leaves read) rule y site ahead) :
  Ensures rule site ahead fun a rest =>
    ∃ read', read ++ ahead = read' ++ rest ∧ (y a).Sublist (shown ++ leaves read')
  := by
  apply Ensures.mono h
  rintro a rest ⟨more, rfl, kept⟩
  refine ⟨read ++ more, by rw [List.append_assoc], ?_⟩
  rwa [leaves_append, ← List.append_assoc]

/-- Less may be kept of what was shown before. -/
theorem weaken {rule : Rule α} {shown' : List Lexeme} (sub : shown'.Sublist shown)
    (h : YieldsAt shown' rule y site ahead) :
  YieldsAt shown rule y site ahead
  := by
  apply Ensures.mono h
  rintro a rest ⟨read, split, kept⟩
  exact ⟨read, split, kept.trans (sub.append_right _)⟩

theorem bind {rule : Rule β} {next : β → Rule α} {y' : β → List Lexeme}
    (h : YieldsAt shown rule y' site ahead)
    (h' : ∀ b rest, YieldsAt (y' b) (next b) y site rest) :
  YieldsAt shown (rule >>= next) y site ahead
  := by
  apply Ensures.bind h
  rintro b rest ⟨read, rfl, kept⟩
  apply shift read (weaken kept (h' b rest))

/-- Another rule, and what its answer stands for. -/
theorem sub {rule : Rule β} {next : β → Rule α} {y' : β → List Lexeme} (h : Yields rule y')
    (h' : ∀ b rest, YieldsAt (shown ++ y' b) (next b) y site rest) :
  YieldsAt shown (rule >>= next) y site ahead
  := by
  apply Ensures.bind (h site ahead)
  rintro b rest ⟨read, rfl, kept⟩
  apply shift read (weaken _ (h' b rest))
  apply (List.Sublist.refl shown).append kept

/-- Words that are known to be read. -/
theorem bind_of_reads {rule : Rule β} {next : β → Rule α} (read : List Word) {b : β}
    (reads : Reads rule site (read ++ ahead) b ahead)
    (h : YieldsAt (shown ++ leaves read) (next b) y site ahead) :
  YieldsAt shown (rule >>= next) y site (read ++ ahead)
  := by
  obtain ⟨failures, run, -⟩ := reads
  apply Ensures.bind (J := fun b' rest => b' = b ∧ rest = ahead)
  · constructor
    rw [run]
    rintro _ ⟨⟩
    exact ⟨rfl, rfl⟩
  · rintro _ _ ⟨rfl, rfl⟩
    apply shift read h

theorem advance_bind {next : Unit → Rule α}
    (h : YieldsAt (shown ++ [w.token.leaf]) (next ()) y site ahead) :
  YieldsAt shown (advance >>= next) y site (w :: ahead)
  := bind_of_reads [w] (.advance_cons site w ahead) h

theorem take_bind {next : String → Rule α}
    (h : YieldsAt (shown ++ [w.token.leaf]) (next w.token.text) y site ahead) :
  YieldsAt shown (take >>= next) y site (w :: ahead)
  := bind_of_reads [w] (.take_cons site w ahead) h

/-- A word of a kind that is always written the same way. -/
theorem advance_literal {k : Kind} {next : Unit → Rule α} (found : w.token.kind = k)
    (written : k.literal?.isSome = true)
    (h : YieldsAt (shown ++ [k.lexeme]) (next ()) y site ahead) :
  YieldsAt shown (advance >>= next) y site (w :: ahead)
  := by
  rw [← Token.leaf_of_literal found written] at h
  apply advance_bind h

/-- A word of a kind that is written in several ways. -/
theorem take_class {k : Kind} {next : String → Rule α} (found : w.token.kind = k)
    (varies : k.literal? = none)
    (h : YieldsAt (shown ++ [⟨k, w.token.text.toList⟩]) (next w.token.text) y site ahead) :
  YieldsAt shown (take >>= next) y site (w :: ahead)
  := by
  rw [← Token.leaf_of_class found varies] at h
  apply take_bind h

theorem peek_nil {next : Option Kind → Rule α} (h : YieldsAt shown (next none) y site []) :
  YieldsAt shown (peek >>= next) y site []
  := Ensures.peek_nil h

theorem peek_cons {next : Option Kind → Rule α}
    (h : YieldsAt shown (next (some w.token.kind)) y site (w :: ahead)) :
  YieldsAt shown (peek >>= next) y site (w :: ahead)
  := Ensures.peek_cons h

theorem lookahead_bind {n : Nat} {next : Option Kind → Rule α}
    (h : YieldsAt shown (next (ahead[n]?.map fun w => w.token.kind)) y site ahead) :
  YieldsAt shown (lookahead n >>= next) y site ahead
  := Ensures.lookahead_bind h

/-- A choice by the next word. -/
theorem sees_ite {k : Kind} {rule rule' : Rule α}
    (yes : ∀ w rest, w.token.kind = k → YieldsAt shown rule y site (w :: rest))
    (no : YieldsAt shown rule' y site ahead) :
  YieldsAt shown (do if ← sees k then rule else rule') y site ahead
  := by
  apply Ensures.sees_ite
  · rintro w rest found rfl
    apply yes w rest found
  · apply no

/-- A choice by the next word that does not end a line. -/
theorem elseAhead_ite {rule rule' : Rule α}
    (yes : ∀ lines e rest, (∀ w ∈ lines, w.token.kind = .newline) → e.token.kind = .kwElse →
      YieldsAt shown rule y site (lines ++ e :: rest))
    (no : YieldsAt shown rule' y site ahead) :
  YieldsAt shown (do if ← Parse.elseAhead then rule else rule') y site ahead
  := by
  cases decided : hasElse ahead with
  | true =>
    obtain ⟨lines, e, rest, rfl, blank, found⟩ := (hasElse_iff ahead).mp decided
    unfold YieldsAt at yes ⊢
    constructor
    rw [elseAhead_run_true decided]
    apply (yes lines e rest blank found).holds
  | false =>
    constructor
    rw [elseAhead_run_false decided]
    apply no.holds

theorem deeper {rule : Rule α} (h : YieldsAt shown rule y ⟨site.finish, site.depth + 1⟩ ahead) :
  YieldsAt shown (deeper rule) y site ahead
  := Ensures.deeper h

end YieldsAt

/-- Nothing need be kept of what a rule has read. -/
theorem Built.yields {rule : Rule α} (built : Built rule) :
  Yields rule fun _ => []
  := by
  intro site ahead
  constructor
  intro a _
  obtain ⟨read, split⟩ := built.suffix site ahead
  exact ⟨read, split.symm, List.nil_sublist _⟩

/-- Another rule of which nothing is kept. -/
theorem YieldsAt.skip {shown : List Lexeme} {y : α → List Lexeme} {site : Site} {ahead : List Word}
    {rule : Rule β} {next : β → Rule α} (built : Built rule)
    (h : ∀ b rest, YieldsAt shown (next b) y site rest) :
  YieldsAt shown (rule >>= next) y site ahead
  := by
  apply sub built.yields
  intro b rest
  rw [List.append_nil]
  apply h

namespace Yields

variable {y : α → List Lexeme}

/-- A rule that may give up, and goes on all the same. -/
theorem attempt {rule : Rule α} (built : Built rule) (h : Yields rule y) :
  Yields (attempt rule) fun found => found.elim [] y
  := by
  intro site ahead
  constructor
  intro found answer
  obtain rfl : (rule site ahead).value = found := Option.some.inj answer
  cases found : (rule site ahead).value with
  | none =>
    obtain ⟨read, split⟩ := built.suffix site ahead
    exact ⟨read, split.symm, List.nil_sublist _⟩
  | some a => apply (h site ahead).holds a found

theorem many {round : Rule (Round α)} (h : Yields round (Round.yield y)) :
  Yields (many round) fun as => as.flatMap y
  := by
  intro site ahead
  have rounds : Ensures (Rule.many round) site ahead fun as rest =>
      ∃ read, ahead = read ++ rest ∧ (([] ++ as).flatMap y).Sublist (leaves read) := by
    apply Ensures.many
      (I := fun as rest => ∃ read, ahead = read ++ rest ∧ (as.flatMap y).Sublist (leaves read))
      (P := fun as rest => ∃ read, ahead = read ++ rest ∧ (as.flatMap y).Sublist (leaves read))
    · rintro as _ ⟨read, rfl, kept⟩
      apply Ensures.mono (h site _)
      rintro r rest ⟨more, rfl, kept'⟩
      have both : (as.flatMap y ++ r.yield y).Sublist (leaves (read ++ more)) := by
        rw [leaves_append]
        apply kept.append kept'
      have split := (List.append_assoc read more rest).symm
      rcases r with a | _ | _
      · exact ⟨_, split, by simpa [Round.yield] using both⟩
      · exact ⟨_, split, by simpa [Round.yield] using both⟩
      · exact ⟨_, split, by simpa [Round.yield] using both⟩
    · exact ⟨[], rfl, List.nil_sublist _⟩
  exact rounds

/-- A word that is required. -/
theorem expect {k : Kind} (varies : k.literal? = none) (others : KindSet) :
  Yields (expect k others) fun text => [⟨k, text.toList⟩]
  := by
  intro site ahead
  apply YieldsAt.sees_ite
  · intro w rest found
    constructor
    rintro _ ⟨⟩
    refine ⟨[w], rfl, ?_⟩
    rw [leaves_cons, Token.leaf_of_class found varies]
    exact .refl _
  · exact .fail

/-- Items that each follow a divider. The divider may be kept as well. -/
theorem following {item : Rule α} {divider : Kind} (mark : List Lexeme)
    (shows : ∀ t : Token, t.kind = divider → mark.Sublist [t.leaf]) (h : Yields item y) :
  Yields (following divider item) fun as => as.flatMap fun a => mark ++ y a
  := by
  apply many
  intro site ahead
  apply YieldsAt.sees_ite
  · intro w rest found
    apply YieldsAt.advance_bind
    apply YieldsAt.sub h
    intro a rest
    exact .pure ((shows w.token found).append_right _)
  · exact .pure (List.nil_sublist _)

end Yields

end Rule

namespace Parse

open Rule

/-! ### Expressions -/

section

variable {operand : Rule Expr} (h : Yields operand Expr.yield)

theorem yield_foldl_joinOperand (lhs : Expr) (tails : List (Kind × Expr)) :
  (tails.foldl joinOperand lhs).yield
    = lhs.yield ++ tails.flatMap fun tail => tail.1.lexeme :: tail.2.yield
  := by
  induction tails generalizing lhs with
  | nil => simp
  | cons tail tails ih => simp [ih, joinOperand, Expr.yield]

include h in
theorem tail_yields (rank : Nat) :
  Yields (tail rank operand) (Round.yield fun tail => tail.1.lexeme :: tail.2.yield)
  := by
  rintro site (_ | ⟨op, ahead⟩)
  · exact .peek_nil (.pure (List.nil_sublist _))
  · apply YieldsAt.peek_cons
    dsimp only
    split
    · rename_i joins
      have written := Kind.isSome_literal?_of_rank? _ (Option.isSome_of_eq_some joins)
      apply YieldsAt.advance_literal rfl written
      apply YieldsAt.sub h
      intro rhs rest
      exact .pure (.refl _)
    · exact .pure (List.nil_sublist _)

include h in
theorem layer_yields (n : Nat) :
  Yields (layer operand n) Expr.yield
  := by
  induction n with
  | zero => apply h
  | succ n ih =>
    intro site ahead
    rw [layer_succ]
    apply YieldsAt.sub ih
    intro lhs _
    apply YieldsAt.sub (.many (tail_yields ih _))
    intro tails _
    apply YieldsAt.pure
    rw [yield_foldl_joinOperand]
    exact .refl _

include h in
theorem exprOf_yields :
  Yields (exprOf operand) Expr.yield
  := layer_yields h 6

include h in
theorem arguments_yields :
  Yields (arguments operand) Expr.yields
  := by
  intro site ahead
  apply YieldsAt.sees_ite
  · intro w rest _
    apply YieldsAt.advance_bind
    exact .pure (List.nil_sublist _)
  · apply YieldsAt.sub (exprOf_yields h)
    intro head _
    apply YieldsAt.sub (.following [] (fun _ _ => List.nil_sublist _) (exprOf_yields h))
    intro tail _
    apply YieldsAt.skip (.expect _ _)
    intro _ _
    apply YieldsAt.pure
    rw [Expr.yields, Expr.yields_eq_flatMap]
    exact .refl _

include h in
theorem primary_yields :
  Yields (primary operand) Expr.yield
  := by
  rintro site (_ | ⟨w, ahead⟩)
  · exact .peek_nil .fail
  · apply YieldsAt.peek_cons
    split
    · apply YieldsAt.take_class (Option.some.inj ‹_›) rfl
      exact .pure (.refl _)
    · apply YieldsAt.take_class (Option.some.inj ‹_›) rfl
      exact .pure (.refl _)
    · apply YieldsAt.take_class (Option.some.inj ‹_›) rfl
      exact .pure (.refl _)
    · apply YieldsAt.advance_literal (Option.some.inj ‹_›) rfl
      exact .pure (.refl _)
    · apply YieldsAt.advance_literal (Option.some.inj ‹_›) rfl
      exact .pure (.refl _)
    · apply YieldsAt.advance_bind
      apply YieldsAt.sub (exprOf_yields h)
      intro inner _
      apply YieldsAt.skip (.expect _ _)
      intro _ _
      exact .pure (List.sublist_append_right _ _)
    · exact .fail

/-- The lexemes that a call or a member adds to an expression. -/
def Suffix.yield : Suffix → List Lexeme
  | .call args => Expr.yields args
  | .member name => [Kind.dot.lexeme, .name name]

theorem yield_foldl_apply (head : Expr) (suffixes : List Suffix) :
  (suffixes.foldl Suffix.apply head).yield = head.yield ++ suffixes.flatMap Suffix.yield
  := by
  induction suffixes generalizing head with
  | nil => simp
  | cons s suffixes ih =>
    cases s
    · simp [ih, Suffix.apply, Suffix.yield, Expr.yield]
    · simp [ih, Suffix.apply, Suffix.yield, Expr.yield]

include h in
theorem suffix_yields :
  Yields (suffix operand) (Round.yield Suffix.yield)
  := by
  rintro site (_ | ⟨w, ahead⟩)
  · exact .peek_nil (.pure (List.nil_sublist _))
  · apply YieldsAt.peek_cons
    split
    · apply YieldsAt.advance_bind
      apply YieldsAt.sub (arguments_yields h)
      intro args _
      exact .pure (List.sublist_append_right _ _)
    · apply YieldsAt.advance_literal (Option.some.inj ‹_›) rfl
      apply YieldsAt.sub (.expect rfl _)
      intro name _
      exact .pure (.refl _)
    · exact .pure (List.nil_sublist _)

include h in
theorem suffixed_yields :
  Yields (suffixed operand) Expr.yield
  := by
  intro site ahead
  apply YieldsAt.sub (primary_yields h)
  intro head _
  apply YieldsAt.sub (.many (suffix_yields h))
  intro suffixes _
  apply YieldsAt.pure
  rw [yield_foldl_apply]
  exact .refl _

end

theorem unary_yields (n : Nat) :
  Yields (unary n) Expr.yield
  := by
  induction n with
  | zero => exact fun _ _ => .fail
  | succ n ih =>
    rintro site (_ | ⟨w, ahead⟩)
    · apply YieldsAt.deeper
      apply YieldsAt.peek_nil
      apply suffixed_yields ih
    · apply YieldsAt.deeper
      apply YieldsAt.peek_cons
      split
      · apply YieldsAt.advance_literal (Option.some.inj ‹_›) rfl
        apply YieldsAt.sub ih
        intro operand _
        exact .pure (.refl _)
      · apply YieldsAt.advance_literal (Option.some.inj ‹_›) rfl
        apply YieldsAt.sub ih
        intro operand _
        exact .pure (.refl _)
      · apply suffixed_yields ih

theorem expr_yields (n : Nat) :
  Yields (expr n) Expr.yield
  := exprOf_yields (unary_yields n)

/-! ### Statements -/

theorem parameters_yields :
  Yields parameters (List.map Lexeme.name)
  := by
  intro site ahead
  apply YieldsAt.sees_ite
  · intro w rest found
    apply YieldsAt.take_class found rfl
    apply YieldsAt.sub (.following [] (fun _ _ => List.nil_sublist _) (.expect rfl _))
    intro tail _
    apply YieldsAt.skip (.expect _ _)
    intro _ _
    apply YieldsAt.pure
    rw [List.map_eq_flatMap]
    exact .refl _
  · apply YieldsAt.skip (.expect _ _)
    intro _ _
    exact .pure (.refl _)

/-- A statement and its end. -/
theorem ended_yields {shown : List Lexeme} {s : Stmt} (h : s.yield.Sublist shown) (others : KindSet)
    (site : Site) (ahead : List Word) :
  YieldsAt shown (do
    terminator others
    return s) Stmt.yield site ahead
  := by
  apply YieldsAt.skip (terminator_built others)
  intro _ _
  exact .pure h

section

variable {expr : Rule Expr} {statement : Rule Stmt} (h : Yields expr Expr.yield)
  (built : Built statement) (h' : Yields statement Stmt.yield)

include built h' in
theorem recovered_yields :
  Yields (recovered statement) (Round.yield Stmt.yield)
  := by
  intro site ahead
  apply YieldsAt.sub (.attempt built h')
  rintro (_ | s) _
  · apply YieldsAt.skip synchronize_built
    intro _ _
    exact .pure (.refl _)
  · exact .pure (.refl _)

include built h' in
theorem blockRound_yields :
  Yields (blockRound statement) (Round.yield Stmt.yield)
  := by
  rintro site (_ | ⟨w, ahead⟩)
  · exact .peek_nil .fail
  · apply YieldsAt.peek_cons
    split
    · apply YieldsAt.advance_bind
      exact .pure (List.nil_sublist _)
    · apply YieldsAt.advance_bind
      exact .pure (List.nil_sublist _)
    · exact .fail
    · apply recovered_yields built h'

include built h' in
theorem block_yields (others : KindSet) :
  Yields (block statement others) Stmt.yields
  := by
  intro site ahead
  apply YieldsAt.skip (.expect _ _)
  intro _ rest
  rw [funext Stmt.yields_eq_flatMap]
  apply Yields.many (blockRound_yields built h')

include built h' in
theorem elseBranch_yields :
  Yields (elseBranch statement) Stmt.yieldElse
  := by
  intro site ahead
  apply YieldsAt.elseAhead_ite
  · intro lines e rest blank found
    apply YieldsAt.bind_of_reads lines (skipNewlines_reads blank (by simp [found]))
    apply YieldsAt.advance_literal found rfl
    apply YieldsAt.weaken (List.sublist_append_right _ _)
    apply YieldsAt.sees_ite
    · intro w rest' _
      apply YieldsAt.sub h'
      intro s _
      apply YieldsAt.pure
      rw [Stmt.yieldElse, Stmt.yields, Stmt.yields, List.append_nil]
      exact .refl _
    · apply YieldsAt.sub (block_yields built h' _)
      intro ss _
      exact .pure (.refl _)
  · exact .pure (List.nil_sublist _)

include h in
theorem varDecl_yields {w : Word} (found : w.token.kind = .kwVar) (site : Site) (ahead : List Word) :
  YieldsAt [] (varDecl expr) Stmt.yield site (w :: ahead)
  := by
  apply YieldsAt.advance_literal found rfl
  apply YieldsAt.sub (.expect rfl _)
  intro name _
  apply YieldsAt.sees_ite
  · intro eq rest assigns
    apply YieldsAt.advance_literal assigns rfl
    apply YieldsAt.sub h
    intro value _
    apply ended_yields (.refl _)
  · apply ended_yields (.refl _)

include built h' in
theorem defDecl_yields {w : Word} (found : w.token.kind = .kwDef) (site : Site) (ahead : List Word) :
  YieldsAt [] (defDecl statement) Stmt.yield site (w :: ahead)
  := by
  apply YieldsAt.advance_literal found rfl
  apply YieldsAt.sub (.expect rfl _)
  intro name _
  apply YieldsAt.skip (.expect _ _)
  intro _ _
  apply YieldsAt.sub parameters_yields
  intro params _
  apply YieldsAt.sub (block_yields built h' _)
  intro body _
  apply YieldsAt.pure
  simp [Stmt.yield, Lexeme.name]

include h built h' in
theorem ifStmt_yields {w : Word} (found : w.token.kind = .kwIf) (site : Site) (ahead : List Word) :
  YieldsAt [] (ifStmt expr statement) Stmt.yield site (w :: ahead)
  := by
  apply YieldsAt.advance_literal found rfl
  apply YieldsAt.sub h
  intro condition _
  apply YieldsAt.sub (block_yields built h' _)
  intro thenBranch _
  apply YieldsAt.sub (elseBranch_yields built h')
  intro elseBranch _
  apply YieldsAt.pure
  simp [Stmt.yield_cond]

include h built h' in
theorem whileStmt_yields {w : Word} (found : w.token.kind = .kwWhile) (site : Site)
    (ahead : List Word) :
  YieldsAt [] (whileStmt expr statement) Stmt.yield site (w :: ahead)
  := by
  apply YieldsAt.advance_literal found rfl
  apply YieldsAt.sub h
  intro condition _
  apply YieldsAt.sub (block_yields built h' _)
  intro body _
  apply YieldsAt.pure
  simp [Stmt.yield]

include h in
theorem returnStmt_yields {w : Word} (found : w.token.kind = .kwReturn) (site : Site)
    (ahead : List Word) :
  YieldsAt [] (returnStmt expr) Stmt.yield site (w :: ahead)
  := by
  apply YieldsAt.advance_literal found rfl
  apply YieldsAt.skip .peek
  intro next _
  split
  · apply YieldsAt.sub h
    intro value _
    apply ended_yields (.refl _)
  · apply ended_yields (.refl _)

theorem importStmt_yields {w : Word} (found : w.token.kind = .kwImport) (site : Site)
    (ahead : List Word) :
  YieldsAt [] importStmt Stmt.yield site (w :: ahead)
  := by
  have shows : ∀ t : Token, t.kind = .dot → [Kind.dot.lexeme].Sublist [t.leaf] := by
    intro t divides
    rw [Token.leaf_of_literal divides rfl]
  apply YieldsAt.advance_literal found rfl
  apply YieldsAt.sub (.expect rfl _)
  intro head _
  apply YieldsAt.sub (.following [Kind.dot.lexeme] shows (.expect rfl _))
  intro tail _
  apply ended_yields
  rw [Stmt.yield, List.map_cons, intersperse_cons, List.flatMap_map]
  exact .refl _

include h in
theorem executeStmt_yields {w : Word} (found : w.token.kind = .kwExecute) (site : Site)
    (ahead : List Word) :
  YieldsAt [] (executeStmt expr) Stmt.yield site (w :: ahead)
  := by
  apply YieldsAt.advance_literal found rfl
  apply YieldsAt.sub h
  intro value _
  apply ended_yields (.refl _)

include h in
theorem exprStmt_yields :
  Yields (exprStmt expr) Stmt.yield
  := by
  intro site ahead
  apply YieldsAt.sub h
  intro value _
  apply ended_yields (.refl _)

include h in
theorem assignment_yields {w v : Word} (found : w.token.kind = .identifier)
    (assigns : v.token.kind = .assign) (site : Site) (ahead : List Word) :
  YieldsAt [] (assignment expr) Stmt.yield site (w :: v :: ahead)
  := by
  apply YieldsAt.take_class found rfl
  apply YieldsAt.advance_literal assigns rfl
  apply YieldsAt.sub h
  intro value _
  apply ended_yields (.refl _)

include h built h' in
theorem statementOf_yields :
  Yields (statementOf expr statement) Stmt.yield
  := by
  rintro site (_ | ⟨w, ahead⟩)
  · exact .peek_nil .fail
  · apply YieldsAt.peek_cons
    split
    · apply varDecl_yields h (Option.some.inj ‹_›)
    · apply defDecl_yields built h' (Option.some.inj ‹_›)
    · apply ifStmt_yields h built h' (Option.some.inj ‹_›)
    · apply whileStmt_yields h built h' (Option.some.inj ‹_›)
    · apply returnStmt_yields h (Option.some.inj ‹_›)
    · apply importStmt_yields (Option.some.inj ‹_›)
    · apply executeStmt_yields h (Option.some.inj ‹_›)
    · rename_i found
      apply YieldsAt.lookahead_bind
      split
      · rename_i begins
        obtain ⟨rfl, next⟩ := begins
        rcases ahead with _ | ⟨v, ahead⟩
        · cases next
        · apply assignment_yields h (Option.some.inj found) (Option.some.inj next)
      · split
        · apply exprStmt_yields h
        · exact .fail
    · exact .fail

end

theorem statement_yields (n : Nat) :
  Yields (statement n) Stmt.yield
  := by
  induction n with
  | zero => exact fun _ _ => .fail
  | succ n ih =>
    intro site ahead
    apply YieldsAt.deeper
    apply statementOf_yields (expr_yields n) (statement_built n) ih

/-! ### Documents -/

theorem programRound_yields (n : Nat) :
  Yields (programRound (statement n)) (Round.yield Stmt.yield)
  := by
  rintro site (_ | ⟨w, ahead⟩)
  · exact .peek_nil (.pure (List.nil_sublist _))
  · apply YieldsAt.peek_cons
    split
    · apply YieldsAt.advance_bind
      exact .pure (List.nil_sublist _)
    · apply YieldsAt.skip (.report (by simp))
      intro _ _
      apply YieldsAt.skip .advance
      intro _ _
      exact .pure (List.nil_sublist _)
    · exact .pure (List.nil_sublist _)
    · apply recovered_yields (statement_built n) (statement_yields n)

theorem program_yields (n : Nat) :
  Yields (program n) Stmt.yields
  := by
  rw [funext Stmt.yields_eq_flatMap]
  apply Yields.many (programRound_yields n)

end Parse

/-- What is read from a stream stands for some of its significant tokens, in order. -/
theorem Program.yield_ofStreamWithin (levels : Nat) (stream : Stream) :
  (ofStreamWithin levels stream).yield.Sublist (stream.significant.map Token.leaf)
  := by
  cases answer : (Parse.program levels ⟨stream.finish, 0⟩ (Word.gather stream.tokens).2).value with
  | none => simp [yield, ofStreamWithin, answer, Stmt.yields]
  | some ss =>
    obtain ⟨read, split, kept⟩ := (Parse.program_yields levels ⟨stream.finish, 0⟩ _).holds ss answer
    rw [Stream.significant, ← Word.tokens_gather, split, Word.tokens_append, List.map_append]
    simp only [yield, ofStreamWithin, answer, Option.getD_some]
    apply List.Sublist.trans kept (List.sublist_append_left _ _)

theorem Stream.leaf_of_mem_ofText {source : String} {t : Token} (member : t ∈ (ofText source).tokens) :
  t.leaf = t.lexeme
  := by
  cases written : t.kind.literal? with
  | none => rw [Token.leaf_of_class rfl written, Token.lexeme]
  | some literal =>
    rw [Token.leaf, written, Option.getD_some, ← literal_of_mem_ofText member written, Token.lexeme]

/-- The tree of a document stands for tokens of the document: whatever failures there are, the lexemes
that it stands for are some of the significant ones of the document, each used once at most and in the
order of the document. -/
theorem Program.yield_sublist (source : String) :
  (ofText source).yield.Sublist ((Stream.ofText source).significant.map Token.lexeme)
  := by
  have same : (Stream.ofText source).significant.map Token.leaf
      = (Stream.ofText source).significant.map Token.lexeme := by
    apply List.map_congr_left
    intro t member
    apply Stream.leaf_of_mem_ofText (List.mem_of_mem_filter member)
  rw [← same]
  apply yield_ofStreamWithin

/-- A block with a broken statement in it, an `else` on a line of its own, and a call that is cut off. -/
example :
    (Program.ofText "if a \x7b\n x = * 2\n y(1) \x7d\n\nelse \x7b \x7d\nz.w(").yield
      = [Kind.kwIf.lexeme, .name "a", .name "y", ⟨.number, ['1']⟩, Kind.kwElse.lexeme] := by
  decide +kernel

end PlanetServer
