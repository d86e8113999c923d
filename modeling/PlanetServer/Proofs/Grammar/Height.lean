import PlanetServer.Proofs.Grammar.Documents
import PlanetServer.Proofs.Rule.Answer
import PlanetServer.Proofs.Token.Blanks

/-!
# The height of trees

The levels that may be nested bound how far a tree branches off, but not how high it is: operators, calls
and members are read by repetitions, which enter no level of their own, and each of them puts one more node
on top of what was read before.

* `Expr.height` and `Stmt.height` measure the ways from the top of a tree down to a leaf. The first operand
  of an operator, the callee of a call and the object of a member are linked to their node, and a link may
  count for another number than the other steps.
* `Program.height_le` bounds the height of every document where links do not count.
* `Program.chain_height` gives documents of any height where they do.
-/

namespace PlanetServer

/-! ### Heights -/

section

variable (link step : Nat)

mutual

/-- The length of a longest way down an expression: each link counts `link`, and each other step and the
leaf at the end count `step`. So there are `height 1 1` nodes on a longest way, and `height 1 0` is the
greatest number of links on one way. -/
def Expr.height : Expr → Nat
  | .number _ | .string _ | .bool _ | .identifier _ => step
  | .unary _ operand => operand.height + step
  | .binary _ lhs rhs => max (lhs.height + link) (rhs.height + step)
  | .call callee args => max (callee.height + link) (Expr.tallest args + step)
  | .member object _ => object.height + link

/-- The height of the tallest of some expressions. -/
def Expr.tallest : List Expr → Nat
  | [] => 0
  | e :: es => max e.height (Expr.tallest es)

end

mutual

/-- The length of a longest way down a statement, where no step from one statement to another or to an
expression is a link. -/
def Stmt.height : Stmt → Nat
  | .var _ none | .ret none | .use _ => step
  | .var _ (some value) | .ret (some value) => value.height link step + step
  | .define _ _ body => Stmt.tallest body + step
  | .cond condition thenBranch none =>
    max (condition.height link step) (Stmt.tallest thenBranch) + step
  | .cond condition thenBranch (some elseBranch) =>
    max (condition.height link step) (max (Stmt.tallest thenBranch) (Stmt.tallest elseBranch)) + step
  | .loop condition body => max (condition.height link step) (Stmt.tallest body) + step
  | .execute value | .assign _ value | .expr value => value.height link step + step

/-- The height of the tallest of some statements. -/
def Stmt.tallest : List Stmt → Nat
  | [] => 0
  | s :: ss => max s.height (Stmt.tallest ss)

end

/-- The length of a longest way down what is read from a document. -/
def Program.height (p : Program) : Nat :=
  Stmt.tallest link step p.statements

end

theorem Expr.tallest_le {link step bound : Nat} {es : List Expr}
    (h : ∀ e ∈ es, e.height link step ≤ bound) :
  tallest link step es ≤ bound
  := by
  induction es with
  | nil => simp [tallest]
  | cons e es ih =>
    rw [tallest]
    obtain ⟨first, rest⟩ := List.forall_mem_cons.mp h
    apply Nat.max_le.mpr ⟨first, ih rest⟩

theorem Stmt.tallest_le {link step bound : Nat} {ss : List Stmt}
    (h : ∀ s ∈ ss, s.height link step ≤ bound) :
  tallest link step ss ≤ bound
  := by
  induction ss with
  | nil => simp [tallest]
  | cons s ss ih =>
    rw [tallest]
    obtain ⟨first, rest⟩ := List.forall_mem_cons.mp h
    apply Nat.max_le.mpr ⟨first, ih rest⟩

/-! ### Links and other steps

No way has more links than one with the most links, and none has more of the other steps than one with the
most of them. -/

mutual

theorem Expr.height_le_add (e : Expr) :
  e.height 1 1 ≤ e.height 0 1 + e.height 1 0
  := by
  match e with
  | .number _ | .string _ | .bool _ | .identifier _ => simp [height]
  | .unary _ operand =>
    have inner := operand.height_le_add
    simp only [height]
    omega
  | .binary _ lhs rhs =>
    have left := lhs.height_le_add
    have right := rhs.height_le_add
    simp only [height]
    omega
  | .call callee args =>
    have left := callee.height_le_add
    have right := Expr.tallest_le_add args
    simp only [height]
    omega
  | .member object _ =>
    have inner := object.height_le_add
    simp only [height]
    omega

theorem Expr.tallest_le_add (es : List Expr) :
  tallest 1 1 es ≤ tallest 0 1 es + tallest 1 0 es
  := by
  match es with
  | [] => simp [tallest]
  | e :: es =>
    have first := e.height_le_add
    have rest := Expr.tallest_le_add es
    simp only [tallest]
    omega

end

mutual

theorem Stmt.height_le_add (s : Stmt) :
  s.height 1 1 ≤ s.height 0 1 + s.height 1 0
  := by
  match s with
  | .var _ none | .ret none | .use _ => simp [height]
  | .var _ (some value) | .ret (some value) | .execute value | .assign _ value | .expr value =>
    have inner := value.height_le_add
    simp only [height]
    omega
  | .define _ _ body =>
    have inner := Stmt.tallest_le_add body
    simp only [height]
    omega
  | .cond condition thenBranch none =>
    have first := condition.height_le_add
    have second := Stmt.tallest_le_add thenBranch
    simp only [height]
    omega
  | .cond condition thenBranch (some elseBranch) =>
    have first := condition.height_le_add
    have second := Stmt.tallest_le_add thenBranch
    have third := Stmt.tallest_le_add elseBranch
    simp only [height]
    omega
  | .loop condition body =>
    have first := condition.height_le_add
    have second := Stmt.tallest_le_add body
    simp only [height]
    omega

theorem Stmt.tallest_le_add (ss : List Stmt) :
  tallest 1 1 ss ≤ tallest 0 1 ss + tallest 1 0 ss
  := by
  match ss with
  | [] => simp [tallest]
  | s :: ss =>
    have first := s.height_le_add
    have rest := Stmt.tallest_le_add ss
    simp only [tallest]
    omega

end

/-! ### What levels bound -/

/-- An expression that leaves room for the six ranks of operators above it. Links do not count. -/
def Expr.Low (bound : Nat) (e : Expr) : Prop :=
  e.height 0 1 + 6 ≤ bound

/-- A statement that leaves as much room. -/
def Stmt.Low (bound : Nat) (s : Stmt) : Prop :=
  s.height 0 1 + 6 ≤ bound

theorem Stmt.low_of_value {bound : Nat} {s : Stmt} {value : Expr} (low : value.Low bound)
    (above : s.height 0 1 = value.height 0 1 + 1) :
  s.Low (bound + 1)
  := by
  rw [Low, above, Nat.add_right_comm]
  apply Nat.succ_le_succ low

theorem Stmt.low_of_leaf {s : Stmt} (leaf : s.height 0 1 = 1) (bound : Nat) :
  s.Low (bound + 7)
  := by
  rw [Low, leaf]
  apply Nat.le_add_left

namespace Parse

open Rule

section

variable {operand : Rule Expr} {n : Nat} (h : Grants operand (Expr.Low n))

theorem low_foldl_joinOperand {lhs : Expr} {tails : List (Kind × Expr)} (first : lhs.Low (n + 1))
    (rest : ∀ tail ∈ tails, tail.2.Low n) :
  (tails.foldl joinOperand lhs).Low (n + 1)
  := by
  induction tails generalizing lhs with
  | nil => apply first
  | cons tail tails ih =>
    obtain ⟨low, rest⟩ := List.forall_mem_cons.mp rest
    apply ih _ rest
    simp only [Expr.Low, joinOperand, Expr.height] at *
    omega

include h in
theorem layer_low (m : Nat) :
  Grants (layer operand m) (Expr.Low (n + m))
  := by
  induction m with
  | zero => apply h
  | succ m ih =>
    rw [layer_succ]
    apply Grants.bind ih
    intro lhs first
    have round : Grants (tail (6 - m) (layer operand m)) (Round.All fun tail => tail.2.Low (n + m)) := by
      apply Grants.after
      intro k
      split
      · apply Grants.ite
        · apply Grants.after
          intro _
          apply Grants.bind ih
          intro rhs low
          exact .pure low
        · exact .pure trivial
      · exact .pure trivial
    apply Grants.bind (.many round)
    intro tails rest
    apply Grants.pure
    apply low_foldl_joinOperand (Nat.le_succ_of_le first) rest

include h in
theorem exprOf_low :
  Grants (exprOf operand) (Expr.Low (n + 6))
  := layer_low h 6

include h in
theorem arguments_low :
  Grants (arguments operand) fun args => ∀ e ∈ args, e.Low (n + 6)
  := by
  apply Grants.after
  intro closes
  apply Grants.ite
  · apply Grants.after
    intro _
    exact .pure (List.forall_mem_nil _)
  · apply Grants.bind (exprOf_low h)
    intro head first
    apply Grants.bind (.following _ (exprOf_low h))
    intro tail rest
    apply Grants.after
    intro _
    exact .pure (List.forall_mem_cons.mpr ⟨first, rest⟩)

include h in
theorem primary_low :
  Grants (primary operand) (Expr.Low (n + 7))
  := by
  have leaf : 1 + 6 ≤ n + 7 := Nat.le_add_left 7 n
  apply Grants.after
  intro k
  split
  · exact .after fun text => .pure leaf
  · exact .after fun text => .pure leaf
  · exact .after fun text => .pure leaf
  · exact .after fun _ => .pure leaf
  · exact .after fun _ => .pure leaf
  · apply Grants.after
    intro _
    apply Grants.bind (exprOf_low h)
    intro inner low
    apply Grants.after
    intro _
    exact .pure (Nat.le_succ_of_le low)
  · exact .fail

/-- The arguments of a call are low. A member has none. -/
def Suffix.Low (bound : Nat) : Suffix → Prop
  | .call args => ∀ e ∈ args, e.Low bound
  | .member _ => True

theorem low_foldl_apply {head : Expr} {suffixes : List Suffix} (first : head.Low (n + 7))
    (rest : ∀ s ∈ suffixes, s.Low (n + 6)) :
  (suffixes.foldl Suffix.apply head).Low (n + 7)
  := by
  induction suffixes generalizing head with
  | nil => apply first
  | cons s suffixes ih =>
    obtain ⟨low, rest⟩ := List.forall_mem_cons.mp rest
    apply ih _ rest
    cases s with
    | call args =>
      have tallest : Expr.tallest 0 1 args ≤ n :=
        Expr.tallest_le fun e member => Nat.le_of_add_le_add_right (low e member)
      simp only [Expr.Low, Suffix.apply, Expr.height] at *
      omega
    | member name => apply first

include h in
theorem suffixed_low :
  Grants (suffixed operand) (Expr.Low (n + 7))
  := by
  apply Grants.bind (primary_low h)
  intro head first
  have round : Grants (suffix operand) (Round.All (Suffix.Low (n + 6))) := by
    apply Grants.after
    intro k
    split
    · apply Grants.after
      intro _
      apply Grants.bind (arguments_low h)
      intro args low
      exact .pure low
    · apply Grants.after
      intro _
      exact .after fun name => .pure trivial
    · exact .pure trivial
  apply Grants.bind (.many round)
  intro suffixes rest
  exact .pure (low_foldl_apply first rest)

end

/-- An operand with its signs enters one level for each of them, and one for itself. -/
theorem unary_low (n : Nat) :
  Grants (unary n) (Expr.Low (7 * n))
  := by
  induction n with
  | zero => exact .fail
  | succ n ih =>
    have sign : ∀ op, Grants (do advance; return .unary op (← unary n)) (Expr.Low (7 * n + 7)) := by
      intro op
      apply Grants.after
      intro _
      apply Grants.bind ih
      intro operand low
      apply Grants.pure
      simp only [Expr.Low, Expr.height] at *
      omega
    apply Grants.deeper
    apply Grants.after
    intro k
    split
    · apply sign
    · apply sign
    · apply suffixed_low ih

theorem expr_low (n : Nat) :
  Grants (expr n) (Expr.Low (7 * n + 6))
  := exprOf_low (unary_low n)

/-- A statement and its end. -/
theorem ended_low {bound : Nat} {s : Stmt} (low : s.Low bound) (others : KindSet) :
  Grants (do
    terminator others
    return s) (Stmt.Low bound)
  := .after fun _ => .pure low

section

variable {expr : Rule Expr} {statement : Rule Stmt} {n : Nat}
  (h : Grants expr (Expr.Low (7 * n + 6))) (h' : Grants statement (Stmt.Low (7 * n)))

include h' in
theorem recovered_low :
  Grants (recovered statement) (Round.All (Stmt.Low (7 * n)))
  := by
  apply Grants.bind (.attempt h')
  rintro (_ | s) low
  · exact .after fun _ => .pure trivial
  · exact .pure (low s rfl)

include h' in
theorem block_low (others : KindSet) :
  Grants (block statement others) fun ss => Stmt.tallest 0 1 ss ≤ 7 * n
  := by
  apply Grants.after
  intro _
  have round : Grants (blockRound statement) (Round.All (Stmt.Low (7 * n))) := by
    apply Grants.after
    intro k
    split
    · exact .after fun _ => .pure trivial
    · exact .after fun _ => .pure trivial
    · exact .fail
    · apply recovered_low h'
  apply Grants.mono (.many round)
  intro ss low
  apply Stmt.tallest_le
  exact fun s member => Nat.le_of_add_right_le (low s member)

include h' in
theorem elseBranch_low :
  Grants (elseBranch statement) fun branch => ∀ ss ∈ branch, Stmt.tallest 0 1 ss ≤ 7 * n
  := by
  apply Grants.after
  intro follows
  apply Grants.ite
  · apply Grants.after
    intro _
    apply Grants.after
    intro _
    apply Grants.after
    intro again
    apply Grants.ite
    · apply Grants.bind h'
      intro s low
      apply Grants.pure
      rintro _ ⟨⟩
      apply Stmt.tallest_le
      exact (List.forall_mem_singleton (p := _)).mpr (Nat.le_of_add_right_le low)
    · apply Grants.bind (block_low h' _)
      intro ss low
      apply Grants.pure
      rintro _ ⟨⟩
      apply low
  · exact .pure nofun

include h in
theorem varDecl_low :
  Grants (varDecl expr) (Stmt.Low (7 * n + 7))
  := by
  apply Grants.after
  intro _
  apply Grants.after
  intro name
  apply Grants.after
  intro assigns
  apply Grants.ite
  · apply Grants.after
    intro _
    apply Grants.bind h
    intro value low
    exact ended_low (Stmt.low_of_value low rfl) _
  · exact ended_low (Stmt.low_of_leaf rfl _) _

include h' in
theorem defDecl_low :
  Grants (defDecl statement) (Stmt.Low (7 * n + 7))
  := by
  apply Grants.after
  intro _
  apply Grants.after
  intro name
  apply Grants.after
  intro _
  apply Grants.after
  intro params
  apply Grants.bind (block_low h' _)
  intro body low
  apply Grants.pure
  simp only [Stmt.Low, Stmt.height]
  omega

include h h' in
theorem ifStmt_low :
  Grants (ifStmt expr statement) (Stmt.Low (7 * n + 7))
  := by
  apply Grants.after
  intro _
  apply Grants.bind h
  intro condition low
  apply Grants.bind (block_low h' _)
  intro thenBranch low'
  apply Grants.bind (elseBranch_low h')
  rintro (_ | ss) low''
  · apply Grants.pure
    simp only [Stmt.Low, Stmt.height, Expr.Low] at *
    omega
  · have low'' := low'' ss rfl
    apply Grants.pure
    simp only [Stmt.Low, Stmt.height, Expr.Low] at *
    omega

include h h' in
theorem whileStmt_low :
  Grants (whileStmt expr statement) (Stmt.Low (7 * n + 7))
  := by
  apply Grants.after
  intro _
  apply Grants.bind h
  intro condition low
  apply Grants.bind (block_low h' _)
  intro body low'
  apply Grants.pure
  simp only [Stmt.Low, Stmt.height, Expr.Low] at *
  omega

include h in
theorem returnStmt_low :
  Grants (returnStmt expr) (Stmt.Low (7 * n + 7))
  := by
  apply Grants.after
  intro _
  apply Grants.after
  intro next
  apply Grants.ite
  · apply Grants.bind h
    intro value low
    exact ended_low (Stmt.low_of_value low rfl) _
  · exact ended_low (Stmt.low_of_leaf rfl _) _

theorem importStmt_low :
  Grants importStmt (Stmt.Low (7 * n + 7))
  := by
  apply Grants.after
  intro _
  apply Grants.after
  intro head
  apply Grants.after
  intro tail
  exact ended_low (Stmt.low_of_leaf rfl _) _

include h in
theorem executeStmt_low :
  Grants (executeStmt expr) (Stmt.Low (7 * n + 7))
  := by
  apply Grants.after
  intro _
  apply Grants.bind h
  intro value low
  exact ended_low (Stmt.low_of_value low rfl) _

include h in
theorem assignment_low :
  Grants (assignment expr) (Stmt.Low (7 * n + 7))
  := by
  apply Grants.after
  intro target
  apply Grants.after
  intro _
  apply Grants.bind h
  intro value low
  exact ended_low (Stmt.low_of_value low rfl) _

include h in
theorem exprStmt_low :
  Grants (exprStmt expr) (Stmt.Low (7 * n + 7))
  := by
  apply Grants.bind h
  intro value low
  exact ended_low (Stmt.low_of_value low rfl) _

include h h' in
theorem statementOf_low :
  Grants (statementOf expr statement) (Stmt.Low (7 * n + 7))
  := by
  apply Grants.after
  intro k
  split
  · apply varDecl_low h
  · apply defDecl_low h'
  · apply ifStmt_low h h'
  · apply whileStmt_low h h'
  · apply returnStmt_low h
  · apply importStmt_low
  · apply executeStmt_low h
  · exact .after fun next => .ite (assignment_low h) (.ite (exprStmt_low h) .fail)
  · exact .fail

end

/-- A statement enters one level. -/
theorem statement_low (n : Nat) :
  Grants (statement n) (Stmt.Low (7 * n))
  := by
  induction n with
  | zero => exact .fail
  | succ n ih =>
    apply Grants.deeper
    apply statementOf_low (expr_low n) ih

theorem program_low (n : Nat) :
  Grants (program n) fun ss => ∀ s ∈ ss, s.Low (7 * n)
  := by
  apply Grants.many
  apply Grants.after
  intro k
  split
  · exact .after fun _ => .pure trivial
  · exact .after fun _ => .after fun _ => .pure trivial
  · exact .pure trivial
  · apply recovered_low (statement_low n)

end Parse

/-- Where links do not count, the height of a document is bounded by the levels that may be nested. -/
theorem Program.height_le (levels : Nat) (stream : Stream) :
  (ofStreamWithin levels stream).height 0 1 ≤ 7 * levels - 6
  := by
  apply Stmt.tallest_le
  intro s member
  cases answer : (Parse.program levels ⟨stream.finish, 0⟩ (Word.gather stream.tokens).2).value with
  | none => simp [ofStreamWithin, answer] at member
  | some ss =>
    have low := (Parse.program_low levels ⟨stream.finish, 0⟩ _).holds ss answer
    simp only [ofStreamWithin, answer, Option.getD_some] at member
    apply Nat.le_sub_of_add_le (low s member)

/-! ### Chains of members -/

namespace Lexeme

/-- A number of members, each of them named `x`. -/
def memberChain (n : Nat) : List Char :=
  (List.replicate n ['.', 'x']).flatten

theorem memberChain_succ (n : Nat) :
  memberChain (n + 1) = '.' :: 'x' :: memberChain n
  := rfl

/-- A single letter is a name where no word goes on behind it. -/
theorem first_letter {rest : List Char} (stops : ∀ c ∈ rest.head?, continuesWord c = false) :
  first 'x' rest = (⟨.identifier, ['x']⟩, rest)
  := by
  have start : first 'x' rest = word 'x' rest := rfl
  obtain ⟨taken, left⟩ := run_of_spec (List.forall_mem_nil _) stops
  rw [List.nil_append] at taken left
  rw [start, word, taken, left]
  rfl

theorem kinds_split_memberChain (n : Nat) :
  (split ('x' :: memberChain n)).map kind
    = .identifier :: (List.replicate n [.dot, .identifier]).flatten
  := by
  induction n with
  | zero => decide +kernel
  | succ n ih =>
    have stops : continuesWord '.' = false := by decide +kernel
    have dot : first '.' ('x' :: memberChain n) = (⟨.dot, ['.']⟩, 'x' :: memberChain n) := rfl
    rw [memberChain_succ, split, first_letter (by rintro _ ⟨⟩; apply stops), split, dot]
    rw [List.map_cons, List.map_cons, ih]
    rfl

end Lexeme

namespace Grammar

/-- Each member puts one node on top of its object. -/
theorem Postfix.members {unary : Phrase Expr} {v w : List Token} {e : Expr} (first : Postfix unary v e)
    {n : Nat} (kinds : w.map Token.kind = (List.replicate n [Kind.dot, .identifier]).flatten) :
  ∃ e', Postfix unary (v ++ w) e' ∧ e'.height 1 1 = e.height 1 1 + n
  := by
  induction n generalizing v w e with
  | zero =>
    obtain rfl := List.map_eq_nil_iff.mp kinds
    rw [List.append_nil]
    exact ⟨e, first, rfl⟩
  | succ n ih =>
    rw [List.replicate_succ, List.flatten_cons] at kinds
    obtain ⟨dot, w, rfl, found, kinds⟩ := List.map_eq_cons_iff.mp kinds
    obtain ⟨name, w, rfl, found', kinds⟩ := List.map_eq_cons_iff.mp kinds
    obtain ⟨e', whole, height⟩ := ih (first.member found found') kinds
    rw [List.append_assoc] at whole
    refine ⟨e', whole, ?_⟩
    rw [height, Expr.height, Nat.add_right_comm]
    rfl

/-- What calls and members make up is a document on its own. -/
theorem Postfix.program {n : Nat} {w : List Token} {e : Expr} (whole : Postfix (Unary n) w e) :
  Program (n + 2) w [.expr e]
  := by
  have operand : Unary (n + 1) w e := Signed.plain whole
  have expression : Expression (Unary (n + 1)) w e :=
    .single (.single (.single (.single (.single (.single operand)))))
  have statement : Statement (n + 2) w [] (.expr e) := by
    rw [← List.append_nil w]
    exact .expression expression .finish
  rw [← List.append_nil w]
  exact .cons statement .nil

end Grammar

/-- A name with `n` members. -/
def Program.chain (n : Nat) : String :=
  String.ofList ('x' :: Lexeme.memberChain n)

theorem Program.kinds_chain (n : Nat) :
  (Stream.ofText (chain n)).tokens.map Token.kind
    = .identifier :: (List.replicate n [.dot, .identifier]).flatten
  := by
  rw [← Lexeme.kinds_split_memberChain n, ← String.toList_ofList (l := _ :: _)]
  rw [← chain, ← Stream.lexemes_ofText, List.map_map]
  rfl

theorem Program.chain_visible {n : Nat} {t : Token} (member : t ∈ (Stream.ofText (chain n)).tokens) :
  t.isHidden = false
  := by
  have held := List.mem_map_of_mem (f := Token.kind) member
  rw [kinds_chain] at held
  have visible : t.kind = .identifier ∨ t.kind = .dot := by
    rcases List.mem_cons.mp held with first | held
    · exact .inl first
    · obtain ⟨link, copy, held⟩ := List.mem_flatten.mp held
      rw [List.eq_of_mem_replicate copy] at held
      simpa [or_comm] using held
  rcases visible with found | found
  · rw [Token.isHidden, found]
    rfl
  · rw [Token.isHidden, found]
    rfl

/-- A chain of members is read without a failure, and the tree is as high as the chain is long. -/
theorem Program.chain_height (n : Nat) :
  (ofText (chain n)).failures = [] ∧ (ofText (chain n)).height 1 1 = n + 2
  := by
  obtain ⟨name, w, split, found, kinds⟩ := List.map_eq_cons_iff.mp (kinds_chain n)
  obtain ⟨e, whole, height⟩ := Grammar.Postfix.members (.primary (.identifier found)) kinds
  have significant : (Stream.ofText (chain n)).significant = name :: w := by
    rw [← split]
    apply List.filter_eq_self.mpr
    intro t member
    simpa using chain_visible member
  have read : ofText (chain n) = ⟨[.expr e], Rule.unreadable (Stream.ofText (chain n)).tokens⟩ := by
    apply ofStreamWithin_of_derivable
    rw [significant]
    apply Grammar.Postfix.program whole
  rw [read]
  constructor
  · apply (Rule.unreadable_eq_nil_iff _).mpr
    intro t member unknown
    have visible := chain_visible member
    rw [Token.isHidden, unknown] at visible
    cases visible
  · simp only [Program.height, Stmt.tallest, Stmt.height, height, Expr.height]
    omega

/-- The height of a document is bounded by the levels that may be nested, apart from the links: the other
steps are bounded, and there are no more nodes on one way than those and the links. -/
theorem Program.nesting_bounds (source : String) :
  (ofText source).height 0 1 ≤ 7 * Parse.maxDepth - 6
    ∧ (ofText source).height 1 1 ≤ 7 * Parse.maxDepth - 6 + (ofText source).height 1 0
  := by
  have steps : (ofText source).height 0 1 ≤ 7 * Parse.maxDepth - 6 :=
    height_le Parse.maxDepth (.ofText source)
  refine ⟨steps, ?_⟩
  calc (ofText source).height 1 1
    _ ≤ (ofText source).height 0 1 + (ofText source).height 1 0 := Stmt.tallest_le_add _
    _ ≤ 7 * Parse.maxDepth - 6 + (ofText source).height 1 0 := Nat.add_le_add_right steps _

/-- No bound holds for the height of all documents, not even of those without a failure. -/
theorem Program.height_unbounded :
  (¬ ∃ bound, ∀ source, (ofText source).height 1 1 ≤ bound)
    ∧ ∀ bound, ∃ source, (ofText source).failures = [] ∧ bound < (ofText source).height 1 1
  := by
  have high : ∀ bound, ∃ source, (ofText source).failures = []
      ∧ bound < (ofText source).height 1 1 := by
    intro bound
    obtain ⟨clean, height⟩ := chain_height bound
    refine ⟨chain bound, clean, ?_⟩
    rw [height]
    omega
  refine ⟨?_, high⟩
  rintro ⟨bound, bounded⟩
  obtain ⟨source, -, above⟩ := high bound
  apply absurd (bounded source) (Nat.not_le.mpr above)

end PlanetServer
