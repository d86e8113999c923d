import PlanetServer.Proofs.Grammar.FirstFailure
import PlanetServer.Proofs.Rule.Climbing

/-!
# Operators and their ranks

How a chain of operands with binary operators between them is grouped. The rules for expressions are
layered, one layer for each rank of operators. Here the result is described without layers, by what holds
at every operator of the tree: nothing looser stands below it, and nothing as loose on its right.

* `Operators.Tree` is a grouping of a chain, and `Tree.chain` reads the chain off again, from left to right.
* `Tree.Ranked` is the condition on ranks. There is one such grouping of every chain: `Tree.push` adds one
  more operator at the right, and `Tree.Ranked.unique` finds the operator that comes to stand at the top.
* `Operators.expr_groups` says that this grouping is what precedence climbing reads.
-/

namespace PlanetServer

namespace Grammar

/-! ### Layers -/

/-- The phrases of the `n` tightest layers of expressions. -/
def Layer (unary : Phrase Expr) : Nat → Phrase Expr
  | 0 => unary
  | n + 1 => Chain (Kind.all.filter fun k => k.rank? = some (6 - n)) (Layer unary n)

theorem layer_six (unary : Phrase Expr) :
  Layer unary 6 = Expression unary
  := rfl

theorem Layer.mono {unary : Phrase Expr} {m n : Nat} (le : m ≤ n) {w : List Token} {e : Expr}
    (h : Layer unary m w e) :
  Layer unary n w e
  := by
  induction le with
  | refl => exact h
  | step _ ih => exact .single ih

/-- Two phrases that are joined by an operator. The left one may have operators of the same rank. -/
theorem Layer.join {unary : Phrase Expr} {n : Nat} {v w : List Token} {lhs rhs : Expr} {op : Token}
    (left : Layer unary (n + 1) v lhs) (found : op.kind.rank? = some (6 - n))
    (right : Layer unary n w rhs) :
  Layer unary (n + 1) (v ++ op :: w) (.binary op.kind lhs rhs)
  := by
  apply Chain.join left _ right
  simp [Kind.mem_all, found]

/-- Words that are read along a phrase make up the phrase. -/
theorem Follows.phrase_of_reads {α : Type} {rule : Rule α} {phrase : Phrase α}
    (follows : Follows rule phrase.clause) {site : Site} {read rest : List Word} {a : α}
    (reads : Rule.Reads rule site (read ++ rest) a rest) :
  phrase (Word.tokens read) a
  := by
  rcases follows site (read ++ rest) with ⟨b, rest', ⟨_, run', -⟩, read', split, whole⟩
    | ⟨_, _, breaks, -⟩
  · obtain ⟨_, run, -⟩ := reads
    obtain ⟨answer, left, -⟩ := Reply.mk.inj (run.symm.trans run')
    obtain rfl := Option.some.inj answer
    obtain rfl := left
    obtain rfl := List.append_cancel_right split
    apply whole
  · apply absurd breaks reads.not_breaks

end Grammar

namespace Operators

open Rule Word Parse

/-! ### Chains and their groupings -/

/-- An operand as it is written, and the expression that it stands for. -/
structure Operand where
  /-- The words of the operand. -/
  words : List Word
  /-- The expression. -/
  value : Expr

/-- The words of an operand are read as the expression where `n` levels are left: all of them, and
without a failure. -/
def Operand.IsRead (n : Nat) (site : Site) (u : Operand) : Prop :=
  ∃ after, Reads (unary n) site (u.words ++ after) u.value after

/-- Operands with operators between them. -/
@[ext] structure Chain where
  /-- The first operand. -/
  first : Operand
  /-- Each operator, with the operand after it. -/
  links : List (Word × Operand)

namespace Chain

/-- The operands, from left to right. -/
def operands (c : Chain) : List Operand :=
  c.first :: c.links.map Prod.snd

/-- The words of a chain. -/
def words (c : Chain) : List Word :=
  c.first.words ++ c.links.flatMap fun l => l.1 :: l.2.words

end Chain

/-- The rank of an operator. -/
def rank (op : Word) : Nat :=
  op.token.kind.rank?.getD 0

/-- Operands that are grouped two by two. -/
inductive Tree where
  /-- A single operand. -/
  | operand (u : Operand)
  /-- Two groups that are joined by an operator. -/
  | join (op : Word) (lhs rhs : Tree)

namespace Tree

/-- The expression that the grouping stands for. -/
def expr : Tree → Expr
  | operand u => u.value
  | join op lhs rhs => .binary op.token.kind lhs.expr rhs.expr

/-- The chain that is grouped: the operands and operators from left to right. -/
def chain : Tree → Chain
  | operand u => ⟨u, []⟩
  | join op lhs rhs => ⟨lhs.chain.first, lhs.chain.links ++ (op, rhs.chain.first) :: rhs.chain.links⟩

/-- The operator at the top, if there is one. -/
def root? : Tree → Option Word
  | operand _ => none
  | join op _ _ => some op

/-- At every operator, the operator at the top of its left side binds as tight or tighter, and the one at
the top of its right side binds tighter. -/
def Ranked : Tree → Prop
  | operand _ => True
  | join op lhs rhs =>
    (∀ o ∈ lhs.root?, rank op ≤ rank o) ∧ (∀ o ∈ rhs.root?, rank op < rank o)
      ∧ lhs.Ranked ∧ rhs.Ranked

theorem words_join (op : Word) (lhs rhs : Tree) :
  (join op lhs rhs).chain.words = lhs.chain.words ++ op :: rhs.chain.words
  := by
  simp [chain, Chain.words]

theorem operands_join (op : Word) (lhs rhs : Tree) :
  (join op lhs rhs).chain.operands = lhs.chain.operands ++ rhs.chain.operands
  := by
  simp [chain, Chain.operands]

theorem mem_links_of_root? {t : Tree} {op : Word} (top : op ∈ t.root?) :
  ∃ l ∈ t.chain.links, l.1 = op
  := by
  cases t with
  | operand u => cases top
  | join op lhs rhs =>
    cases top
    exact ⟨(op, rhs.chain.first), by simp [chain], rfl⟩

/-! ### There is one grouping at most -/

/-- No operator is looser than the one at the top. -/
theorem Ranked.le_of_mem {t : Tree} (ranked : t.Ranked) {r : Nat} (tight : ∀ o ∈ t.root?, r ≤ rank o)
    {l : Word × Operand} (member : l ∈ t.chain.links) :
  r ≤ rank l.1
  := by
  induction t with
  | operand u => cases member
  | join op lhs rhs left right =>
    obtain ⟨looseLeft, looseRight, rankedLeft, rankedRight⟩ := ranked
    have top : r ≤ rank op := tight op rfl
    rcases List.mem_append.mp member with member | member
    · apply left rankedLeft (fun o found => Nat.le_trans top (looseLeft o found)) member
    · rcases List.mem_cons.mp member with rfl | member
      · apply top
      · apply right rankedRight (fun o found => Nat.le_trans top (Nat.le_of_lt (looseRight o found))) member

/-- Of two places in a chain, the first one is no place for the top operator if the second one is. -/
theorem length_le_of_split {before after before' after' : List (Word × Operand)} {l l' : Word × Operand}
    (same : before ++ l :: after = before' ++ l' :: after')
    (left : ∀ k ∈ before', rank l'.1 ≤ rank k.1) (right : ∀ k ∈ after, rank l.1 < rank k.1) :
  before'.length ≤ before.length
  := by
  rcases List.append_eq_append_iff.mp same with ⟨_ | ⟨k, between⟩, split, split'⟩ | ⟨more, split, -⟩
  · simp [split]
  · obtain ⟨rfl, later⟩ := List.cons.inj split'
    have above : rank l'.1 ≤ rank l.1 := left l (by simp [split])
    have below : rank l.1 < rank l'.1 := right l' (by simp [later])
    omega
  · simp [split]

/-- A chain is grouped in one way only. -/
theorem Ranked.unique {t t' : Tree} (ranked : t.Ranked) (ranked' : t'.Ranked)
    (same : t.chain = t'.chain) :
  t = t'
  := by
  induction t generalizing t' with
  | operand u =>
    cases t' with
    | operand u' =>
      obtain ⟨rfl, -⟩ := Chain.mk.inj same
      rfl
    | join op' lhs' rhs' =>
      obtain ⟨-, links⟩ := Chain.mk.inj same
      simp at links
  | join op lhs rhs left right =>
    cases t' with
    | operand u' =>
      obtain ⟨-, links⟩ := Chain.mk.inj same
      simp at links
    | join op' lhs' rhs' =>
      obtain ⟨first, links⟩ := Chain.mk.inj same
      obtain ⟨looseLeft, looseRight, rankedLeft, rankedRight⟩ := ranked
      obtain ⟨looseLeft', looseRight', rankedLeft', rankedRight'⟩ := ranked'
      have one := length_le_of_split links
        (fun _ => rankedLeft'.le_of_mem looseLeft') (fun _ => rankedRight.le_of_mem looseRight)
      have two := length_le_of_split links.symm
        (fun _ => rankedLeft.le_of_mem looseLeft) (fun _ => rankedRight'.le_of_mem looseRight')
      obtain ⟨before, onwards⟩ := List.append_inj links (by omega)
      obtain ⟨next, after⟩ := List.cons.inj onwards
      obtain ⟨rfl, second⟩ := Prod.mk.inj next
      rw [left rankedLeft rankedLeft' (Chain.ext first before),
        right rankedRight rankedRight' (Chain.ext second after)]

/-! ### There is a grouping -/

/-- The grouping with one more operator and operand at the right. The operator comes to stand above all
operators on the right side of the tree that are as tight or tighter. -/
def push (op : Word) (u : Operand) : Tree → Tree
  | operand v => join op (operand v) (operand u)
  | join o lhs rhs =>
    if rank op ≤ rank o then join op (join o lhs rhs) (operand u) else join o lhs (rhs.push op u)

theorem chain_push (op : Word) (u : Operand) (t : Tree) :
  (t.push op u).chain = ⟨t.chain.first, t.chain.links ++ [(op, u)]⟩
  := by
  induction t with
  | operand v => rfl
  | join o lhs rhs _ ih =>
    rw [push]
    split
    · rfl
    · simp [chain, ih]

/-- The operator at the top is the new one or was there before. -/
theorem root?_push {op o : Word} {u : Operand} {t : Tree} (found : o ∈ (t.push op u).root?) :
  o = op ∨ o ∈ t.root?
  := by
  cases t with
  | operand v =>
    cases found
    exact .inl rfl
  | join o' lhs rhs =>
    rw [push] at found
    split at found
    · cases found
      exact .inl rfl
    · exact .inr found

theorem Ranked.push (op : Word) (u : Operand) {t : Tree} (ranked : t.Ranked) :
  (t.push op u).Ranked
  := by
  induction t with
  | operand v => exact ⟨nofun, nofun, trivial, trivial⟩
  | join o lhs rhs _ ih =>
    obtain ⟨left, right, rankedLeft, rankedRight⟩ := ranked
    rw [Tree.push]
    split
    · refine ⟨?_, nofun, ⟨left, right, rankedLeft, rankedRight⟩, trivial⟩
      rintro _ ⟨⟩
      assumption
    · refine ⟨left, ?_, rankedLeft, ih rankedRight⟩
      intro o' found
      rcases root?_push found with rfl | found
      · omega
      · apply right o' found

/-- Every chain can be grouped. The operators are added from left to right. -/
theorem exists_ranked (c : Chain) :
  ∃ t : Tree, t.chain = c ∧ t.Ranked
  := by
  have extend : ∀ (links : List (Word × Operand)) (t : Tree), t.Ranked →
      ∃ t' : Tree, t'.chain = ⟨t.chain.first, t.chain.links ++ links⟩ ∧ t'.Ranked := by
    intro links
    induction links with
    | nil => exact fun t ranked => ⟨t, by rw [List.append_nil], ranked⟩
    | cons l links ih =>
      intro t ranked
      obtain ⟨t', same, ranked'⟩ := ih (t.push l.1 l.2) (ranked.push l.1 l.2)
      refine ⟨t', ?_, ranked'⟩
      rw [same, chain_push, List.append_assoc, List.singleton_append]
  apply extend c.links (operand c.first) trivial

/-! ### The grouping is read -/

/-- A grouping whose operators are among the `n` tightest ranks is a phrase of the layers for these. -/
theorem Ranked.layer {unary : Grammar.Phrase Expr} {t : Tree} (ranked : t.Ranked)
    (operators : ∀ l ∈ t.chain.links, l.1.token.kind.rank? ≠ none)
    (operands : ∀ u ∈ t.chain.operands, unary (tokens u.words) u.value) {n : Nat}
    (tight : ∀ o ∈ t.root?, 6 < rank o + n) :
  Grammar.Layer unary n (tokens t.chain.words) t.expr
  := by
  induction t generalizing n with
  | operand u =>
    have single := operands u (List.mem_cons_self ..)
    rw [chain, Chain.words, List.flatMap_nil, List.append_nil]
    apply Grammar.Layer.mono (Nat.zero_le n) single
  | join op lhs rhs left right =>
    obtain ⟨looseLeft, looseRight, rankedLeft, rankedRight⟩ := ranked
    rw [operands_join] at operands
    have member : (op, rhs.chain.first) ∈ (join op lhs rhs).chain.links := by simp [chain]
    obtain ⟨r, found⟩ := Option.ne_none_iff_exists'.mp (operators _ member)
    have top : 6 < r + n := by simpa [rank, found] using tight op rfl
    obtain ⟨low, high⟩ := Kind.rank?_bounds found
    -- in the layer of the operator there are also operators of its rank on the left
    obtain ⟨m, rfl⟩ : ∃ m, r = 6 - m := ⟨6 - r, by omega⟩
    have before : Grammar.Layer unary (m + 1) (tokens lhs.chain.words) lhs.expr := by
      apply left rankedLeft (fun l member => operators l (by simp [chain, member]))
        (fun u member => operands u (List.mem_append_left _ member))
      intro o top'
      have loose := looseLeft o top'
      simp only [rank, found, Option.getD_some] at loose ⊢
      omega
    have after : Grammar.Layer unary m (tokens rhs.chain.words) rhs.expr := by
      apply right rankedRight (fun l member => operators l (by simp [chain, member]))
        (fun u member => operands u (List.mem_append_right _ member))
      intro o top'
      have loose := looseRight o top'
      simp only [rank, found, Option.getD_some] at loose ⊢
      omega
    have whole := before.join found after
    rw [words_join, tokens_append, tokens_cons]
    apply whole.mono (by omega)

end Tree

/-- Precedence climbing from the loosest rank reads a chain of operands and operators before words that do
not go on with it: all of the chain, as the one grouping in which the operator at the top of every left side
binds as tight or tighter, and the operator at the top of every right side binds tighter. -/
theorem expr_groups (n : Nat) (site : Site) (c : Chain) (rest : List Word)
    (operands : ∀ u ∈ c.operands, u.IsRead n site)
    (operators : ∀ l ∈ c.links, l.1.token.kind.rank? ≠ none)
    (stops : ∀ w ∈ rest.head?, w.token.kind.rank? = none ∧ w.token.kind ≠ .leftParen
      ∧ w.token.kind ≠ .dot) :
  expr n = climb (unary n) 1
    ∧ (∃! t : Tree, t.chain = c ∧ t.Ranked)
    ∧ ∀ t : Tree, t.chain = c → t.Ranked →
      expr n site (c.words ++ rest) = ⟨some t.expr, rest, lexical c.words⟩
  := by
  have unique : ∀ t t' : Tree, t.chain = c ∧ t.Ranked → t'.chain = c ∧ t'.Ranked → t' = t := by
    rintro t t' ⟨rfl, ranked⟩ ⟨same, ranked'⟩
    apply ranked'.unique ranked same
  obtain ⟨t, grouped⟩ := Tree.exists_ranked c
  refine ⟨expr_eq_climb n, ⟨t, grouped, fun t' => unique t t' grouped⟩, ?_⟩
  rintro t rfl ranked
  have phrases : ∀ u ∈ t.chain.operands, Grammar.Unary n (tokens u.words) u.value := by
    intro u member
    obtain ⟨after, reads⟩ := operands u member
    apply (Grammar.unary_follows n).phrase_of_reads reads
  have tight : ∀ o ∈ t.root?, 6 < rank o + 6 := by
    intro o top
    obtain ⟨l, member, rfl⟩ := Tree.mem_links_of_root? top
    obtain ⟨r, found⟩ := Option.ne_none_iff_exists'.mp (operators l member)
    obtain ⟨low, -⟩ := Kind.rank?_bounds found
    simp only [rank, found, Option.getD_some]
    omega
  have whole := ranked.layer operators phrases tight
  rw [Grammar.layer_six] at whole
  have halts : Grammar.Stops 6 (tokens rest) := by
    intro t first
    rw [tokens, List.head?_map] at first
    obtain ⟨w, next, rfl⟩ := Option.map_eq_some_iff.mp first
    obtain ⟨none, paren, dot⟩ := stops w next
    rintro (found | found | ⟨m, -, found⟩)
    · apply paren found
    · apply dot found
    · rw [none] at found
      cases found
  have reads := Grammar.expr_accepts n _ _ _ whole site t.chain.words rest rfl rfl halts
  apply reads.run_eq (expr_built n) rfl

/-- A difference of a difference and a product, before a closing parenthesis. -/
theorem expr_groups_difference :
  let word (k : Kind) : Word := ⟨Grammar.sample k, []⟩
  let rest := [word .rightParen, word .plus]
  expr 1 ⟨.start, 255⟩ (word .number :: word .minus :: word .string :: word .minus :: word .kwTrue
      :: word .star :: word .identifier :: rest)
    = ⟨some (.binary .minus (.binary .minus (.number "") (.string ""))
        (.binary .star (.bool true) (.identifier ""))), rest, []⟩
  := by
  intro word rest
  let one (k : Kind) (e : Expr) : Operand := ⟨[word k], e⟩
  let c : Chain := ⟨one .number (.number ""), [(word .minus, one .string (.string "")),
    (word .minus, one .kwTrue (.bool true)), (word .star, one .identifier (.identifier ""))]⟩
  let t : Tree := .join (word .minus)
    (.join (word .minus) (.operand (one .number (.number ""))) (.operand (one .string (.string ""))))
    (.join (word .star) (.operand (one .kwTrue (.bool true)))
      (.operand (one .identifier (.identifier ""))))
  have operands : ∀ u ∈ c.operands, u.IsRead 1 ⟨.start, 255⟩ := by
    simp only [c, one, Chain.operands, List.map_cons, List.map_nil, List.forall_mem_cons]
    exact ⟨⟨[], [], rfl, nofun⟩, ⟨[], [], rfl, nofun⟩, ⟨[], [], rfl, nofun⟩, ⟨[], [], rfl, nofun⟩, nofun⟩
  have operators : ∀ l ∈ c.links, l.1.token.kind.rank? ≠ none := by
    simp [c, word, Grammar.sample, Kind.rank?]
  have ranked : t.Ranked := by
    simp [t, word, Tree.Ranked, Tree.root?, rank, Grammar.sample, Kind.rank?]
  have stops : ∀ w ∈ rest.head?, w.token.kind.rank? = none ∧ w.token.kind ≠ .leftParen
      ∧ w.token.kind ≠ .dot := by
    simp [rest, word, Grammar.sample, Kind.rank?]
  obtain ⟨-, -, read⟩ := expr_groups 1 ⟨.start, 255⟩ c rest operands operators stops
  exact read t rfl ranked

end Operators

end PlanetServer
