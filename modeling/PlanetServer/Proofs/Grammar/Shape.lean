import PlanetServer.Proofs.Grammar.Basic
import PlanetServer.Syntax.Expression

/-!
# The shape of phrases

How phrases begin, what they do not contain, and how much of what follows a statement matters to it.

* `Starts` says that a sequence begins with a token of some kinds. Expressions begin with one of the
  kinds in `exprStart`, statements with one of these or with a keyword.
* `Plain` says that no token assigns, which holds of expressions.
* `Stable` says that a clause depends on what follows only through `Ends`, that is on whether a
  statement may end there without a token of its own.
-/

namespace PlanetServer.Grammar

/-- A phrase and the token that closes it. -/
def Closed {α : Type} (k : Kind) (phrase : Phrase α) : Phrase α :=
  fun w a => ∃ v t, w = v ++ [t] ∧ phrase v a ∧ t.kind = k

/-! ### How phrases begin -/

/-- The first token is of one of the kinds. -/
def Starts (kinds : KindSet) : List Token → Prop
  | [] => False
  | t :: _ => kinds.contains t.kind

theorem Starts.append {kinds : KindSet} {w : List Token} (h : Starts kinds w) (v : List Token) :
  Starts kinds (w ++ v)
  := by
  cases w with
  | nil => apply h.elim
  | cons t w => apply h

theorem Starts.of_kind {kinds : KindSet} {k : Kind} (h : kinds.contains k) {t : Token}
    (found : t.kind = k) {w : List Token} :
  Starts kinds (t :: w)
  := by
  subst found
  apply h

theorem Chain.starts {kinds : KindSet} {ops : List Kind} {operand : Phrase Expr}
    (h : ∀ w e, operand w e → Starts kinds w) {w : List Token} {e : Expr}
    (chain : Chain ops operand w e) :
  Starts kinds w
  := by
  induction chain with
  | single first => apply h _ _ first
  | join _ _ _ ih => apply ih.append _

theorem Separated.starts {α : Type} {kinds : KindSet} {divider : Kind} {item : Phrase α}
    (h : ∀ w a, item w a → Starts kinds w) {w : List Token} {as : List α}
    (list : Separated divider item w as) :
  Starts kinds w
  := by
  cases list with
  | last first => apply h _ _ first
  | cons first _ _ => apply (h _ _ first).append _

theorem Name.starts {w : List Token} {name : String} (whole : Name w name) :
  Starts (.ofList [.identifier]) w
  := by
  obtain ⟨ident⟩ := whole
  exact .of_kind (by decide) ident

theorem Expression.starts {unary : Phrase Expr} (h : ∀ w e, unary w e → Starts exprStart w)
    {w : List Token} {e : Expr} (whole : Expression unary w e) :
  Starts exprStart w
  := by
  revert whole
  apply Chain.starts; intro w e; apply Chain.starts; intro w e; apply Chain.starts; intro w e
  apply Chain.starts; intro w e; apply Chain.starts; intro w e; apply Chain.starts
  apply h

theorem Starts.mono {kinds kinds' : KindSet} (h : ∀ k : Kind, kinds.contains k → kinds'.contains k)
    {w : List Token} (first : Starts kinds w) :
  Starts kinds' w
  := by
  cases w with
  | nil => apply first
  | cons t w => apply h _ first

/-- The kinds that an expression without a sign can start with. -/
def primaryStart : KindSet :=
  .ofList [.number, .string, .identifier, .kwTrue, .kwFalse, .leftParen]

theorem Primary.starts {unary : Phrase Expr} {w : List Token} {e : Expr}
    (whole : Primary unary w e) :
  Starts primaryStart w
  := by
  cases whole with
  | number found => exact .of_kind (by decide) found
  | string found => exact .of_kind (by decide) found
  | identifier found => exact .of_kind (by decide) found
  | true found => exact .of_kind (by decide) found
  | false found => exact .of_kind (by decide) found
  | parens found _ _ => exact .of_kind (by decide) found

theorem Postfix.starts {unary : Phrase Expr} {w : List Token} {e : Expr}
    (whole : Postfix unary w e) :
  Starts primaryStart w
  := by
  induction whole with
  | primary first => apply first.starts
  | call _ _ _ _ ih =>
    rw [List.append_assoc]
    apply ih.append _
  | member _ _ _ ih => apply ih.append _

theorem Unary.starts {n : Nat} {w : List Token} {e : Expr} (whole : Unary n w e) :
  Starts exprStart w
  := by
  cases n with
  | zero => apply whole.elim
  | succ n =>
    cases whole with
    | sign sign _ =>
      rcases sign with found | found
      · exact .of_kind (by decide) found
      · exact .of_kind (by decide) found
    | plain whole => apply whole.starts.mono (by decide)

/-- The kinds that a statement can start with. -/
def stmtStart : KindSet :=
  exprStart.union (.ofList [.kwVar, .kwDef, .kwIf, .kwWhile, .kwReturn, .kwImport, .kwExecute])

theorem Statement.starts {n : Nat} {w after : List Token} {s : Stmt} (whole : Statement n w after s) :
  Starts stmtStart w
  := by
  cases n with
  | zero => apply whole.elim
  | succ n =>
    cases whole with
    | declaration found => exact .of_kind (by decide) found
    | definition found => exact .of_kind (by decide) found
    | function found => exact .of_kind (by decide) found
    | conditional found => exact .of_kind (by decide) found
    | loop found => exact .of_kind (by decide) found
    | ret found => exact .of_kind (by decide) found
    | result found => exact .of_kind (by decide) found
    | use found => exact .of_kind (by decide) found
    | execute found => exact .of_kind (by decide) found
    | assignment found => exact .of_kind (by decide) found
    | expression whole _ =>
      have first := Expression.starts (fun _ _ => Unary.starts) whole
      apply (first.mono (by decide)).append _

/-! ### What stands inside expressions -/

/-- No token assigns. -/
def Plain (w : List Token) : Prop :=
  ∀ t ∈ w, t.kind ≠ .assign

theorem Plain.append {w v : List Token} (h : Plain w) (h' : Plain v) :
  Plain (w ++ v)
  := by
  intro t member
  rcases List.mem_append.mp member with member | member
  · apply h t member
  · apply h' t member

theorem Plain.cons {k : Kind} (other : k ≠ .assign) {t : Token} (found : t.kind = k) {w : List Token}
    (h : Plain w) :
  Plain (t :: w)
  := by
  subst found
  exact List.forall_mem_cons.mpr ⟨other, h⟩

theorem Plain.nil : Plain [] := nofun

theorem Separated.plain {α : Type} {divider : Kind} {item : Phrase α} (other : divider ≠ .assign)
    (h : ∀ w a, item w a → Plain w) {w : List Token} {as : List α}
    (list : Separated divider item w as) :
  Plain w
  := by
  induction list with
  | last first => apply h _ _ first
  | cons first found _ ih => apply (h _ _ first).append (.cons other found ih)

theorem Chain.plain {ops : List Kind} {operand : Phrase Expr} (other : .assign ∉ ops)
    (h : ∀ w e, operand w e → Plain w) {w : List Token} {e : Expr} (chain : Chain ops operand w e) :
  Plain w
  := by
  induction chain with
  | single first => apply h _ _ first
  | join _ joins last ih =>
    apply ih.append (.cons (fun eq => other (eq ▸ joins)) rfl (h _ _ last))

section

variable {unary : Phrase Expr} (h : ∀ w e, unary w e → Plain w) {w : List Token} {e : Expr}

include h

theorem Expression.plain (whole : Expression unary w e) :
  Plain w
  := by
  revert whole
  apply Chain.plain (by decide); intro w e; apply Chain.plain (by decide); intro w e
  apply Chain.plain (by decide); intro w e; apply Chain.plain (by decide); intro w e
  apply Chain.plain (by decide); intro w e; apply Chain.plain (by decide)
  apply h

theorem Primary.plain (whole : Primary unary w e) :
  Plain w
  := by
  cases whole with
  | number found => exact .cons (by decide) found .nil
  | string found => exact .cons (by decide) found .nil
  | identifier found => exact .cons (by decide) found .nil
  | true found => exact .cons (by decide) found .nil
  | false found => exact .cons (by decide) found .nil
  | parens found inner found' =>
    exact .cons (by decide) found ((inner.plain h).append (.cons (by decide) found' .nil))

theorem Arguments.plain {args : List Expr} (whole : Arguments unary w args) :
  Plain w
  := by
  cases whole with
  | none => exact .nil
  | some list => apply list.plain (by decide) fun _ _ inner => inner.plain h

theorem Postfix.plain (whole : Postfix unary w e) :
  Plain w
  := by
  induction whole with
  | primary first => apply first.plain h
  | call _ found args found' ih =>
    rw [List.append_assoc]
    apply ih.append (.cons (by decide) found ((args.plain h).append (.cons (by decide) found' .nil)))
  | member _ found found' ih =>
    apply ih.append (.cons (by decide) found (.cons (by decide) found' .nil))

end

theorem Unary.plain {n : Nat} {w : List Token} {e : Expr} (whole : Unary n w e) :
  Plain w
  := by
  induction n generalizing w e with
  | zero => apply whole.elim
  | succ n ih =>
    cases whole with
    | sign sign inner =>
      rcases sign with found | found
      · exact .cons (by decide) found (ih inner)
      · exact .cons (by decide) found (ih inner)
    | plain whole => apply whole.plain fun _ _ => ih

/-! ### What follows a statement -/

/-- A statement may end before these tokens without a token of its own. -/
def Ends : List Token → Prop
  | [] => True
  | t :: _ => t.kind = .rightBrace

/-- Of what follows a phrase, only matters whether a statement may end there. -/
def Stable {α : Type} (clause : Clause α) : Prop :=
  ∀ w after after' a, clause w after a → (Ends after → Ends after') → clause w after' a

theorem Terminator.stable {t after after' : List Token} (h : Terminator t after)
    (ends : Ends after → Ends after') :
  Terminator t after'
  := by
  cases h with
  | semicolon found => exact .semicolon found
  | newline found => exact .newline found
  | brace found =>
    rcases after' with _ | ⟨t, after'⟩
    · exact .finish
    · exact .brace (ends found)
  | finish =>
    rcases after' with _ | ⟨t, after'⟩
    · exact .finish
    · exact .brace (ends trivial)

theorem ElseBranch.stable {statement : Clause Stmt} (h : Stable statement) :
  Stable (ElseBranch statement)
  := by
  intro w after after' branch phrase ends
  cases phrase with
  | none => exact .none
  | elseIf lines found found' inner => exact .elseIf lines found found' (h _ _ _ _ inner ends)
  | block lines found inner => exact .block lines found inner

theorem Statement.stable (n : Nat) :
  Stable (Statement n)
  := by
  induction n with
  | zero => exact fun _ _ _ _ phrase => phrase.elim
  | succ n ih =>
    intro w after after' s phrase ends
    cases phrase with
    | declaration found ident last => exact .declaration found ident (last.stable ends)
    | definition found ident assigns e last =>
      exact .definition found ident assigns e (last.stable ends)
    | function found ident l params r body => exact .function found ident l params r body
    | conditional found e body branch =>
      exact .conditional found e body (ElseBranch.stable ih _ _ _ _ branch ends)
    | loop found e body => exact .loop found e body
    | ret found last => exact .ret found (last.stable ends)
    | result found e last => exact .result found e (last.stable ends)
    | use found path last => exact .use found path (last.stable ends)
    | execute found e last => exact .execute found e (last.stable ends)
    | assignment ident assigns e last => exact .assignment ident assigns e (last.stable ends)
    | expression e last => exact .expression e (last.stable ends)

end PlanetServer.Grammar
