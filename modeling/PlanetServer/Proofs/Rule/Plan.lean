import PlanetServer.Proofs.Rule.Parser

/-!
# Plans of rules

A rule is a function, so how it is put together cannot be read off it. A plan of a rule says that: it
is a tree of the combinators whose composition is the rule. It refers to operands, statements and blocks
by name, as the rules of a grammar refer to each other, so it does not grow with the number of levels
that may be nested. What the parser does on the way, and not only what it answers, can be said of plans.

* `Rule.Plan` is the plan of a rule, where a number of levels are left.
* `Parse.unaryPlan` and `Parse.statementPlan` are the plans of what stands one level below an operand
  and a statement, made of the plans of the rules between them.
-/

namespace PlanetServer.Rule

/-- How a rule is put together, where `n` levels are left. -/
inductive Plan (n : Nat) : {α : Type} → Rule α → Type 1
  /-- The rule reads nothing. -/
  | pure {α : Type} (a : α) : Plan n (pure a : Rule α)
  /-- One rule after the other. -/
  | bind {α β : Type} {rule : Rule α} {next : α → Rule β} (first : Plan n rule)
      (second : ∀ a, Plan n (next a)) : Plan n (rule >>= next)
  /-- The rule looks at the kinds of the words ahead. -/
  | look {α : Type} {rule : Rule α} (f : List Kind → α) (same : rule = look f) : Plan n rule
  /-- The rule reads a word and answers with its text. -/
  | take : Plan n take
  /-- The rule reads a word. -/
  | advance : Plan n advance
  /-- The rule gives up. -/
  | fail {α : Type} (cause : Cause) (real : cause ≠ .unreadable) : Plan n (fail cause : Rule α)
  /-- The rule repeats another one, which uses up a word in each round but the last. -/
  | many {α : Type} {round : Rule (Round α)} (plan : Plan n round) (advances : Advances round) :
      Plan n (many round)
  /-- The rule reads an operand, one level deeper. -/
  | unary : Plan n (Parse.unary n)
  /-- The rule reads a statement, one level deeper. -/
  | statement : Plan n (Parse.statement n)
  /-- The rule reads statements in braces. -/
  | block (others : KindSet) : Plan n (Parse.block (Parse.statement n) others)

namespace Plan

variable {α : Type} {n : Nat}

/-- A rule with a plan is built from the combinators. -/
theorem built {rule : Rule α} (plan : Plan n rule) :
  Built rule
  := by
  induction plan with
  | pure a => apply Built.pure
  | bind _ _ first second => apply Built.bind first second
  | look f same =>
    rw [same]
    apply Built.look
  | take => apply Built.take
  | advance => apply Built.advance
  | fail cause real => apply Built.fail real
  | many _ advances round => apply Built.many round advances
  | unary => apply Parse.unary_built
  | statement => apply Parse.statement_built
  | block others => apply Parse.block_built (Parse.statement_built n) (Parse.statement_consumes n)

/-- The plan of a look at the next word. -/
def peek : Plan n Rule.peek :=
  .look _ (lookahead_eq_look 0)

/-- The plan of a look at a word further ahead. -/
def lookahead (m : Nat) : Plan n (Rule.lookahead m) :=
  .look _ (lookahead_eq_look m)

/-- The plan of the question for the kind of the next word. -/
def sees (k : Kind) : Plan n (Rule.sees k) :=
  .look _ (sees_eq_look k)

/-- The plan of a choice between two rules. -/
def ite {rule rule' : Rule α} {p : Prop} [Decidable p] (plan : Plan n rule) (plan' : Plan n rule') :
    Plan n (if p then rule else rule') :=
  if h : p then (if_pos h).symm ▸ plan else (if_neg h).symm ▸ plan'

/-- The plan of a word that is required. -/
def expect (k : Kind) (others : KindSet) : Plan n (Rule.expect k others) :=
  .bind (.sees k) fun _ => .ite .take (.fail _ (by simp))

/-- The plan of items that each follow a divider. -/
def following {item : Rule α} (plan : Plan n item) (divider : Kind) :
    Plan n (Rule.following divider item) :=
  .many
    (.bind (.sees divider) fun _ => .ite (.bind .advance fun _ => .bind plan fun _ => .pure _) (.pure _))
    (Parse.following_advances plan.built divider)

end Plan

end PlanetServer.Rule

namespace PlanetServer.Parse

open PlanetServer.Rule

variable {n : Nat}

/-! ### Expressions -/

/-- The plan of the operators of a rank and their right operands. -/
def tailsPlan {operand : Rule Expr} (plan : Plan n operand) (rank : Nat) :
    Plan n (many (tail rank operand)) :=
  .many
    (.bind .peek fun
      | some _ => .ite (.bind .advance fun _ => .bind plan fun _ => .pure _) (.pure _)
      | none => .pure _)
    (tail_advances plan.built rank)

/-- The plan of expressions by the rank of their operators. -/
def layerPlan : (m : Nat) → Plan n (layer (unary n) m)
  | 0 => .unary
  | m + 1 => .bind (layerPlan m) fun _ => .bind (tailsPlan (layerPlan m) _) fun _ => .pure _

/-- The plan of expressions. -/
def exprPlan : Plan n (expr n) :=
  layerPlan 6

/-- The plan of the arguments of a call. -/
def argumentsPlan : Plan n (arguments (unary n)) :=
  .bind (.sees _) fun _ => .ite (.bind .advance fun _ => .pure _)
    (.bind exprPlan fun _ => .bind (.following exprPlan _) fun _ =>
      .bind (.expect _ _) fun _ => .pure _)

/-- The plan of the simplest expressions. -/
def primaryPlan : Plan n (primary (unary n)) :=
  .bind .peek fun k => by
    split
    · exact .bind .take fun _ => .pure _
    · exact .bind .take fun _ => .pure _
    · exact .bind .take fun _ => .pure _
    · exact .bind .advance fun _ => .pure _
    · exact .bind .advance fun _ => .pure _
    · exact .bind .advance fun _ => .bind exprPlan fun _ => .bind (.expect _ _) fun _ =>
        .pure _
    · exact .fail _ (by simp)

/-- The plan of calls and members after an expression. -/
def suffixesPlan : Plan n (many (suffix (unary n))) :=
  .many
    (.bind .peek fun k => by
      split
      · exact .bind .advance fun _ => .bind argumentsPlan fun _ => .pure _
      · exact .bind .advance fun _ => .bind (.expect _ _) fun _ => .pure _
      · exact .pure _)
    (suffix_advances (unary_built n))

/-- The plan of simple expressions with their calls and members. -/
def suffixedPlan : Plan n (suffixed (unary n)) :=
  .bind primaryPlan fun _ => .bind suffixesPlan fun _ => .pure _

/-- What stands one level below an operand: its first sign and the operand behind it, or an expression
without a sign. -/
def unaryOf (operand : Rule Expr) : Rule Expr := do
  match ← peek with
  | some .minus =>
    advance
    return .unary .minus (← operand)
  | some .bang =>
    advance
    return .unary .bang (← operand)
  | _ => suffixed operand

theorem unary_succ (n : Nat) :
  unary (n + 1) = deeper (unaryOf (unary n))
  := rfl

/-- The plan of what stands one level below an operand. -/
def unaryPlan (n : Nat) : Plan n (unaryOf (unary n)) :=
  .bind .peek fun k => by
    split
    · exact .bind .advance fun _ => .bind .unary fun _ => .pure _
    · exact .bind .advance fun _ => .bind .unary fun _ => .pure _
    · exact suffixedPlan

/-! ### Statements -/

/-- The plan of the end of a statement. -/
def terminatorPlan (others : KindSet) : Plan n (terminator others) :=
  .bind .peek fun k => by
    split
    · exact .advance
    · exact .advance
    · exact .pure _
    · exact .pure _
    · exact .fail _ (by simp)

/-- The plan of the end of a statement that was read. -/
def endedPlan (others : KindSet) (s : Stmt) :
    Plan n (do
      terminator others
      return s) :=
  .bind (terminatorPlan others) fun _ => .pure s

/-- The plan of parameters. -/
def parametersPlan : Plan n parameters :=
  .bind (.sees _) fun _ => .ite
    (.bind .take fun _ => .bind (.following (.expect _ _) _) fun _ => .bind (.expect _ _) fun _ =>
      .pure _)
    (.bind (.expect _ _) fun _ => .pure _)

/-- The plan of an else branch. -/
def elseBranchPlan : Plan n (elseBranch (statement n)) :=
  .bind (.look _ elseAhead_eq_look) fun _ => .ite
    (.bind (.many (.bind (.sees _) fun _ => .ite (.bind .advance fun _ => .pure _) (.pure _))
        skipNewline_advances) fun _ =>
      .bind .advance fun _ => .bind (.sees _) fun _ => .ite
        (.bind .statement fun _ => .pure _)
        (.bind (.block _) fun _ => .pure _))
    (.pure _)

/-- The plan of the declaration of a variable. -/
def varDeclPlan : Plan n (varDecl (expr n)) :=
  .bind .advance fun _ => .bind (.expect _ _) fun _ => .bind (.sees _) fun _ => .ite
    (.bind .advance fun _ => .bind exprPlan fun _ => endedPlan _ _)
    (endedPlan _ _)

/-- The plan of the definition of a function. -/
def defDeclPlan : Plan n (defDecl (statement n)) :=
  .bind .advance fun _ => .bind (.expect _ _) fun _ => .bind (.expect _ _) fun _ =>
    .bind parametersPlan fun _ => .bind (.block _) fun _ => .pure _

/-- The plan of a conditional statement. -/
def ifStmtPlan : Plan n (ifStmt (expr n) (statement n)) :=
  .bind .advance fun _ => .bind exprPlan fun _ => .bind (.block _) fun _ =>
    .bind elseBranchPlan fun _ => .pure _

/-- The plan of a loop. -/
def whileStmtPlan : Plan n (whileStmt (expr n) (statement n)) :=
  .bind .advance fun _ => .bind exprPlan fun _ => .bind (.block _) fun _ => .pure _

/-- The plan of the end of a function. -/
def returnStmtPlan : Plan n (returnStmt (expr n)) :=
  .bind .advance fun _ => .bind .peek fun _ => .ite
    (.bind exprPlan fun _ => endedPlan _ _)
    (endedPlan _ _)

/-- The plan of the use of a module. -/
def importStmtPlan : Plan n importStmt :=
  .bind .advance fun _ => .bind (.expect _ _) fun _ => .bind (.following (.expect _ _) _) fun _ =>
    endedPlan _ _

/-- The plan of the execution of a command. -/
def executeStmtPlan : Plan n (executeStmt (expr n)) :=
  .bind .advance fun _ => .bind exprPlan fun _ => endedPlan _ _

/-- The plan of a new value for a variable. -/
def assignmentPlan : Plan n (assignment (expr n)) :=
  .bind .take fun _ => .bind .advance fun _ => .bind exprPlan fun _ => endedPlan _ _

/-- The plan of an expression that stands as a statement. -/
def exprStmtPlan : Plan n (exprStmt (expr n)) :=
  .bind exprPlan fun _ => endedPlan _ _

/-- The plan of what stands one level below a statement. -/
def statementPlan (n : Nat) : Plan n (statementOf (expr n) (statement n)) :=
  .bind .peek fun k => by
    split
    · exact varDeclPlan
    · exact defDeclPlan
    · exact ifStmtPlan
    · exact whileStmtPlan
    · exact returnStmtPlan
    · exact importStmtPlan
    · exact executeStmtPlan
    · exact .bind (.lookahead 1) fun _ => .ite assignmentPlan (.ite exprStmtPlan (.fail _ (by simp)))
    · exact .fail _ (by simp)

end PlanetServer.Parse
