import PlanetServer.Syntax.Tree
import PlanetServer.Token.Basic

/-!
# The grammar

Which sequences of significant tokens are programs, and which tree each of them stands for. The
grammar does not say how to read them.

* A `Phrase` relates sequences of tokens to what they stand for.
* A `Clause` also depends on the tokens that follow, because a statement may end before a closing
  brace or at the end of the document without a token of its own.

Levels are limited. `Unary n` and `Statement n` are the operands and the statements where `n` levels
may still be entered: each sign, each operand, each statement and each `else if` enters one, and what
stands inside has one less. A document starts with all of them.
-/

namespace PlanetServer.Grammar

/-- Sequences of tokens and what they stand for. -/
def Phrase (α : Type) : Type :=
  List Token → α → Prop

/-- Sequences of tokens, the tokens that follow them, and what they stand for. -/
def Clause (α : Type) : Type :=
  List Token → List Token → α → Prop

/-- One or more items with a divider between any two of them: `item (divider item)*`. -/
inductive Separated {α : Type} (divider : Kind) (item : Phrase α) : Phrase (List α)
  | last {w : List Token} {a : α} :
      item w a → Separated divider item w [a]
  | cons {w v : List Token} {d : Token} {a : α} {as : List α} :
      item w a → d.kind = divider → Separated divider item v as →
      Separated divider item (w ++ d :: v) (a :: as)

/-- A single name. -/
inductive Name : Phrase String
  | mk {t : Token} : t.kind = .identifier → Name [t] t.text

/-! ### Expressions -/

/-- Operands joined by operators of some kinds, grouped to the left: `operand (op operand)*`. -/
inductive Chain (ops : List Kind) (operand : Phrase Expr) : Phrase Expr
  | single {w : List Token} {e : Expr} :
      operand w e → Chain ops operand w e
  | join {v w : List Token} {op : Token} {lhs rhs : Expr} :
      Chain ops operand v lhs → op.kind ∈ ops → operand w rhs →
      Chain ops operand (v ++ op :: w) (.binary op.kind lhs rhs)

section

variable (unary : Phrase Expr)

/-- Products: `mul: unary (('*'|'/'|'%') unary)*`. -/
def Mul : Phrase Expr :=
  Chain [.star, .slash, .percent] unary

/-- Sums: `add: mul (('+'|'-') mul)*`. -/
def Add : Phrase Expr :=
  Chain [.plus, .minus] (Mul unary)

/-- Comparisons: `cmp: add (('<'|'<='|'>'|'>=') add)*`. -/
def Cmp : Phrase Expr :=
  Chain [.less, .lessEqual, .greater, .greaterEqual] (Add unary)

/-- Equations: `eq: cmp (('=='|'!=') cmp)*`. -/
def Equality : Phrase Expr :=
  Chain [.equal, .notEqual] (Cmp unary)

/-- Conjunctions: `and: eq ('&&' eq)*`. -/
def Conjunction : Phrase Expr :=
  Chain [.and] (Equality unary)

/-- Expressions: `expr: or` and `or: and ('||' and)*`. -/
def Expression : Phrase Expr :=
  Chain [.or] (Conjunction unary)

/-- Simple expressions: `primary: Number | String | Identifier | 'true' | 'false' | '(' expr ')'`.
Parentheses leave no trace. -/
inductive Primary : Phrase Expr
  | number {t : Token} : t.kind = .number → Primary [t] (.number t.text)
  | string {t : Token} : t.kind = .string → Primary [t] (.string t.text)
  | identifier {t : Token} : t.kind = .identifier → Primary [t] (.identifier t.text)
  | true {t : Token} : t.kind = .kwTrue → Primary [t] (.bool true)
  | false {t : Token} : t.kind = .kwFalse → Primary [t] (.bool false)
  | parens {l r : Token} {w : List Token} {e : Expr} :
      l.kind = .leftParen → Expression unary w e → r.kind = .rightParen →
      Primary (l :: w ++ [r]) e

/-- The arguments of a call: `args?`, where `args: expr (',' expr)*`. -/
inductive Arguments : Phrase (List Expr)
  | none : Arguments [] []
  | some {w : List Token} {args : List Expr} :
      Separated .comma (Expression unary) w args → Arguments w args

/-- Calls and members: `postfix: primary ('(' args? ')' | '.' Identifier)*`, grouped to the left. -/
inductive Postfix : Phrase Expr
  | primary {w : List Token} {e : Expr} :
      Primary unary w e → Postfix w e
  | call {v w : List Token} {l r : Token} {e : Expr} {args : List Expr} :
      Postfix v e → l.kind = .leftParen → Arguments unary w args → r.kind = .rightParen →
      Postfix (v ++ l :: w ++ [r]) (.call e args)
  | member {v : List Token} {dot name : Token} {e : Expr} :
      Postfix v e → dot.kind = .dot → name.kind = .identifier →
      Postfix (v ++ [dot, name]) (.member e name.text)

/-- Operands: `('-'|'!') unary | postfix`, where `unary` stands for what is one level deeper. -/
inductive Signed : Phrase Expr
  | sign {op : Token} {w : List Token} {e : Expr} :
      op.kind = .minus ∨ op.kind = .bang → unary w e → Signed (op :: w) (.unary op.kind e)
  | plain {w : List Token} {e : Expr} :
      Postfix unary w e → Signed w e

end

/-- Operands, where `n` levels may still be entered. -/
def Unary : Nat → Phrase Expr
  | 0 => fun _ _ => False
  | n + 1 => Signed (Unary n)

/-! ### Statements -/

/-- The end of a statement: `terminator: ';' | NEWLINE | <lookahead '}' or EOF>`. -/
inductive Terminator : List Token → List Token → Prop
  | semicolon {t : Token} {after : List Token} : t.kind = .semicolon → Terminator [t] after
  | newline {t : Token} {after : List Token} : t.kind = .newline → Terminator [t] after
  | brace {t : Token} {after : List Token} : t.kind = .rightBrace → Terminator [] (t :: after)
  | finish : Terminator [] []

/-- The inside of a block or document: `(NEWLINE | statement)*`. -/
inductive Body (statement : Clause Stmt) : Clause (List Stmt)
  | nil {after : List Token} : Body statement [] after []
  | newline {t : Token} {w after : List Token} {ss : List Stmt} :
      t.kind = .newline → Body statement w after ss → Body statement (t :: w) after ss
  | cons {v w after : List Token} {s : Stmt} {ss : List Stmt} :
      statement v (w ++ after) s → Body statement w after ss →
      Body statement (v ++ w) after (s :: ss)

/-- Blocks: `block: '{' (NEWLINE | statement)* '}'`. -/
inductive Block (statement : Clause Stmt) : Phrase (List Stmt)
  | mk {l r : Token} {w : List Token} {ss : List Stmt} :
      l.kind = .leftBrace → Body statement w [r] ss → r.kind = .rightBrace →
      Block statement (l :: w ++ [r]) ss

/-- The parameters of a function: `(Identifier (',' Identifier)*)?`. -/
inductive Parameters : Phrase (List String)
  | none : Parameters [] []
  | some {w : List Token} {names : List String} :
      Separated .comma Name w names → Parameters w names

/-- The rest of a conditional statement: `(NEWLINE* 'else' (ifStmt | block))?`. The statement that
starts with the `if` after `else` is one level deeper. -/
inductive ElseBranch (statement : Clause Stmt) : Clause (Option (List Stmt))
  | none {after : List Token} : ElseBranch statement [] after none
  | elseIf {lines : List Token} {e i : Token} {w after : List Token} {s : Stmt} :
      (∀ t ∈ lines, t.kind = .newline) → e.kind = .kwElse → i.kind = .kwIf →
      statement (i :: w) after s →
      ElseBranch statement (lines ++ e :: i :: w) after (some [s])
  | block {lines : List Token} {e : Token} {w after : List Token} {ss : List Stmt} :
      (∀ t ∈ lines, t.kind = .newline) → e.kind = .kwElse → Block statement w ss →
      ElseBranch statement (lines ++ e :: w) after (some ss)

/-- The nine forms of statements, given the expressions and the statements inside. -/
inductive Form (expression : Phrase Expr) (statement : Clause Stmt) : Clause Stmt
  /-- As in `'var' Identifier terminator`. -/
  | declaration {k name : Token} {t after : List Token} :
      k.kind = .kwVar → name.kind = .identifier → Terminator t after →
      Form expression statement (k :: name :: t) after (.var name.text none)
  /-- As in `'var' Identifier '=' expr terminator`. -/
  | definition {k name eq : Token} {w t after : List Token} {e : Expr} :
      k.kind = .kwVar → name.kind = .identifier → eq.kind = .assign → expression w e →
      Terminator t after →
      Form expression statement (k :: name :: eq :: w ++ t) after (.var name.text (some e))
  /-- As in `'def' Identifier '(' (Identifier (',' Identifier)*)? ')' block`. -/
  | function {k name l r : Token} {p b after : List Token} {names : List String}
      {body : List Stmt} :
      k.kind = .kwDef → name.kind = .identifier → l.kind = .leftParen → Parameters p names →
      r.kind = .rightParen → Block statement b body →
      Form expression statement (k :: name :: l :: p ++ r :: b) after
        (.define name.text names body)
  /-- As in `'if' expr block (NEWLINE* 'else' (ifStmt | block))?`. -/
  | conditional {k : Token} {c b w after : List Token} {e : Expr} {body : List Stmt}
      {branch : Option (List Stmt)} :
      k.kind = .kwIf → expression c e → Block statement b body →
      ElseBranch statement w after branch →
      Form expression statement (k :: c ++ b ++ w) after (.cond e body branch)
  /-- As in `'while' expr block`. -/
  | loop {k : Token} {c b after : List Token} {e : Expr} {body : List Stmt} :
      k.kind = .kwWhile → expression c e → Block statement b body →
      Form expression statement (k :: c ++ b) after (.loop e body)
  /-- As in `'return' terminator`. -/
  | ret {k : Token} {t after : List Token} :
      k.kind = .kwReturn → Terminator t after →
      Form expression statement (k :: t) after (.ret none)
  /-- As in `'return' expr terminator`. -/
  | result {k : Token} {w t after : List Token} {e : Expr} :
      k.kind = .kwReturn → expression w e → Terminator t after →
      Form expression statement (k :: w ++ t) after (.ret (some e))
  /-- As in `'import' Identifier ('.' Identifier)* terminator`. -/
  | use {k : Token} {w t after : List Token} {path : List String} :
      k.kind = .kwImport → Separated .dot Name w path → Terminator t after →
      Form expression statement (k :: w ++ t) after (.use path)
  /-- As in `'execute' expr terminator`. -/
  | execute {k : Token} {w t after : List Token} {e : Expr} :
      k.kind = .kwExecute → expression w e → Terminator t after →
      Form expression statement (k :: w ++ t) after (.execute e)
  /-- As in `Identifier '=' expr terminator`. -/
  | assignment {name eq : Token} {w t after : List Token} {e : Expr} :
      name.kind = .identifier → eq.kind = .assign → expression w e → Terminator t after →
      Form expression statement (name :: eq :: w ++ t) after (.assign name.text e)
  /-- As in `expr terminator`. -/
  | expression {w t after : List Token} {e : Expr} :
      expression w e → Terminator t after →
      Form expression statement (w ++ t) after (.expr e)

/-- Statements, where `n` levels may still be entered. -/
def Statement : Nat → Clause Stmt
  | 0 => fun _ _ _ => False
  | n + 1 => Form (Expression (Unary n)) (Statement n)

/-- Documents: `program: (NEWLINE | statement)* EOF`, where `n` levels may be entered. -/
def Program (n : Nat) : Phrase (List Stmt) :=
  fun w ss => Body (Statement n) w [] ss

end PlanetServer.Grammar
