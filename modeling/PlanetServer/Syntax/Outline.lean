import PlanetServer.Syntax.Tree
import PlanetServer.Text.Quoted

/-!
# Outlines of syntax trees

A tree on one line: each node in parentheses with its name first, lists in brackets, a dash for
what is not there, and texts in quotes.
-/

namespace PlanetServer

/-- Parts in brackets, divided by spaces. -/
def bracketed (parts : List String) : String :=
  "[" ++ " ".intercalate parts ++ "]"

/-- A node: its name and its parts in parentheses, divided by spaces. -/
def outlineNode (name : String) (parts : List String) : String :=
  "(" ++ " ".intercalate (name :: parts) ++ ")"

mutual

/-- The outline of an expression. -/
def Expr.outline : Expr → String
  | .number text => outlineNode "num" [Text.quote text]
  | .string text => outlineNode "str" [Text.quote text]
  | .bool value => outlineNode "bool" [if value then "true" else "false"]
  | .identifier name => outlineNode "id" [Text.quote name]
  | .unary op operand => outlineNode op.label [operand.outline]
  | .binary op lhs rhs => outlineNode op.label [lhs.outline, rhs.outline]
  | .call callee args => outlineNode "call" [callee.outline, bracketed (Expr.outlines args)]
  | .member object name => outlineNode "member" [object.outline, Text.quote name]

/-- The outlines of expressions. -/
def Expr.outlines : List Expr → List String
  | [] => []
  | e :: es => e.outline :: Expr.outlines es

end

/-- The outline of an expression, or a dash. -/
def Expr.outlineOrDash : Option Expr → String
  | some e => e.outline
  | none => "-"

mutual

/-- The outline of a statement. -/
def Stmt.outline : Stmt → String
  | .var name value => outlineNode "var" [Text.quote name, Expr.outlineOrDash value]
  | .define name params body =>
    outlineNode "def"
      [Text.quote name, bracketed (params.map Text.quote), bracketed (Stmt.outlines body)]
  | .cond condition thenBranch none =>
    outlineNode "if" [condition.outline, bracketed (Stmt.outlines thenBranch), "-"]
  | .cond condition thenBranch (some elseBranch) =>
    outlineNode "if"
      [condition.outline, bracketed (Stmt.outlines thenBranch),
       bracketed (Stmt.outlines elseBranch)]
  | .loop condition body =>
    outlineNode "while" [condition.outline, bracketed (Stmt.outlines body)]
  | .ret value => outlineNode "return" [Expr.outlineOrDash value]
  | .use path => outlineNode "import" [bracketed (path.map Text.quote)]
  | .execute value => outlineNode "execute" [value.outline]
  | .assign target value => outlineNode "assign" [Text.quote target, value.outline]
  | .expr value => outlineNode "expr" [value.outline]

/-- The outlines of statements. -/
def Stmt.outlines : List Stmt → List String
  | [] => []
  | s :: ss => s.outline :: Stmt.outlines ss

end

end PlanetServer
