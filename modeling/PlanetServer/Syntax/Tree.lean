import PlanetServer.Token.Kind

/-!
# Syntax trees

The expressions and statements of the Planet language. Parentheses leave no trace in the tree,
and an `else if` is an else branch that holds one conditional statement.
-/

namespace PlanetServer

/-- An expression. -/
inductive Expr where
  /-- A number, as it is written. -/
  | number (text : String)
  /-- A quoted string, as it is written, quotes included. -/
  | string (text : String)
  /-- `true` or `false`. -/
  | bool (value : Bool)
  /-- A name. -/
  | identifier (name : String)
  /-- A sign or a negation before an operand. -/
  | unary (op : Kind) (operand : Expr)
  /-- Two operands joined by an operator. -/
  | binary (op : Kind) (lhs rhs : Expr)
  /-- A call of an expression with arguments. -/
  | call (callee : Expr) (args : List Expr)
  /-- A named member of an expression. -/
  | member (object : Expr) (name : String)

/-- A statement. -/
inductive Stmt where
  /-- The declaration of a variable, perhaps with its first value. -/
  | var (name : String) (value : Option Expr)
  /-- The definition of a function. -/
  | define (name : String) (params : List String) (body : List Stmt)
  /-- A conditional statement. -/
  | cond (condition : Expr) (thenBranch : List Stmt) (elseBranch : Option (List Stmt))
  /-- A loop. -/
  | loop (condition : Expr) (body : List Stmt)
  /-- The end of a function, perhaps with its result. -/
  | ret (value : Option Expr)
  /-- The use of a module, by the names on the way to it. -/
  | use (path : List String)
  /-- The execution of a command. -/
  | execute (value : Expr)
  /-- A new value for a variable. -/
  | assign (target : String) (value : Expr)
  /-- An expression that stands as a statement. -/
  | expr (value : Expr)

end PlanetServer
