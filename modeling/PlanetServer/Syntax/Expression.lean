import PlanetServer.Syntax.Rule
import PlanetServer.Syntax.Tree

/-!
# Rules for expressions

The rules are layered by the rank of the operators, from the loosest to the tightest, and then
come signs, calls and members, and the simplest expressions. Each sign and each operand is one
level deeper than what surrounds it, and levels are limited. `unary` is a recursion on the
levels that are left; all other rules are given the rule for operands one level below them.
-/

namespace PlanetServer

open Rule

/-- The kinds of the binary operators. -/
def binaryOperators : KindSet :=
  .ofList [.or, .and, .equal, .notEqual, .less, .lessEqual, .greater, .greaterEqual,
    .plus, .minus, .star, .slash, .percent]

/-- The kinds that can go on after a complete expression. -/
def exprContinuation : KindSet :=
  binaryOperators.union (.ofList [.leftParen, .dot])

/-- The kinds that an expression can start with. -/
def exprStart : KindSet :=
  .ofList [.number, .string, .identifier, .kwTrue, .kwFalse, .leftParen, .minus, .bang]

namespace Parse

/-- What can follow a simple expression and make a larger one of it. -/
inductive Suffix where
  /-- The arguments of a call. -/
  | call (args : List Expr)
  /-- The name of a member. -/
  | member (name : String)

/-- The expression with what followed it. -/
def Suffix.apply : Expr → Suffix → Expr
  | e, .call args => .call e args
  | e, .member name => .member e name

/-- The expression with an operator and its right operand. -/
def joinOperand (lhs : Expr) (tail : Kind × Expr) : Expr :=
  .binary tail.1 lhs tail.2

/-- Expressions in which all operators outside parentheses are among the `n` tightest ranks,
grouped to the left. -/
def layer (operand : Rule Expr) : Nat → Rule Expr
  | 0 => operand
  | n + 1 => do
    let lhs ← layer operand n
    let tails ← many do
      match ← peek with
      | some op =>
        if op.rank? = some (6 - n) then
          advance
          return .item (op, ← layer operand n)
        else
          return .stop
      | none => return .stop
    return tails.foldl joinOperand lhs

/-- An expression, given the rule for operands. -/
def exprOf (operand : Rule Expr) : Rule Expr :=
  layer operand 6

/-- The arguments of a call, after the opening parenthesis. -/
def arguments (operand : Rule Expr) : Rule (List Expr) := do
  if ← sees .rightParen then
    advance
    return []
  else
    let head ← exprOf operand
    let tail ← following .comma (exprOf operand)
    let _ ← expect .rightParen (exprContinuation.insert .comma)
    return head :: tail

/-- A number, a string, a truth value, a name, or an expression in parentheses. -/
def primary (operand : Rule Expr) : Rule Expr := do
  match ← peek with
  | some .number => return .number (← take)
  | some .string => return .string (← take)
  | some .identifier => return .identifier (← take)
  | some .kwTrue =>
    advance
    return .bool true
  | some .kwFalse =>
    advance
    return .bool false
  | some .leftParen =>
    advance
    let inner ← exprOf operand
    let _ ← expect .rightParen exprContinuation
    return inner
  | _ => fail .noViable

/-- One round of what follows a simple expression. -/
def suffix (operand : Rule Expr) : Rule (Round Suffix) := do
  match ← peek with
  | some .leftParen =>
    advance
    return .item (.call (← arguments operand))
  | some .dot =>
    advance
    return .item (.member (← expect .identifier .empty))
  | _ => return .stop

/-- A simple expression with its calls and members. -/
def suffixed (operand : Rule Expr) : Rule Expr := do
  let head ← primary operand
  let suffixes ← many (suffix operand)
  return suffixes.foldl Suffix.apply head

/-- An operand with its signs, where `n` levels are left. -/
def unary : Nat → Rule Expr
  | 0 => fail .tooDeep
  | n + 1 => deeper do
    match ← peek with
    | some .minus =>
      advance
      return .unary .minus (← unary n)
    | some .bang =>
      advance
      return .unary .bang (← unary n)
    | _ => suffixed (unary n)

/-- An expression, where `n` levels are left. -/
def expr (n : Nat) : Rule Expr :=
  exprOf (unary n)

end Parse

end PlanetServer
