import PlanetServer.Syntax.Expression

/-!
# Rules for statements

Each statement is one level deeper than what surrounds it, and levels are limited. A statement
that gives up is left out: reading goes on after the next end of a statement, or before the next
closing brace, so that one reading of a document meets every independent failure in it.
-/

namespace PlanetServer.Parse

open PlanetServer.Rule

/-- The kinds that end a statement and are read with it. -/
def terminators : KindSet :=
  .ofList [.semicolon, .newline]

/-- The end of a statement. A closing brace and the end of the document end it too, and stay
ahead. Other kinds that would have been accepted here are named for the failure. -/
def terminator (others : KindSet) : Rule Unit := do
  match ← peek with
  | some .semicolon | some .newline => advance
  | none | some .rightBrace => return
  | some _ => fail (.mismatch (terminators.union others))

/-- One round of the search for a place to go on from. -/
def skipWord : Rule (Round Unit) := do
  match ← peek with
  | none | some .rightBrace => return .stop
  | some .semicolon | some .newline => return .stop
  | some _ =>
    advance
    return .skip

/-- Skips the rest of a statement and its end. A closing brace stays ahead. -/
def synchronize : Rule Unit := do
  let _ ← many skipWord
  match ← peek with
  | some .semicolon | some .newline => advance
  | _ => return

/-- A statement, or none where it gave up and the rest of it was skipped. -/
def recovered (statement : Rule Stmt) : Rule (Round Stmt) := do
  match ← attempt statement with
  | some s => return .item s
  | none =>
    synchronize
    return .skip

/-- One round of a block: the closing brace ends it, and the end of the document is a
failure. -/
def blockRound (statement : Rule Stmt) : Rule (Round Stmt) := do
  match ← peek with
  | some .newline =>
    advance
    return .skip
  | some .rightBrace =>
    advance
    return .stop
  | none => fail (.mismatch (.ofList [.rightBrace]))
  | some _ => recovered statement

/-- Statements in braces. Other kinds that would have been accepted in place of the opening
brace are named for the failure. -/
def block (statement : Rule Stmt) (others : KindSet) : Rule (List Stmt) := do
  let _ ← expect .leftBrace others
  many (blockRound statement)

/-- The declaration of a variable. -/
def varDecl (expr : Rule Expr) : Rule Stmt := do
  advance
  let name ← expect .identifier .empty
  if ← sees .assign then
    advance
    let value ← expr
    terminator exprContinuation
    return .var name (some value)
  else
    terminator (.ofList [.assign])
    return .var name none

/-- The parameters of a definition and the closing parenthesis. -/
def parameters : Rule (List String) := do
  if ← sees .identifier then
    let head ← take
    let tail ← following .comma (expect .identifier .empty)
    let _ ← expect .rightParen (.ofList [.comma])
    return head :: tail
  else
    let _ ← expect .rightParen (.ofList [.identifier])
    return []

/-- The definition of a function. -/
def defDecl (statement : Rule Stmt) : Rule Stmt := do
  advance
  let name ← expect .identifier .empty
  let _ ← expect .leftParen .empty
  let params ← parameters
  let body ← block statement .empty
  return .define name params body

/-- One round of the line ends before an `else`. -/
def skipNewline : Rule (Round Unit) := do
  if ← sees .newline then
    advance
    return .skip
  else
    return .stop

/-- Whether the next word that does not end a line is an `else`. -/
def elseAhead : Rule Bool :=
  fun _ ahead =>
    ⟨some ((ahead.dropWhile fun w => w.token.kind = .newline).head?.any
      fun w => w.token.kind = .kwElse), ahead, []⟩

/-- The else branch of a conditional statement, if there is one. The line ends before it are
read only with it. After `else if` stands a statement one level deeper. -/
def elseBranch (statement : Rule Stmt) : Rule (Option (List Stmt)) := do
  if ← elseAhead then
    let _ ← many skipNewline
    advance
    if ← sees .kwIf then
      return some [← statement]
    else
      return some (← block statement (.ofList [.kwIf]))
  else
    return none

/-- A conditional statement. -/
def ifStmt (expr : Rule Expr) (statement : Rule Stmt) : Rule Stmt := do
  advance
  let condition ← expr
  let thenBranch ← block statement exprContinuation
  let elseBranch ← elseBranch statement
  return .cond condition thenBranch elseBranch

/-- A loop. -/
def whileStmt (expr : Rule Expr) (statement : Rule Stmt) : Rule Stmt := do
  advance
  let condition ← expr
  let body ← block statement exprContinuation
  return .loop condition body

/-- The end of a function. -/
def returnStmt (expr : Rule Expr) : Rule Stmt := do
  advance
  if (← peek).any exprStart.contains then
    let value ← expr
    terminator exprContinuation
    return .ret (some value)
  else
    terminator exprStart
    return .ret none

/-- The use of a module. -/
def importStmt : Rule Stmt := do
  advance
  let head ← expect .identifier .empty
  let tail ← following .dot (expect .identifier .empty)
  terminator (.ofList [.dot])
  return .use (head :: tail)

/-- The execution of a command. -/
def executeStmt (expr : Rule Expr) : Rule Stmt := do
  advance
  let value ← expr
  terminator exprContinuation
  return .execute value

/-- A new value for a variable. -/
def assignment (expr : Rule Expr) : Rule Stmt := do
  let target ← take
  advance
  let value ← expr
  terminator exprContinuation
  return .assign target value

/-- An expression that stands as a statement. -/
def exprStmt (expr : Rule Expr) : Rule Stmt := do
  let value ← expr
  terminator exprContinuation
  return .expr value

/-- A statement by the kind of its first word, given the rules for what it contains. -/
def statementOf (expr : Rule Expr) (statement : Rule Stmt) : Rule Stmt := do
  match ← peek with
  | some .kwVar => varDecl expr
  | some .kwDef => defDecl statement
  | some .kwIf => ifStmt expr statement
  | some .kwWhile => whileStmt expr statement
  | some .kwReturn => returnStmt expr
  | some .kwImport => importStmt
  | some .kwExecute => executeStmt expr
  | some k =>
    if k = .identifier ∧ (← lookahead 1) = some .assign then assignment expr
    else if exprStart.contains k then exprStmt expr
    else fail .noViable
  | none => fail .noViable

/-- A statement, where `n` levels are left. -/
def statement : Nat → Rule Stmt
  | 0 => fail .tooDeep
  | n + 1 => deeper (statementOf (expr n) (statement n))

end PlanetServer.Parse
