import PlanetServer.Syntax.Failure

/-!
# Rules of the parser

A rule reads some of the words that lie ahead and either answers with a value or gives up. In
both cases it says which words are left and which failures it met, in order.

* A `Word` is a significant token with the hidden tokens that follow it, so that the rules only
  ever see significant tokens, and unreadable input is met in its place.
* Rules are put in sequence by `do`; a rule that gives up ends the sequence.
* `Rule.many` repeats a rule. Each round but the last has to use up a word, so one more round
  than there are words ahead is always enough.
-/

namespace PlanetServer

/-- A significant token and the hidden tokens between it and the next one. -/
structure Word where
  /-- The significant token. -/
  token : Token
  /-- The hidden tokens that follow it. -/
  trail : List Token
deriving DecidableEq

/-- The hidden tokens at the start of a list of tokens, and the words after them. -/
def Word.gather : List Token → List Token × List Word
  | [] => ([], [])
  | t :: ts =>
    let (lead, words) := gather ts
    if t.isHidden then (t :: lead, words) else ([], ⟨t, lead⟩ :: words)

/-- What a rule is told about its surroundings. -/
structure Site where
  /-- The end of the document. -/
  finish : Mark
  /-- How many rules are nested here. -/
  depth : Nat

/-- What a rule answers. -/
structure Reply (α : Type) where
  /-- The value that was read, none if the rule gave up. -/
  value : Option α
  /-- The words that are left. -/
  rest : List Word
  /-- The failures that were met, in order. -/
  failures : List Failure

/-- A rule reads words and answers with a value, or gives up. -/
def Rule (α : Type) : Type :=
  Site → List Word → Reply α

namespace Rule

variable {α β : Type}

/-- The rule that reads nothing. -/
protected def pure (a : α) : Rule α :=
  fun _ ahead => ⟨some a, ahead, []⟩

/-- One rule after the other; the second depends on the value of the first, and is left out
when the first gives up. -/
protected def bind (rule : Rule α) (next : α → Rule β) : Rule β :=
  fun site ahead =>
    match rule site ahead with
    | ⟨none, rest, failures⟩ => ⟨none, rest, failures⟩
    | ⟨some a, rest, failures⟩ =>
      let reply := next a site rest
      ⟨reply.value, reply.rest, failures ++ reply.failures⟩

instance : Monad Rule where
  pure := Rule.pure
  bind := Rule.bind

/-! ### Reading words -/

/-- The kind of the word `n` places ahead. -/
def lookahead (n : Nat) : Rule (Option Kind) :=
  fun _ ahead => ⟨some (ahead[n]?.map fun w => w.token.kind), ahead, []⟩

/-- The kind of the next word. -/
def peek : Rule (Option Kind) :=
  lookahead 0

/-- Whether the next word is of a kind. -/
def sees (k : Kind) : Rule Bool :=
  fun _ ahead => ⟨some (ahead.head?.any fun w => w.token.kind = k), ahead, []⟩

/-- The failures of the unreadable tokens in a list. -/
def unreadable (ts : List Token) : List Failure :=
  (ts.filter fun t => t.kind = .unknown).map Failure.ofUnreadable

/-- Reads the next word and answers with its text. At the end of the document there is no word
and no text. -/
def take : Rule String :=
  fun _ ahead =>
    match ahead with
    | [] => ⟨some "", [], []⟩
    | w :: rest => ⟨some w.token.text, rest, unreadable w.trail⟩

/-- Reads the next word. -/
def advance : Rule Unit :=
  fun _ ahead =>
    match ahead with
    | [] => ⟨some (), [], []⟩
    | w :: rest => ⟨some (), rest, unreadable w.trail⟩

/-! ### Giving up and going on -/

/-- The failure of the next word. -/
def failureAt (cause : Cause) (site : Site) (ahead : List Word) : Failure :=
  match ahead with
  | [] => ⟨none, site.finish, cause, site.depth⟩
  | w :: _ => ⟨some w.token, w.token.mark, cause, site.depth⟩

/-- Reports a failure of the next word, and goes on. -/
def report (cause : Cause) : Rule Unit :=
  fun site ahead => ⟨some (), ahead, [failureAt cause site ahead]⟩

/-- Reports a failure of the next word, and gives up. -/
def fail (cause : Cause) : Rule α :=
  fun site ahead => ⟨none, ahead, [failureAt cause site ahead]⟩

/-- The rule as one that never gives up: where it would, the value is none. -/
def attempt (rule : Rule α) : Rule (Option α) :=
  fun site ahead =>
    let reply := rule site ahead
    ⟨some reply.value, reply.rest, reply.failures⟩

/-- The rule, one level deeper. -/
def deeper (rule : Rule α) : Rule α :=
  fun site => rule ⟨site.finish, site.depth + 1⟩

/-- Reads a word of one kind and answers with its text. Other kinds that would have been
accepted here are named for the failure. -/
def expect (k : Kind) (others : KindSet) : Rule String := do
  if ← sees k then take else fail (.mismatch (others.insert k))

/-! ### Repetition -/

/-- What one round of a repetition found. -/
inductive Round (α : Type) where
  /-- One more item. -/
  | item (a : α)
  /-- Words that make no item. -/
  | skip
  /-- The end of the items. -/
  | stop

/-- At most `n` rounds of a repetition. -/
def rounds (round : Rule (Round α)) : Nat → Rule (List α)
  | 0 => fun _ ahead => ⟨none, ahead, []⟩
  | n + 1 => do
    match ← round with
    | .stop => return []
    | .skip => rounds round n
    | .item a => return a :: (← rounds round n)

/-- The items that rounds of a rule find, up to the round that finds the end of them. -/
def many (round : Rule (Round α)) : Rule (List α) :=
  fun site ahead => rounds round (ahead.length + 1) site ahead

/-- The items that a rule reads, each after a word of one kind. -/
def following (divider : Kind) (item : Rule α) : Rule (List α) :=
  many do
    if ← sees divider then
      advance
      return .item (← item)
    else
      return .stop

end Rule

end PlanetServer
