import Mathlib.Logic.Relation
import PlanetServer.Proofs.Rule.Hidden
import PlanetServer.Proofs.Rule.Plan

/-!
# The parser as a machine

The parser, step by step. The machine keeps what the parser keeps while it runs: how many significant
tokens it has read, up to where it has looked for unreadable ones, how many levels are nested, and which
failures it has met. It carries out plans, and its stack holds what is left to do of each plan that was
begun. Nothing bounds the number of its steps.

* `Machine.State` is the state of the parser, and `Machine.State.bump`, `Machine.State.report` and
  `Machine.State.scan` are the only ways in which it changes, levels apart.
* `Machine.step` is one step. A level is entered only if fewer than `Parse.maxDepth` are nested, and is
  left when what was begun there has answered or given up.
* `Machine.Returns` says that what was begun is done, and for the first time since it was begun.
* `Machine.settled` is the state of the parser before given words.
-/

namespace PlanetServer

open Rule

/-! ### Streams by position -/

namespace Stream

variable (s : Stream)

/-- The words of a stream. -/
def words : List Word :=
  (Word.gather s.tokens).2

/-- The indices of the significant tokens. -/
def indices : List Nat :=
  s.significant.map Token.index

/-- The token after a number of significant ones. -/
def next? (pos : Nat) : Option Token :=
  s.indices[pos]?.bind fun index => s.tokens[index]?

/-- The kinds of the significant tokens after a number of them. -/
def kindsFrom (pos : Nat) : List Kind :=
  (s.indices.drop pos).filterMap fun index => s.tokens[index]?.map Token.kind

/-- The index of the token after a number of significant ones, or the number of all tokens. -/
def bound (pos : Nat) : Nat :=
  s.indices[pos]?.getD s.tokens.length

end Stream

namespace Machine

/-! ### States -/

/-- What the parser keeps while it runs. -/
structure State where
  /-- The number of significant tokens that were read. -/
  pos : Nat
  /-- The number of tokens among which unreadable ones were looked for. -/
  cursor : Nat
  /-- The number of levels that are nested. -/
  depth : Nat
  /-- The failures that were met, in order. -/
  failures : List Failure

/-- The state of the parser before it starts. -/
def State.start : State :=
  ⟨0, 0, 0, []⟩

namespace State

variable (stream : Stream) (state : State)

/-- The kind of the next token. -/
def kind? : Option Kind :=
  (stream.next? state.pos).map Token.kind

/-- Reports the unreadable tokens before the next one, as far as this was not done before. -/
def scan : State where
  pos := state.pos
  cursor := max state.cursor (stream.bound state.pos)
  depth := state.depth
  failures := state.failures
    ++ unreadable ((stream.tokens.take (stream.bound state.pos)).drop state.cursor)

/-- Reads the next token. -/
def bump : State :=
  scan stream
    { state with pos := if state.pos < stream.indices.length then state.pos + 1 else state.pos }

/-- Reports a failure of the next token. -/
def report (cause : Cause) : State where
  pos := state.pos
  cursor := state.cursor
  depth := state.depth
  failures :=
    let next := stream.next? state.pos
    state.failures ++ [⟨next, next.elim stream.finish Token.mark, cause, state.depth⟩]

/-- Enters a level. -/
def enter : State :=
  { state with depth := state.depth + 1 }

/-- Leaves a level. -/
def leave : State :=
  { state with depth := state.depth - 1 }

end State

/-! ### Steps -/

/-- What statements are read for. -/
inductive Loop where
  /-- The statements of a whole document. -/
  | document
  /-- The statements of a block. -/
  | block

/-- What is left to do when a rule has answered with a value of a type, or has given up. -/
inductive Stack : Type → Type 1
  /-- Nothing is left to do. -/
  | halt : Stack (List Stmt)
  /-- The rule after it is left. -/
  | bind {n : Nat} {α β : Type} {next : α → Rule β} (second : ∀ a, Plan n (next a))
      (below : Stack β) : Stack α
  /-- The level is left. -/
  | level {α : Type} (below : Stack α) : Stack α
  /-- More rounds of a repetition are left, after the items that were read. -/
  | many {n : Nat} {α : Type} {round : Rule (Round α)} (plan : Plan n round) (read : List α)
      (below : Stack (List α)) : Stack (Round α)
  /-- More statements are left, after those that were read. -/
  | statements (loop : Loop) (read : List Stmt) (below : Stack (List Stmt)) : Stack Stmt

/-- What the machine does next. -/
inductive Control : Type 1
  /-- It begins a plan. -/
  | run {n : Nat} {α : Type} {rule : Rule α} (plan : Plan n rule) (stack : Stack α)
  /-- A rule has answered, or has given up. -/
  | answer {α : Type} (value : Option α) (stack : Stack α)
  /-- It begins one more round of statements, after those that were read. -/
  | statements (loop : Loop) (read : List Stmt) (stack : Stack (List Stmt))
  /-- It begins a statement with recovery. -/
  | recover (loop : Loop) (read : List Stmt) (stack : Stack (List Stmt))
  /-- It searches for a place to go on from. -/
  | synchronize (loop : Loop) (read : List Stmt) (stack : Stack (List Stmt))

/-- The number of things that are left to do. -/
def Stack.height : {α : Type} → Stack α → Nat
  | _, .halt => 0
  | _, .bind _ below => below.height + 1
  | _, .level below => below.height + 1
  | _, .many _ _ below => below.height + 1
  | _, .statements _ _ below => below.height + 1

/-- How much is left to do. With the same stack, it is least where there is an answer already, then where
a round of statements begins, and most everywhere else. -/
def Control.rank : Control → Nat
  | .answer _ stack => 3 * stack.height
  | .statements _ _ stack => 3 * stack.height + 1
  | .run _ stack | .recover _ _ stack | .synchronize _ _ stack => 3 * stack.height + 2

/-- A configuration of the machine. -/
structure Config where
  /-- What is done next. -/
  control : Control
  /-- The state of the parser. -/
  state : State

/-- The configuration before the first step. -/
def start : Config :=
  ⟨.statements .document [] .halt, .start⟩

section

variable (stream : Stream)

/-- Begins a plan one level deeper, unless too many levels are nested. -/
def nested {α : Type} {rule : Nat → Rule α} (plan : (n : Nat) → Plan n (rule n)) (stack : Stack α)
    (state : State) : Config :=
  if state.depth < Parse.maxDepth then
    ⟨.run (plan (Parse.maxDepth - (state.depth + 1))) (.level stack), state.enter⟩
  else
    ⟨.answer none stack, state.report stream .tooDeep⟩

/-- The first step of a plan. -/
def begin {n : Nat} {α : Type} {rule : Rule α} (plan : Plan n rule) (stack : Stack α) (state : State) :
    Config :=
  match plan with
  | .pure a => ⟨.answer (some a) stack, state⟩
  | .bind first second => ⟨.run first (.bind second stack), state⟩
  | .look f _ => ⟨.answer (some (f (stream.kindsFrom state.pos))) stack, state⟩
  | .take => ⟨.answer (some ((stream.next? state.pos).elim "" Token.text)) stack, state.bump stream⟩
  | .advance => ⟨.answer (some ()) stack, state.bump stream⟩
  | .fail cause _ => ⟨.answer none stack, state.report stream cause⟩
  | .many plan _ => ⟨.run plan (.many plan [] stack), state⟩
  | .unary => nested stream Parse.unaryPlan stack state
  | .statement => nested stream Parse.statementPlan stack state
  | .block others =>
    if state.kind? stream = some .leftBrace then ⟨.statements .block [] stack, state.bump stream⟩
    else ⟨.answer none stack, state.report stream (.mismatch (others.insert .leftBrace))⟩

/-- Goes on with what is left to do. -/
def resume {α : Type} (value : Option α) (stack : Stack α) (state : State) : Option Config :=
  match stack, value with
  | .halt, _ => none
  | .bind _ below, none => some ⟨.answer none below, state⟩
  | .bind second below, some a => some ⟨.run (second a) below, state⟩
  | .level below, value => some ⟨.answer value below, state.leave⟩
  | .many _ _ below, none => some ⟨.answer none below, state⟩
  | .many _ read below, some .stop => some ⟨.answer (some read) below, state⟩
  | .many plan read below, some .skip => some ⟨.run plan (.many plan read below), state⟩
  | .many plan read below, some (.item a) => some ⟨.run plan (.many plan (read ++ [a]) below), state⟩
  | .statements loop read below, none => some ⟨.synchronize loop read below, state⟩
  | .statements loop read below, some s => some ⟨.statements loop (read ++ [s]) below, state⟩

/-- One round of the statements of a document or of a block. -/
def oneRound (loop : Loop) (read : List Stmt) (stack : Stack (List Stmt)) (state : State) : Config :=
  match loop with
  | .document =>
    let state := state.scan stream
    match state.kind? stream with
    | none => ⟨.answer (some read) stack, state⟩
    | some .newline => ⟨.statements .document read stack, state.bump stream⟩
    | some .rightBrace =>
      ⟨.statements .document read stack, (state.report stream .noViable).bump stream⟩
    | some _ => ⟨.recover .document read stack, state⟩
  | .block =>
    match state.kind? stream with
    | none => ⟨.answer none stack, state.report stream (.mismatch (.ofList [.rightBrace]))⟩
    | some .newline => ⟨.statements .block read stack, state.bump stream⟩
    | some .rightBrace => ⟨.answer (some read) stack, state.bump stream⟩
    | some _ => ⟨.recover .block read stack, state⟩

/-- One step of the search for a place to go on from. -/
def search (loop : Loop) (read : List Stmt) (stack : Stack (List Stmt)) (state : State) : Config :=
  match state.kind? stream with
  | none | some .rightBrace => ⟨.statements loop read stack, state⟩
  | some .semicolon | some .newline => ⟨.statements loop read stack, state.bump stream⟩
  | some _ => ⟨.synchronize loop read stack, state.bump stream⟩

/-- One step of the machine, none if it has come to its end. -/
def step (c : Config) : Option Config :=
  match c.control with
  | .run plan stack => some (begin stream plan stack c.state)
  | .answer value stack => resume value stack c.state
  | .statements loop read stack => some (oneRound stream loop read stack c.state)
  | .recover loop read stack =>
    let levels := Parse.maxDepth - c.state.depth
    some ⟨.run (.statement : Plan levels _) (.statements loop read stack), c.state⟩
  | .synchronize loop read stack => some (search stream loop read stack c.state)

/-- Steps of the machine, any number of them. -/
def Steps : Config → Config → Prop :=
  Relation.ReflTransGen fun c c' => step stream c = some c'

/-- Steps of the machine, any number of them, each taken where more is left to do than a floor. -/
def Above (floor : Nat) : Config → Config → Prop :=
  Relation.ReflTransGen fun c c' => floor < c.control.rank ∧ step stream c = some c'

/-- The machine comes to a configuration, before which more was always left to do than there. So it is
the first one where what was begun in between is done. -/
def Returns (c c' : Config) : Prop :=
  Above stream c'.control.rank c c'

end

/-! ### States before words -/

section

variable (stream : Stream)

/-- The state before words, where unreadable tokens were looked for up to the first one of them. -/
def settled (ahead : List Word) (depth : Nat) (failures : List Failure) : State where
  pos := stream.words.length - ahead.length
  cursor := stream.tokens.length - (Word.flatten ahead).length
  depth := depth
  failures := failures

variable {stream} (indexed : stream.IsIndexed) {ahead : List Word} (last : ahead <:+ stream.words)
  (depth : Nat) (failures : List Failure)

/-- The indices of the significant tokens are those of the words. -/
theorem indices_eq (stream : Stream) :
  stream.indices = stream.words.map fun w => w.token.index
  := by
  rw [Stream.indices, Stream.significant, ← Word.tokens_gather, Word.tokens, List.map_map]
  rfl

include last in
theorem drop_indices :
  stream.indices.drop (stream.words.length - ahead.length) = ahead.map fun w => w.token.index
  := by
  rw [indices_eq, ← List.map_drop, ← List.suffix_iff_eq_drop.mp last]

include last in
/-- The tokens of a stream are those before some of its last words and those of these words. -/
theorem tokens_split :
  ∃ before, stream.tokens = before ++ Word.flatten ahead
    ∧ before.length = stream.tokens.length - (Word.flatten ahead).length
  := by
  obtain ⟨read, whole⟩ := last
  have split : stream.tokens
      = (Word.gather stream.tokens).1 ++ Word.flatten read ++ Word.flatten ahead := by
    rw [List.append_assoc, ← Word.flatten_append, whole]
    exact (Word.flatten_gather stream.tokens).symm
  have lengths := congrArg List.length split
  refine ⟨_, split, ?_⟩
  simp only [List.length_append] at lengths ⊢
  omega

include indexed in
/-- The first one of some last words stands where the tokens before them end. -/
theorem index_eq {w : Word} (last : w :: ahead <:+ stream.words) :
  w.token.index = stream.tokens.length - (Word.flatten (w :: ahead)).length
  := by
  obtain ⟨before, split, length⟩ := tokens_split last
  rw [← length]
  apply indexed
  rw [split, List.getElem?_append_right (Nat.le_refl _), Nat.sub_self]
  rfl

include last in
/-- The token of a word is a significant one of the stream. -/
theorem token_mem {w : Word} (member : w ∈ ahead) :
  w.token ∈ stream.tokens ∧ w.token.isHidden = false
  := by
  have known : w.token ∈ Word.tokens stream.words := List.mem_map_of_mem (last.subset member)
  rw [Stream.words, Word.tokens_gather] at known
  simpa using known

include indexed last in
theorem bound_settled :
  stream.bound (settled stream ahead depth failures).pos = (settled stream ahead depth failures).cursor
  := by
  have next : stream.indices[stream.words.length - ahead.length]?
      = (ahead.map fun w => w.token.index).head? := by
    rw [← drop_indices last, List.head?_drop]
  unfold Stream.bound settled
  rw [next]
  cases ahead with
  | nil => rfl
  | cons w ahead => apply index_eq indexed last

include indexed last in
theorem kindsFrom_settled :
  stream.kindsFrom (settled stream ahead depth failures).pos = ahead.map fun w => w.token.kind
  := by
  unfold Stream.kindsFrom settled
  rw [drop_indices last, List.filterMap_map, ← List.filterMap_eq_map]
  apply List.filterMap_congr
  intro w member
  simp [indexed.getElem? (token_mem last member).1]

include indexed last in
theorem next?_settled :
  stream.next? (settled stream ahead depth failures).pos = ahead.head?.map Word.token
  := by
  have next : stream.indices[stream.words.length - ahead.length]?
      = (ahead.map fun w => w.token.index).head? := by
    rw [← drop_indices last, List.head?_drop]
  unfold Stream.next? settled
  rw [next]
  cases ahead with
  | nil => rfl
  | cons w ahead => apply indexed.getElem? (token_mem last List.mem_cons_self).1

include indexed last in
/-- The tokens between the cursor and the next word are looked through. -/
theorem scan_between {before between : List Token}
    (split : stream.tokens = before ++ between ++ Word.flatten ahead) :
  State.scan stream ⟨stream.words.length - ahead.length, before.length, depth, failures⟩
    = settled stream ahead depth (failures ++ unreadable between)
  := by
  have place : (before ++ between).length = stream.tokens.length - (Word.flatten ahead).length := by
    have lengths := congrArg List.length split
    rw [List.length_append] at lengths
    omega
  have upto : stream.bound (stream.words.length - ahead.length) = (before ++ between).length :=
    (bound_settled indexed last depth failures).trans place.symm
  have reached : max before.length (before ++ between).length = (before ++ between).length := by
    simp
  unfold State.scan settled
  dsimp only
  rw [upto, reached, ← place, split, List.take_left, List.drop_left]

include indexed last in
/-- Before words, the unreadable tokens were already looked for. -/
theorem scan_settled :
  (settled stream ahead depth failures).scan stream = settled stream ahead depth failures
  := by
  obtain ⟨before, split, length⟩ := tokens_split last
  have whole : stream.tokens = before ++ [] ++ Word.flatten ahead := by
    rw [List.append_nil, split]
  have scanned := scan_between indexed last depth failures whole
  rwa [length, unreadable, List.filter_nil, List.map_nil, List.append_nil] at scanned

include indexed last in
theorem report_settled (cause : Cause) :
  (settled stream ahead depth failures).report stream cause
    = settled stream ahead depth (failures ++ [failureAt cause ⟨stream.finish, depth⟩ ahead])
  := by
  unfold State.report
  rw [next?_settled indexed last]
  cases ahead with
  | nil => rfl
  | cons w ahead => rfl

theorem length_indices (stream : Stream) :
  stream.indices.length = stream.words.length
  := by
  rw [indices_eq, List.length_map]

include indexed in
/-- Reading a word reports the unreadable tokens behind it. -/
theorem bump_settled {w : Word} (last : w :: ahead <:+ stream.words) :
  (settled stream (w :: ahead) depth failures).bump stream
    = settled stream ahead depth (failures ++ unreadable w.trail)
  := by
  have last' : ahead <:+ stream.words := (List.suffix_cons w ahead).trans last
  have more : (w :: ahead).length ≤ stream.words.length := last.length_le
  obtain ⟨before, split, length⟩ := tokens_split last
  have between : stream.tokens = before ++ (w.token :: w.trail) ++ Word.flatten ahead := by
    rw [split, Word.flatten_cons, List.append_assoc, List.cons_append]
  have readable : unreadable (w.token :: w.trail) = unreadable w.trail :=
    Word.unreadable_of_significant (token_mem last List.mem_cons_self).2 w.trail
  have moves : stream.words.length - (w :: ahead).length + 1 = stream.words.length - ahead.length := by
    rw [List.length_cons] at more ⊢
    omega
  have scanned := scan_between indexed last' depth failures between
  unfold State.bump settled
  dsimp only
  rw [length_indices, if_pos (by simp at more ⊢; omega), moves, ← length, scanned, readable]
  rfl

include indexed in
/-- At the end of the document no word is read. -/
theorem bump_settled_nil :
  (settled stream [] depth failures).bump stream = settled stream [] depth failures
  := by
  have stays : (settled stream [] depth failures).bump stream
      = (settled stream [] depth failures).scan stream := by
    unfold State.bump
    rw [if_neg (by simp [settled, length_indices])]
  rw [stays, scan_settled indexed List.nil_suffix]

include indexed in
/-- Before the first word the unreadable tokens at the start are reported. -/
theorem scan_start :
  State.start.scan stream
    = settled stream stream.words 0 (unreadable (Word.gather stream.tokens).1)
  := by
  have split : stream.tokens = [] ++ (Word.gather stream.tokens).1 ++ Word.flatten stream.words :=
    (Word.flatten_gather stream.tokens).symm
  have scanned := scan_between indexed List.suffix_rfl 0 [] split
  rwa [Nat.sub_self] at scanned

end

end Machine

end PlanetServer
