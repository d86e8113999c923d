import PlanetServer.Proofs.Rule.Machine
import PlanetServer.Proofs.Rule.Recovery

/-!
# Plans are carried out

The machine carries out every plan, in as many steps as that takes: it comes to the answer of the rule,
with the failures of the rule, on the level where it began (`Machine.carriesOut`). For a plan this is an
induction along its parts. Operands and statements are carried out because ever fewer levels are left
below them, and repetitions because every round uses up a word.

* `Machine.synchronize_returns` and `Machine.recover_returns` say that the search for a place to go on
  from and a statement with recovery come to their end.
* `Machine.oneRound_arrives` says that of the statements of a block and of a document.
-/

namespace PlanetServer

/-- The reply with items before its own, those that were read earlier. -/
def Reply.onto {α : Type} (read : List α) (reply : Reply (List α)) : Reply (List α) :=
  ⟨reply.value.map (read ++ ·), reply.rest, reply.failures⟩

theorem Reply.onto_nil {α : Type} (reply : Reply (List α)) :
  reply.onto [] = reply
  := by
  simp [onto]

theorem Reply.onto_empty {α : Type} (read : List α) (rest : List Word) (failures : List Failure) :
  (⟨some [], rest, failures⟩ : Reply (List α)).onto read = ⟨some read, rest, failures⟩
  := by
  simp [onto]

theorem Reply.onto_items {α : Type} (read items : List α) (value : Option (List α)) (rest : List Word)
    (failures : List Failure) :
  (⟨value.map (items ++ ·), rest, failures⟩ : Reply (List α)).onto read
    = (⟨value, rest, failures⟩ : Reply (List α)).onto (read ++ items)
  := by
  simp [onto, Function.comp_def]

namespace Machine

open Rule

variable {stream : Stream}

/-! ### First steps -/

section

variable {floor floor' : Nat} {c c' c'' : Config} {state : State}

theorem Above.trans (first : Above stream floor c c') (second : Above stream floor c' c'') :
  Above stream floor c c''
  := Relation.ReflTransGen.trans first second

theorem Above.mono (lower : floor' ≤ floor) (steps : Above stream floor c c') :
  Above stream floor' c c'
  := by
  apply Relation.ReflTransGen.mono _ c c' steps
  exact fun _ _ one => ⟨Nat.lt_of_le_of_lt lower one.1, one.2⟩

theorem Above.steps (above : Above stream floor c c') :
  Steps stream c c'
  := by
  apply Relation.ReflTransGen.mono _ c c' above
  exact fun _ _ one => one.2

theorem Above.of_run {n : Nat} {α : Type} {rule : Rule α} {plan : Plan n rule} {stack : Stack α}
    (room : floor ≤ 3 * stack.height + 1)
    (later : Above stream floor (begin stream plan stack state) c) :
  Above stream floor ⟨.run plan stack, state⟩ c
  := .head ⟨Nat.lt_succ_of_le room, rfl⟩ later

theorem Above.of_answer {α : Type} {value : Option α} {stack : Stack α} (room : floor < 3 * stack.height)
    (resumed : resume value stack state = some c') (later : Above stream floor c' c) :
  Above stream floor ⟨.answer value stack, state⟩ c
  := .head ⟨room, resumed⟩ later

variable {loop : Loop} {read : List Stmt} {stack : Stack (List Stmt)}

theorem Above.of_statements (room : floor ≤ 3 * stack.height)
    (later : Above stream floor (oneRound stream loop read stack state) c) :
  Above stream floor ⟨.statements loop read stack, state⟩ c
  := .head ⟨Nat.lt_succ_of_le room, rfl⟩ later

theorem Above.of_recover (room : floor ≤ 3 * stack.height + 1)
    (later : Above stream floor ⟨.run (.statement : Plan (Parse.maxDepth - state.depth) _)
      (.statements loop read stack), state⟩ c) :
  Above stream floor ⟨.recover loop read stack, state⟩ c
  := .head ⟨Nat.lt_succ_of_le room, rfl⟩ later

theorem Above.of_synchronize (room : floor ≤ 3 * stack.height + 1)
    (later : Above stream floor (search stream loop read stack state) c) :
  Above stream floor ⟨.synchronize loop read stack, state⟩ c
  := .head ⟨Nat.lt_succ_of_le room, rfl⟩ later

end

section

variable (indexed : stream.IsIndexed) {loop : Loop} {read : List Stmt} {stack : Stack (List Stmt)}
  {w : Word} {ahead : List Word} {depth : Nat} {failures : List Failure}

include indexed

theorem kind?_settled (last : ahead <:+ stream.words) :
  (settled stream ahead depth failures).kind? stream = ahead.head?.map fun w => w.token.kind
  := by
  rw [State.kind?, next?_settled indexed last, Option.map_map]
  rfl

/-! ### The search for a place to go on from -/

theorem search_nil :
  search stream loop read stack (settled stream [] depth failures)
    = ⟨.statements loop read stack, settled stream [] depth failures⟩
  := by
  rw [search, kind?_settled indexed List.nil_suffix]
  rfl

theorem search_brace (last : w :: ahead <:+ stream.words) (brace : w.token.kind = .rightBrace) :
  search stream loop read stack (settled stream (w :: ahead) depth failures)
    = ⟨.statements loop read stack, settled stream (w :: ahead) depth failures⟩
  := by
  rw [search, kind?_settled indexed last, List.head?_cons, Option.map_some, brace]

theorem search_end (last : w :: ahead <:+ stream.words)
    (ends : Parse.endsStatement w.token.kind = true) :
  search stream loop read stack (settled stream (w :: ahead) depth failures)
    = ⟨.statements loop read stack, settled stream ahead depth (failures ++ unreadable w.trail)⟩
  := by
  have kinds : w.token.kind = .semicolon ∨ w.token.kind = .newline := by
    simpa [Parse.endsStatement] using ends
  rw [search, kind?_settled indexed last, List.head?_cons, Option.map_some,
    bump_settled indexed depth failures last]
  rcases kinds with found | found
  · rw [found]
  · rw [found]

theorem search_other (last : w :: ahead <:+ stream.words)
    (open' : Parse.endsStatement w.token.kind = false) (other : w.token.kind ≠ .rightBrace) :
  search stream loop read stack (settled stream (w :: ahead) depth failures)
    = ⟨.synchronize loop read stack, settled stream ahead depth (failures ++ unreadable w.trail)⟩
  := by
  rw [search, kind?_settled indexed last, List.head?_cons, Option.map_some,
    bump_settled indexed depth failures last]
  split
  · simp_all
  · simp_all
  · simp_all [Parse.endsStatement]
  · simp_all [Parse.endsStatement]
  · rfl

/-- The search for a place to go on from comes to its end. -/
theorem synchronize_returns (last : ahead <:+ stream.words) :
  let reply := Parse.synchronize ⟨stream.finish, depth⟩ ahead
  Returns stream ⟨.synchronize loop read stack, settled stream ahead depth failures⟩
    ⟨.statements loop read stack, settled stream reply.rest depth (failures ++ reply.failures)⟩
  := by
  intro reply
  apply Above.of_synchronize (Nat.le_refl _)
  induction ahead generalizing failures with
  | nil =>
    have run : reply = _ := Parse.synchronize_nil
    rw [run, List.append_nil, search_nil indexed]
    exact .refl
  | cons w ahead ih =>
    have last' : ahead <:+ stream.words := (List.suffix_cons w ahead).trans last
    by_cases brace : w.token.kind = .rightBrace
    · have run : reply = _ := Parse.synchronize_brace brace
      rw [run, List.append_nil, search_brace indexed last brace]
      exact .refl
    cases ends : Parse.endsStatement w.token.kind with
    | true =>
      have run : reply = _ := Parse.synchronize_end ends
      rw [run, search_end indexed last ends]
      exact .refl
    | false =>
      have run : reply = _ := Parse.synchronize_other ends brace
      rw [run, search_other indexed last ends brace, ← List.append_assoc]
      apply Above.of_synchronize (Nat.le_refl _) (ih last')

/-! ### Rounds of statements -/

theorem oneRound_newline (last : w :: ahead <:+ stream.words) (line : w.token.kind = .newline) :
  oneRound stream loop read stack (settled stream (w :: ahead) depth failures)
    = ⟨.statements loop read stack, settled stream ahead depth (failures ++ unreadable w.trail)⟩
  := by
  cases loop with
  | document =>
    rw [oneRound, scan_settled indexed last, kind?_settled indexed last, List.head?_cons,
      Option.map_some, line, bump_settled indexed depth failures last]
  | block =>
    rw [oneRound, kind?_settled indexed last, List.head?_cons, Option.map_some, line,
      bump_settled indexed depth failures last]

theorem oneRound_other (last : w :: ahead <:+ stream.words) (line : w.token.kind ≠ .newline)
    (brace : w.token.kind ≠ .rightBrace) :
  oneRound stream loop read stack (settled stream (w :: ahead) depth failures)
    = ⟨.recover loop read stack, settled stream (w :: ahead) depth failures⟩
  := by
  cases loop with
  | document =>
    rw [oneRound, scan_settled indexed last, kind?_settled indexed last, List.head?_cons,
      Option.map_some]
    split <;> simp_all
  | block =>
    rw [oneRound, kind?_settled indexed last, List.head?_cons, Option.map_some]
    split <;> simp_all

theorem document_nil :
  oneRound stream .document read stack (settled stream [] depth failures)
    = ⟨.answer (some read) stack, settled stream [] depth failures⟩
  := by
  rw [oneRound, scan_settled indexed List.nil_suffix, kind?_settled indexed List.nil_suffix]
  rfl

theorem document_brace (last : w :: ahead <:+ stream.words) (brace : w.token.kind = .rightBrace) :
  oneRound stream .document read stack (settled stream (w :: ahead) depth failures)
    = ⟨.statements .document read stack, settled stream ahead depth
        (failures ++ failureAt .noViable ⟨stream.finish, depth⟩ (w :: ahead) :: unreadable w.trail)⟩
  := by
  have read : ((settled stream (w :: ahead) depth failures).report stream .noViable).bump stream
      = settled stream ahead depth (failures
        ++ failureAt .noViable ⟨stream.finish, depth⟩ (w :: ahead) :: unreadable w.trail) := by
    rw [report_settled indexed last, bump_settled indexed depth _ last, List.append_assoc,
      List.singleton_append]
  rw [oneRound, scan_settled indexed last, kind?_settled indexed last, List.head?_cons,
    Option.map_some, brace, ← read]

theorem block_nil :
  oneRound stream .block read stack (settled stream [] depth failures)
    = ⟨.answer none stack, settled stream [] depth
        (failures ++ [failureAt (.mismatch (.ofList [.rightBrace])) ⟨stream.finish, depth⟩ []])⟩
  := by
  rw [oneRound, kind?_settled indexed List.nil_suffix, report_settled indexed List.nil_suffix]
  rfl

theorem block_brace (last : w :: ahead <:+ stream.words) (brace : w.token.kind = .rightBrace) :
  oneRound stream .block read stack (settled stream (w :: ahead) depth failures)
    = ⟨.answer (some read) stack, settled stream ahead depth (failures ++ unreadable w.trail)⟩
  := by
  rw [oneRound, kind?_settled indexed last, List.head?_cons, Option.map_some, brace,
    bump_settled indexed depth failures last]

end

/-! ### Plans are carried out -/

/-- The machine comes to an answer: it leaves the words of the answer, has met its failures after those
from before, and is on a given level. -/
def Arrives (stream : Stream) (c : Config) {α : Type} (stack : Stack α) (depth : Nat)
    (failures : List Failure) (reply : Reply α) : Prop :=
  Returns stream c
    ⟨.answer reply.value stack, settled stream reply.rest depth (failures ++ reply.failures)⟩

/-- The machine carries out a plan: before words of the stream, where as many levels are left as the plan
is for, it comes to the answer of the rule on the level where it began. -/
def CarriesOut (stream : Stream) {n : Nat} {α : Type} {rule : Rule α} (plan : Plan n rule) : Prop :=
  ∀ (stack : Stack α) (ahead : List Word) (depth : Nat) (failures : List Failure),
    ahead <:+ stream.words → depth + n = Parse.maxDepth →
    Arrives stream ⟨.run plan stack, settled stream ahead depth failures⟩ stack depth failures
      (rule ⟨stream.finish, depth⟩ ahead)

section

variable {n : Nat} {α β : Type} {c : Config} {depth : Nat} {failures : List Failure}

theorem Arrives.of_run {state : State} {rule : Rule α} {plan : Plan n rule} {stack : Stack α}
    {reply : Reply α}
    (later : Arrives stream (begin stream plan stack state) stack depth failures reply) :
  Arrives stream ⟨.run plan stack, state⟩ stack depth failures reply
  := Above.of_run (Nat.le_succ _) later

/-- An answer that the machine has come to without reading. -/
theorem Arrives.now (value : Option α) (stack : Stack α) (ahead : List Word) :
  Arrives stream ⟨.answer value stack, settled stream ahead depth failures⟩ stack depth failures
    ⟨value, ahead, []⟩
  := by
  rw [Arrives, List.append_nil]
  exact .refl

section

variable {stack : Stack α} {stack' : Stack β} {reply : Reply α} {reply' : Reply β}
  (inner : stack.height = stack'.height + 1) (first : Arrives stream c stack depth failures reply)

include inner first

/-- An answer after which the machine goes on to another one. -/
theorem Arrives.resume {c' : Config}
    (resumed : resume reply.value stack
      (settled stream reply.rest depth (failures ++ reply.failures)) = some c')
    (second : Arrives stream c' stack' depth (failures ++ reply.failures) reply') :
  Arrives stream c stack' depth failures
    ⟨reply'.value, reply'.rest, reply.failures ++ reply'.failures⟩
  := by
  have lower : 3 * stack'.height < 3 * stack.height := by omega
  rw [Arrives, List.append_assoc] at second
  apply Above.trans (Above.mono (Nat.le_of_lt lower) first)
  apply Above.of_answer lower resumed second

/-- An answer that becomes another one. -/
theorem Arrives.map {value : Option β}
    (resumed : ∀ state, Machine.resume reply.value stack state = some ⟨.answer value stack', state⟩) :
  Arrives stream c stack' depth failures ⟨value, reply.rest, reply.failures⟩
  := by
  have lower : 3 * stack'.height < 3 * stack.height := by omega
  apply Above.trans (Above.mono (Nat.le_of_lt lower) first)
  apply Above.of_answer lower (resumed _) .refl

end

theorem carriesOut_bind {rule : Rule α} {next : α → Rule β} {plan : Plan n rule}
    {plans : ∀ a, Plan n (next a)} (first : CarriesOut stream plan)
    (second : ∀ a, CarriesOut stream (plans a)) :
  CarriesOut stream (plan.bind plans)
  := by
  intro stack ahead depth failures last levels
  have begun := first (.bind plans stack) ahead depth failures last levels
  apply Arrives.of_run
  cases found : (rule ⟨stream.finish, depth⟩ ahead).value with
  | none =>
    rw [bind_of_none found]
    apply begun.map rfl
    rw [found]
    exact fun _ => rfl
  | some a =>
    have last' := (plan.built.suffix ⟨stream.finish, depth⟩ ahead).trans last
    rw [bind_of_some found]
    apply begun.resume rfl _ (second a stack _ depth _ last' levels)
    rw [found]
    rfl

/-- The rounds of a repetition are carried out one by one. -/
theorem rounds_arrive {round : Rule (Round α)} (advances : Advances round) {plan : Plan n round}
    (carries : CarriesOut stream plan) (stack : Stack (List α)) (levels : depth + n = Parse.maxDepth)
    (ahead : List Word) :
  ahead <:+ stream.words → ∀ read failures, Arrives stream
    ⟨.run plan (.many plan read stack), settled stream ahead depth failures⟩ stack depth failures
    ((many round ⟨stream.finish, depth⟩ ahead).onto read)
  := by
  apply many_induct advances ⟨stream.finish, depth⟩ (P := fun ahead reply => ahead <:+ stream.words →
    ∀ read failures, Arrives stream
      ⟨.run plan (.many plan read stack), settled stream ahead depth failures⟩ stack depth failures
      (reply.onto read))
  case none =>
    intro ahead found last read failures
    apply (carries (.many plan read stack) ahead depth failures last levels).map rfl
    rw [found]
    exact fun _ => rfl
  case stop =>
    intro ahead found last read failures
    apply (carries (.many plan read stack) ahead depth failures last levels).map rfl
    rw [found]
    simp [Machine.resume]
  case skip =>
    intro ahead reply found _ later last read failures
    have last' := (plan.built.suffix ⟨stream.finish, depth⟩ ahead).trans last
    have first := carries (.many plan read stack) ahead depth failures last levels
    have more := later last' read (failures ++ (round ⟨stream.finish, depth⟩ ahead).failures)
    apply first.resume rfl _ more
    rw [found]
    rfl
  case item =>
    intro ahead reply a found _ later last read failures
    have last' := (plan.built.suffix ⟨stream.finish, depth⟩ ahead).trans last
    have first := carries (.many plan read stack) ahead depth failures last levels
    have more := later last' (read ++ [a]) (failures ++ (round ⟨stream.finish, depth⟩ ahead).failures)
    rw [show (fun l => a :: l) = ([a] ++ ·) from rfl, Reply.onto_items]
    apply first.resume rfl _ more
    rw [found]
    rfl

theorem carriesOut_many {round : Rule (Round α)} (advances : Advances round) {plan : Plan n round}
    (carries : CarriesOut stream plan) :
  CarriesOut stream (plan.many advances)
  := by
  intro stack ahead depth failures last levels
  have rounds := rounds_arrive advances carries stack levels ahead last [] failures
  rw [Reply.onto_nil] at rounds
  apply Arrives.of_run rounds

end

/-! ### Statements are carried out -/

/-- One round of the statements of a document or of a block. -/
def Loop.round : Loop → Rule Stmt → Rule (Round Stmt)
  | .document => Parse.programRound
  | .block => Parse.blockRound

namespace Loop

variable (loop : Loop) {statement : Rule Stmt} {site : Site} {w : Word} {ahead : List Word}

theorem round_advances (n : Nat) :
  Advances (loop.round (Parse.statement n))
  := by
  cases loop with
  | document => apply Parse.programRound_advances
  | block => apply Parse.blockRound_advances (Parse.statement_built n) (Parse.statement_consumes n)

theorem round_newline (line : w.token.kind = .newline) :
  loop.round statement site (w :: ahead) = ⟨some .skip, ahead, unreadable w.trail⟩
  := by
  cases loop with
  | document => apply Parse.programRound_newline line
  | block => apply Parse.blockRound_newline line

theorem round_other (line : w.token.kind ≠ .newline) (brace : w.token.kind ≠ .rightBrace) :
  loop.round statement site (w :: ahead) = Parse.recovered statement site (w :: ahead)
  := by
  cases loop with
  | document => apply Parse.programRound_other line brace
  | block => apply Parse.blockRound_other line brace

end Loop

section

variable (indexed : stream.IsIndexed) {n depth : Nat} (levels : depth + n = Parse.maxDepth)
  (carries : CarriesOut stream (.statement : Plan n (Parse.statement n))) (loop : Loop)
  (stack : Stack (List Stmt))

include indexed levels carries

/-- A statement with recovery comes back to the statements after it. -/
theorem recover_returns {ahead : List Word} (last : ahead <:+ stream.words) {r : Round Stmt}
    (answer : (Parse.recovered (Parse.statement n) ⟨stream.finish, depth⟩ ahead).value = some r)
    (read : List Stmt) (failures : List Failure) :
  let reply := Parse.recovered (Parse.statement n) ⟨stream.finish, depth⟩ ahead
  Returns stream ⟨.recover loop read stack, settled stream ahead depth failures⟩
    ⟨.statements loop (read ++ r.items) stack,
      settled stream reply.rest depth (failures ++ reply.failures)⟩
  := by
  intro reply
  have first := carries (.statements loop read stack) ahead depth failures last levels
  obtain rfl : n = Parse.maxDepth - depth := by omega
  have lower : 3 * stack.height + 1 < 3 * (Stack.statements loop read stack).height := by
    rw [Stack.height]
    omega
  apply Above.of_recover (Nat.le_refl _)
  apply Above.trans (Above.mono (Nat.le_of_lt lower) first)
  cases found : (Parse.statement (Parse.maxDepth - depth) ⟨stream.finish, depth⟩ ahead).value with
  | some s =>
    have run : reply = _ := Parse.recovered_of_some found
    obtain rfl : .item s = r := by
      rw [Parse.recovered_of_some found] at answer
      exact Option.some.inj answer
    rw [run]
    apply Above.of_answer lower rfl .refl
  | none =>
    have run : reply = _ := Parse.recovered_of_none found
    obtain rfl : .skip = r := by
      rw [Parse.recovered_of_none found] at answer
      exact Option.some.inj answer
    have left := (Parse.statement_built (Parse.maxDepth - depth)).suffix ⟨stream.finish, depth⟩ ahead
    rw [run, Round.items, List.append_nil, ← List.append_assoc]
    apply Above.of_answer lower rfl
    apply synchronize_returns indexed (left.trans last)

/-- The statements of a document or of a block are carried out round by round. -/
theorem oneRound_arrives (ahead : List Word) (last : ahead <:+ stream.words) (read : List Stmt)
    (failures : List Failure) :
  Arrives stream (oneRound stream loop read stack (settled stream ahead depth failures)) stack depth
    failures ((many (loop.round (Parse.statement n)) ⟨stream.finish, depth⟩ ahead).onto read)
  := by
  have advances := loop.round_advances n
  induction ahead using Parse.rounds_induct (Parse.statement_built n) (Parse.statement_consumes n)
    ⟨stream.finish, depth⟩ generalizing read failures with
  | nil =>
    cases loop with
    | document =>
      rw [many_of_stop advances Parse.programRound_nil, document_nil indexed, Reply.onto_empty]
      apply Arrives.now
    | block =>
      rw [many_of_none advances Parse.blockRound_nil, block_nil indexed]
      exact .refl
  | newline w ahead line ih =>
    have last' : ahead <:+ stream.words := (List.suffix_cons w ahead).trans last
    rw [many_of_skip advances (loop.round_newline line), oneRound_newline indexed last line]
    apply Above.of_statements (Nat.le_refl _)
    have later := ih last' read (failures ++ unreadable w.trail)
    rwa [Arrives, List.append_assoc] at later
  | brace w ahead brace ih =>
    have last' : ahead <:+ stream.words := (List.suffix_cons w ahead).trans last
    cases loop with
    | document =>
      rw [many_of_skip advances (Parse.programRound_brace brace), document_brace indexed last brace]
      apply Above.of_statements (Nat.le_refl _)
      have later := ih last' read (failures ++ failureAt .noViable ⟨stream.finish, depth⟩ (w :: ahead)
        :: unreadable w.trail)
      rwa [Arrives, List.append_assoc] at later
    | block =>
      rw [many_of_stop advances (Parse.blockRound_brace brace), block_brace indexed last brace,
        Reply.onto_empty]
      exact .refl
  | other w ahead line brace ih =>
    obtain ⟨r, more, run⟩ :=
      Parse.recovered_next (Parse.statement n) ⟨stream.finish, depth⟩ (w :: ahead)
    have left := (Parse.recovered_built (Parse.statement_built n)).suffix ⟨stream.finish, depth⟩
      (w :: ahead)
    have round : Returns stream ⟨.recover loop read stack, _⟩ ⟨_, _⟩ :=
      recover_returns indexed levels carries loop stack last (by rw [run]) read failures
    rw [many_of_next advances ((loop.round_other line brace).trans run) more, Reply.onto_items,
      oneRound_other indexed last line brace]
    apply Above.trans (Above.mono (Nat.le_succ _) round)
    apply Above.of_statements (Nat.le_refl _)
    have later := ih (left.trans last) (read ++ r.items)
      (failures ++ (Parse.recovered (Parse.statement n) ⟨stream.finish, depth⟩ (w :: ahead)).failures)
    rwa [Arrives, List.append_assoc] at later

end

/-! ### Levels -/

section

variable (indexed : stream.IsIndexed) {n depth : Nat} {failures : List Failure} {ahead : List Word}

include indexed

/-- A block is carried out if statements are. -/
theorem carriesOut_block (carries : CarriesOut stream (.statement : Plan n (Parse.statement n)))
    (others : KindSet) :
  CarriesOut stream (.block others : Plan n _)
  := by
  intro stack ahead depth failures last levels
  apply Arrives.of_run
  rw [begin, kind?_settled indexed last]
  cases ahead with
  | nil =>
    rw [if_neg nofun, report_settled indexed last]
    exact .refl
  | cons w ahead =>
    have last' : ahead <:+ stream.words := (List.suffix_cons w ahead).trans last
    by_cases opens : w.token.kind = .leftBrace
    · have later := oneRound_arrives indexed levels carries .block stack ahead last' []
        (failures ++ unreadable w.trail)
      rw [Reply.onto_nil, Arrives, List.append_assoc] at later
      rw [List.head?_cons, Option.map_some, if_pos (congrArg some opens),
        bump_settled indexed depth failures last, Parse.block_brace opens]
      apply Above.of_statements (Nat.le_refl _) later
    · have other : ¬ (some w.token.kind = some Kind.leftBrace) := by simpa using opens
      have run :
          Parse.block (Parse.statement n) others ⟨stream.finish, depth⟩ (w :: ahead) = ⟨_, _, _⟩ :=
        bind_of_none (congrArg Reply.value (expect_of_ne opens others _ ahead))
      rw [List.head?_cons, Option.map_some, if_neg other, report_settled indexed last, run,
        expect_of_ne opens]
      exact .refl

variable {α : Type} {rule : Nat → Rule α} {plan : (n : Nat) → Plan n (rule n)} {stack : Stack α}

omit indexed in
/-- A plan is carried out one level deeper, and the level is left again. -/
theorem nested_arrives (carries : CarriesOut stream (plan n)) (last : ahead <:+ stream.words)
    (levels : depth + (n + 1) = Parse.maxDepth) :
  Arrives stream (nested stream plan stack (settled stream ahead depth failures)) stack depth failures
    (deeper (rule n) ⟨stream.finish, depth⟩ ahead)
  := by
  have room : depth < Parse.maxDepth := by omega
  have left : Parse.maxDepth - (depth + 1) = n := by omega
  have inner := carries (.level stack) ahead (depth + 1) failures last (by omega)
  have enters : nested stream plan stack (settled stream ahead depth failures)
      = ⟨.run (plan n) (.level stack), settled stream ahead (depth + 1) failures⟩ := by
    unfold nested settled
    dsimp only
    rw [if_pos room, left]
    rfl
  have lower : 3 * stack.height < 3 * (Stack.level stack).height := by
    rw [Stack.height]
    omega
  rw [enters]
  apply Above.trans (Above.mono (Nat.le_of_lt lower) inner)
  apply Above.of_answer lower rfl .refl

/-- Where too many levels are nested, nothing is read. -/
theorem nested_full (last : ahead <:+ stream.words) :
  Arrives stream (nested stream plan stack (settled stream ahead Parse.maxDepth failures)) stack
    Parse.maxDepth failures (fail .tooDeep ⟨stream.finish, Parse.maxDepth⟩ ahead)
  := by
  have full : nested stream plan stack (settled stream ahead Parse.maxDepth failures)
      = ⟨.answer none stack, (settled stream ahead Parse.maxDepth failures).report stream .tooDeep⟩ :=
    if_neg (Nat.lt_irrefl _)
  rw [full, report_settled indexed last]
  exact .refl

/-- A plan is carried out if operands and statements are. -/
theorem carriesOut_of_plan {β : Type} (unary : CarriesOut stream (.unary : Plan n (Parse.unary n)))
    (statement : CarriesOut stream (.statement : Plan n (Parse.statement n))) {rule : Rule β}
    (plan : Plan n rule) :
  CarriesOut stream plan
  := by
  induction plan with
  | pure a =>
    intro stack ahead depth failures last levels
    apply Arrives.of_run (.now (some a) stack ahead)
  | bind _ _ first second => apply carriesOut_bind first second
  | look f same =>
    intro stack ahead depth failures last levels
    apply Arrives.of_run
    rw [begin, kindsFrom_settled indexed last, same]
    apply Arrives.now _ stack ahead
  | take =>
    rintro stack (_ | ⟨w, ahead⟩) depth failures last levels
    · apply Arrives.of_run
      rw [begin, next?_settled indexed last, bump_settled_nil indexed]
      apply Arrives.now (some "") stack []
    · apply Arrives.of_run
      rw [begin, next?_settled indexed last, bump_settled indexed depth failures last]
      exact .refl
  | advance =>
    rintro stack (_ | ⟨w, ahead⟩) depth failures last levels
    · apply Arrives.of_run
      rw [begin, bump_settled_nil indexed]
      apply Arrives.now (some ()) stack []
    · apply Arrives.of_run
      rw [begin, bump_settled indexed depth failures last]
      exact .refl
  | fail cause real =>
    intro stack ahead depth failures last levels
    apply Arrives.of_run
    rw [begin, report_settled indexed last]
    exact .refl
  | many _ advances round => apply carriesOut_many advances round
  | unary => apply unary
  | statement => apply statement
  | block others => apply carriesOut_block indexed statement

/-- Operands and statements are carried out, however many levels are left. -/
theorem unary_statement_carriesOut (n : Nat) :
  CarriesOut stream (.unary : Plan n (Parse.unary n))
    ∧ CarriesOut stream (.statement : Plan n (Parse.statement n))
  := by
  induction n with
  | zero =>
    constructor
    · intro stack ahead depth failures last levels
      obtain rfl : depth = Parse.maxDepth := levels
      apply Arrives.of_run (nested_full indexed last)
    · intro stack ahead depth failures last levels
      obtain rfl : depth = Parse.maxDepth := levels
      apply Arrives.of_run (nested_full indexed last)
  | succ n ih =>
    have unary := carriesOut_of_plan indexed ih.1 ih.2 (Parse.unaryPlan n)
    have statement := carriesOut_of_plan indexed ih.1 ih.2 (Parse.statementPlan n)
    constructor
    · intro stack ahead depth failures last levels
      apply Arrives.of_run (nested_arrives unary last levels)
    · intro stack ahead depth failures last levels
      apply Arrives.of_run (nested_arrives statement last levels)

/-- Every plan is carried out. -/
theorem carriesOut {β : Type} {rule : Rule β} (plan : Plan n rule) :
  CarriesOut stream plan
  := by
  obtain ⟨unary, statement⟩ := unary_statement_carriesOut indexed n
  apply carriesOut_of_plan indexed unary statement

end

end Machine

end PlanetServer
