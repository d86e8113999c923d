import PlanetServer.Proofs.Rule.Execution

/-!
# The parser comes to its end

Whatever tokens there are, the machine comes to its end, and has then read all of them. On the way it
is never on more levels than are allowed, it leaves every level that it enters, and every statement with
recovery takes it further.

* `Machine.Sound` is what holds of every configuration that the machine comes to: it stands before words
  of the stream, and as many levels are nested as its stack says. One step keeps it
  (`Machine.sound_step`).
* `Machine.parser_finishes` puts together what follows.
-/

namespace PlanetServer.Machine

open Rule

variable {stream : Stream}

/-! ### Configurations that the machine comes to -/

/-- The number of levels that are left when all that is left to do is done. -/
def Stack.levels : {α : Type} → Stack α → Nat
  | _, .halt => 0
  | _, .bind _ below => below.levels
  | _, .level below => below.levels + 1
  | _, .many _ _ below => below.levels
  | _, .statements _ _ below => below.levels

/-- The number of levels that were entered and not yet left. -/
def Control.levels : Control → Nat
  | .run _ stack => stack.levels
  | .answer _ stack => stack.levels
  | .statements _ _ stack | .recover _ _ stack | .synchronize _ _ stack => stack.levels

/-- The plans of a stack are for as many levels as are left where they go on, and no more levels are
nested than are allowed. -/
def Stack.Fits : {α : Type} → Stack α → Prop
  | _, .halt => True
  | _, .bind (n := n) _ below => below.levels + n = Parse.maxDepth ∧ below.Fits
  | _, .level below => below.levels < Parse.maxDepth ∧ below.Fits
  | _, .many (n := n) _ _ below => below.levels + n = Parse.maxDepth ∧ below.Fits
  | _, .statements _ _ below => below.Fits

/-- The control fits its stack and the words ahead: a plan is for as many levels as are left, and a
statement with recovery begins with a word that does not close a block. -/
def Control.Fits (ahead : List Word) : Control → Prop
  | .run (n := n) _ stack => stack.levels + n = Parse.maxDepth ∧ stack.Fits
  | .answer _ stack => stack.Fits
  | .statements _ _ stack | .synchronize _ _ stack => stack.Fits
  | .recover _ _ stack => stack.Fits ∧ ∃ w rest, ahead = w :: rest ∧ w.token.kind ≠ .rightBrace

/-- A configuration that stands before words of the stream, on the level that its stack says. -/
def Sound (stream : Stream) (c : Config) : Prop :=
  ∃ ahead failures, ahead <:+ stream.words ∧ c.control.Fits ahead
    ∧ c.state = settled stream ahead c.control.levels failures

theorem Stack.Fits.levels_le {α : Type} {stack : Stack α} (fits : stack.Fits) :
  stack.levels ≤ Parse.maxDepth
  := by
  induction stack with
  | halt => exact Nat.zero_le _
  | bind _ _ ih => apply ih fits.2
  | level _ ih => exact fits.1
  | many _ _ _ ih => apply ih fits.2
  | statements _ _ _ ih => apply ih fits

theorem Sound.depth_le {c : Config} (sound : Sound stream c) :
  c.state.depth ≤ Parse.maxDepth
  := by
  obtain ⟨ahead, failures, -, fits, same⟩ := sound
  rw [same]
  obtain ⟨control, state⟩ := c
  cases control with
  | run plan stack => apply Nat.le.intro fits.1
  | answer value stack => apply Stack.Fits.levels_le fits
  | statements loop read stack => apply Stack.Fits.levels_le fits
  | recover loop read stack => apply Stack.Fits.levels_le fits.1
  | synchronize loop read stack => apply Stack.Fits.levels_le fits

/-! ### One step -/

section

variable (indexed : stream.IsIndexed) {ahead : List Word} (last : ahead <:+ stream.words)
  {failures : List Failure}

theorem Sound.intro {control : Control} (last : ahead <:+ stream.words) (fits : control.Fits ahead) :
  Sound stream ⟨control, settled stream ahead control.levels failures⟩
  := ⟨ahead, failures, last, fits, rfl⟩

include indexed last

/-- After a word is read, the machine stands before words again. -/
theorem exists_bump (depth : Nat) (failures : List Failure) :
  ∃ rest more, rest <:+ stream.words
    ∧ (settled stream ahead depth failures).bump stream = settled stream rest depth more
  := by
  cases ahead with
  | nil => exact ⟨[], failures, last, bump_settled_nil indexed depth failures⟩
  | cons w ahead =>
    have last' : ahead <:+ stream.words := (List.suffix_cons w ahead).trans last
    exact ⟨ahead, _, last', bump_settled indexed depth failures last⟩

/-- Where a level is entered, there is room for it. -/
theorem sound_nested {α : Type} {rule : Nat → Rule α} (plan : (n : Nat) → Plan n (rule n))
    {stack : Stack α} (fits : stack.Fits) :
  Sound stream (nested stream plan stack (settled stream ahead stack.levels failures))
  := by
  unfold nested
  split
  · rename_i room
    have left : stack.levels + 1 + (Parse.maxDepth - (stack.levels + 1)) = Parse.maxDepth :=
      Nat.add_sub_of_le room
    exact Sound.intro last ⟨left, room, fits⟩
  · rw [report_settled indexed last]
    exact Sound.intro last fits

theorem sound_begin {n : Nat} {α : Type} {rule : Rule α} (plan : Plan n rule) {stack : Stack α}
    (levels : stack.levels + n = Parse.maxDepth) (fits : stack.Fits) :
  Sound stream (begin stream plan stack (settled stream ahead stack.levels failures))
  := by
  obtain ⟨rest, more, last', moved⟩ := exists_bump indexed last stack.levels failures
  cases plan with
  | pure a => exact Sound.intro last fits
  | bind first second => exact Sound.intro last ⟨levels, levels, fits⟩
  | look f same => exact Sound.intro last fits
  | take =>
    rw [begin, moved]
    exact Sound.intro last' fits
  | advance =>
    rw [begin, moved]
    exact Sound.intro last' fits
  | fail cause real =>
    rw [begin, report_settled indexed last]
    exact Sound.intro last fits
  | many plan advances => exact Sound.intro last ⟨levels, levels, fits⟩
  | unary => apply sound_nested indexed last Parse.unaryPlan fits
  | statement => apply sound_nested indexed last Parse.statementPlan fits
  | block others =>
    rw [begin]
    split
    · rw [moved]
      exact Sound.intro last' fits
    · rw [report_settled indexed last]
      exact Sound.intro last fits

omit indexed in
theorem sound_resume {α : Type} {value : Option α} {stack : Stack α} (fits : stack.Fits) {c : Config}
    (resumed : resume value stack (settled stream ahead stack.levels failures) = some c) :
  Sound stream c
  := by
  cases stack with
  | halt => cases resumed
  | bind second below =>
    cases value with
    | none =>
      cases resumed
      exact Sound.intro last fits.2
    | some a =>
      cases resumed
      exact Sound.intro last fits
  | level below =>
    cases resumed
    exact Sound.intro last fits.2
  | many plan read below =>
    rcases value with _ | (a | _ | _)
    · cases resumed
      exact Sound.intro last fits.2
    · cases resumed
      exact Sound.intro last ⟨fits.1, fits⟩
    · cases resumed
      exact Sound.intro last ⟨fits.1, fits⟩
    · cases resumed
      exact Sound.intro last fits.2
  | statements loop read below =>
    cases value with
    | none =>
      cases resumed
      exact Sound.intro last fits
    | some s =>
      cases resumed
      exact Sound.intro last fits

theorem sound_oneRound (loop : Loop) (read : List Stmt) {stack : Stack (List Stmt)}
    (fits : stack.Fits) :
  Sound stream (oneRound stream loop read stack (settled stream ahead stack.levels failures))
  := by
  cases ahead with
  | nil =>
    cases loop with
    | document =>
      rw [document_nil indexed]
      exact Sound.intro last fits
    | block =>
      rw [block_nil indexed]
      exact Sound.intro last fits
  | cons w ahead =>
    have last' : ahead <:+ stream.words := (List.suffix_cons w ahead).trans last
    by_cases line : w.token.kind = .newline
    · rw [oneRound_newline indexed last line]
      exact Sound.intro last' fits
    by_cases brace : w.token.kind = .rightBrace
    · cases loop with
      | document =>
        rw [document_brace indexed last brace]
        exact Sound.intro last' fits
      | block =>
        rw [block_brace indexed last brace]
        exact Sound.intro last' fits
    · rw [oneRound_other indexed last line brace]
      exact Sound.intro last ⟨fits, w, ahead, rfl, brace⟩

theorem sound_search (loop : Loop) (read : List Stmt) {stack : Stack (List Stmt)} (fits : stack.Fits) :
  Sound stream (search stream loop read stack (settled stream ahead stack.levels failures))
  := by
  obtain ⟨rest, more, last', moved⟩ := exists_bump indexed last stack.levels failures
  unfold search
  rw [moved]
  split
  · exact Sound.intro last fits
  · exact Sound.intro last fits
  · exact Sound.intro last' fits
  · exact Sound.intro last' fits
  · exact Sound.intro last' fits

omit last in
/-- One step keeps what holds of the configurations that the machine comes to. -/
theorem sound_step {c c' : Config} (sound : Sound stream c) (one : step stream c = some c') :
  Sound stream c'
  := by
  obtain ⟨control, state⟩ := c
  obtain ⟨ahead, failures, last, fits, same⟩ := sound
  obtain rfl : state = settled stream ahead control.levels failures := same
  cases control with
  | run plan stack =>
    cases one
    apply sound_begin indexed last plan fits.1 fits.2
  | answer value stack => apply sound_resume last fits one
  | statements loop read stack =>
    cases one
    apply sound_oneRound indexed last loop read fits
  | recover loop read stack =>
    cases one
    have left : stack.levels + (Parse.maxDepth - stack.levels) = Parse.maxDepth :=
      Nat.add_sub_of_le fits.1.levels_le
    exact Sound.intro last ⟨left, fits.1⟩
  | synchronize loop read stack =>
    cases one
    apply sound_search indexed last loop read fits

end

/-! ### Whole runs -/

section

variable (indexed : stream.IsIndexed)

include indexed

/-- The first round looks for unreadable tokens before the first word. -/
theorem oneRound_start :
  oneRound stream .document [] .halt State.start
    = oneRound stream .document [] .halt
      (settled stream stream.words 0 (unreadable (Word.gather stream.tokens).1))
  := by
  rw [oneRound, oneRound, scan_start indexed, scan_settled indexed List.suffix_rfl]

/-- Every configuration that the machine comes to is sound, apart from the one before its first step. -/
theorem sound_of_steps {c : Config} (steps : Steps stream start c) :
  c = start ∨ Sound stream c
  := by
  induction steps with
  | refl => exact .inl rfl
  | tail _ one ih =>
    right
    rcases ih with rfl | sound
    · cases one
      change Sound stream (oneRound stream .document [] .halt State.start)
      rw [oneRound_start indexed]
      exact sound_oneRound indexed List.suffix_rfl .document [] trivial
    · apply sound_step indexed sound one

/-- The machine comes to the statements and the failures of the stream, with nothing left to read. -/
theorem steps_finish :
  Steps stream start ⟨.answer (some (Program.ofStream stream).statements) .halt,
    settled stream [] 0 (Program.ofStream stream).failures⟩
  := by
  have statement := (unary_statement_carriesOut indexed Parse.maxDepth).2
  have whole := oneRound_arrives indexed (Nat.zero_add _) statement .document .halt stream.words
    List.suffix_rfl [] (unreadable (Word.gather stream.tokens).1)
  obtain ⟨ss, answer, finished⟩ :=
    Parse.program_finishes Parse.maxDepth ⟨stream.finish, 0⟩ stream.words
  have statements : (Program.ofStream stream).statements = ss := by
    change (Parse.program Parse.maxDepth ⟨stream.finish, 0⟩ stream.words).value.getD [] = ss
    rw [answer, Option.getD_some]
  rw [Reply.onto_nil, Arrives, ← oneRound_start indexed] at whole
  change Returns stream _
    ⟨.answer (Parse.program Parse.maxDepth ⟨stream.finish, 0⟩ stream.words).value _,
      settled stream (Parse.program Parse.maxDepth ⟨stream.finish, 0⟩ stream.words).rest 0 _⟩ at whole
  rw [answer, finished, ← statements] at whole
  exact .head rfl (Above.steps whole)

omit indexed in
/-- From where the machine comes to its end, it does not go on for ever. -/
theorem not_endless {c last : Config} (steps : Steps stream c last) (final : step stream last = none)
    {run : Nat → Config} (begins : run 0 = c) :
  ¬ ∀ i, step stream (run i) = some (run (i + 1))
  := by
  intro goes
  induction steps using Relation.ReflTransGen.head_induction_on generalizing run with
  | refl =>
    have first := goes 0
    rw [begins, final] at first
    cases first
  | head one _ ih =>
    have first := goes 0
    rw [begins, one] at first
    have begins' : (fun i => run (i + 1)) 0 = _ := (Option.some.inj first).symm
    apply ih begins' fun i => goes (i + 1)

/-- A plan that was begun is done on the level where it was begun. -/
theorem Sound.run_returns {n : Nat} {α : Type} {rule : Rule α} {plan : Plan n rule} {stack : Stack α}
    {state : State} (sound : Sound stream ⟨.run plan stack, state⟩) :
  ∃ value state', Returns stream ⟨.run plan stack, state⟩ ⟨.answer value stack, state'⟩
    ∧ state'.depth = state.depth
  := by
  obtain ⟨ahead, failures, last, fits, same⟩ := sound
  obtain rfl : state = settled stream ahead stack.levels failures := same
  exact ⟨_, _, carriesOut indexed plan stack ahead stack.levels failures last fits.1, rfl⟩

/-- A statement with recovery comes back to the statements after it, behind its first word at least. -/
theorem Sound.recover_returns {loop : Loop} {read : List Stmt} {stack : Stack (List Stmt)}
    {state : State} (sound : Sound stream ⟨.recover loop read stack, state⟩) :
  ∃ read' state', Returns stream ⟨.recover loop read stack, state⟩ ⟨.statements loop read' stack, state'⟩
    ∧ state.pos < state'.pos
  := by
  obtain ⟨ahead, failures, last, ⟨fits, w, rest, rfl, other⟩, same⟩ := sound
  obtain rfl : state = settled stream (w :: rest) stack.levels failures := same
  have levels : stack.levels + (Parse.maxDepth - stack.levels) = Parse.maxDepth :=
    Nat.add_sub_of_le fits.levels_le
  have statement := (unary_statement_carriesOut indexed (Parse.maxDepth - stack.levels)).2
  obtain ⟨r, -, run⟩ := Parse.recovered_next (Parse.statement (Parse.maxDepth - stack.levels))
    ⟨stream.finish, stack.levels⟩ (w :: rest)
  have returns := Machine.recover_returns indexed levels statement loop stack last (by rw [run]) read
    failures
  have shorter := Parse.recovered_consumes (Parse.statement_built _) (Parse.statement_consumes _)
    ⟨stream.finish, stack.levels⟩ rest other r (by rw [run])
  refine ⟨_, _, returns, ?_⟩
  have inside := last.length_le
  change stream.words.length - (w :: rest).length < stream.words.length - _
  omega

/-- The search for a place to go on from comes back to the statements after it. -/
theorem Sound.synchronize_returns {loop : Loop} {read : List Stmt} {stack : Stack (List Stmt)}
    {state : State} (sound : Sound stream ⟨.synchronize loop read stack, state⟩) :
  ∃ state', Returns stream ⟨.synchronize loop read stack, state⟩ ⟨.statements loop read stack, state'⟩
  := by
  obtain ⟨ahead, failures, last, -, same⟩ := sound
  obtain rfl : state = settled stream ahead stack.levels failures := same
  exact ⟨_, Machine.synchronize_returns indexed last⟩

/-- The parser comes to its end on every stream, and does not go on for ever. Where it ends, no level is
nested, all significant tokens were read, and all tokens were looked through for unreadable ones. Until
then, no more levels are nested than are allowed, and exactly those that were entered and not yet left;
every rule that is begun comes to an end on the level where it was begun; every statement with recovery
takes the parser further; and every search for a place to go on from finds one. -/
theorem parser_finishes :
  (∃ last, Steps stream start ⟨.answer (some (Program.ofStream stream).statements) .halt, last⟩
      ∧ last.failures = (Program.ofStream stream).failures ∧ last.depth = 0
      ∧ last.pos = stream.significant.length ∧ last.cursor = stream.tokens.length)
    ∧ (¬ ∃ run : Nat → Config, run 0 = start ∧ ∀ i, step stream (run i) = some (run (i + 1)))
    ∧ ∀ c, Steps stream start c →
      c.state.depth ≤ Parse.maxDepth ∧ c.state.depth = c.control.levels
        ∧ (∀ (n : Nat) (α : Type) (rule : Rule α) (plan : Plan n rule) (stack : Stack α),
            c.control = .run plan stack →
            ∃ value state, Returns stream c ⟨.answer value stack, state⟩ ∧ state.depth = c.state.depth)
        ∧ (∀ loop read stack, c.control = .recover loop read stack →
            ∃ read' state, Returns stream c ⟨.statements loop read' stack, state⟩
              ∧ c.state.pos < state.pos)
        ∧ ∀ loop read stack, c.control = .synchronize loop read stack →
            ∃ state, Returns stream c ⟨.statements loop read stack, state⟩
  := by
  have finish := steps_finish indexed
  have significant : stream.significant.length = stream.words.length := by
    rw [← length_indices, Stream.indices, List.length_map]
  refine ⟨⟨_, finish, rfl, rfl, significant.symm, rfl⟩, ?_, ?_⟩
  · rintro ⟨run, begins, goes⟩
    apply not_endless finish rfl begins goes
  · intro c steps
    rcases sound_of_steps indexed steps with rfl | sound
    · refine ⟨Nat.zero_le _, rfl, ?_, ?_, ?_⟩
      · rintro n α rule plan stack ⟨⟩
      · rintro loop read stack ⟨⟩
      · rintro loop read stack ⟨⟩
    · obtain ⟨control, state⟩ := c
      have depth : state.depth = control.levels := by
        obtain ⟨ahead, failures, -, -, same⟩ := sound
        exact congrArg State.depth same
      refine ⟨sound.depth_le, depth, ?_, ?_, ?_⟩
      · rintro n α rule plan stack rfl
        apply sound.run_returns indexed
      · rintro loop read stack rfl
        apply sound.recover_returns indexed
      · rintro loop read stack rfl
        apply sound.synchronize_returns indexed

end

/-- A block that is not closed, with a line end and unreadable input in it, is read to its end. -/
theorem parser_finishes_unclosed :
  ∃ last, Steps (Stream.ofText "while x \x7b\n $ var") start ⟨.answer (some []) .halt, last⟩
    ∧ last.failures.length = 3 ∧ last.depth = 0 ∧ last.pos = 5 ∧ last.cursor = 10
  := by
  obtain ⟨⟨last, steps, failures, depth, pos, cursor⟩, -⟩ :=
    parser_finishes (Stream.isIndexed_ofText "while x \x7b\n $ var")
  have none : (Program.ofStream (.ofText "while x \x7b\n $ var")).statements = [] := by decide +kernel
  rw [none] at steps
  refine ⟨last, steps, ?_, depth, ?_, ?_⟩
  · rw [failures]
    decide +kernel
  · rw [pos]
    decide +kernel
  · rw [cursor]
    decide +kernel

end PlanetServer.Machine
