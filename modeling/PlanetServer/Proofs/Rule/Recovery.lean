import PlanetServer.Proofs.Rule.Parser

/-!
# Recovery, word by word

What the end of a statement, the search for a place to go on from, a statement with recovery, and one
round of a block or of a document do, by the kind of the next word. `Parse.rounds_induct` is the
induction along the rounds of a block or of a document.
-/

namespace PlanetServer.Rule

variable {α : Type} {round : Rule (Round α)} {site : Site} {ahead rest : List Word}
  {failures : List Failure}

/-- A repetition whose first round gives up. -/
theorem many_of_none (advances : Advances round) (run : round site ahead = ⟨none, rest, failures⟩) :
  many round site ahead = ⟨none, rest, failures⟩
  := by
  rw [many_eq advances, bind_of_none (congrArg Reply.value run), run]

/-- A repetition whose first round is the last one. -/
theorem many_of_stop (advances : Advances round)
    (run : round site ahead = ⟨some .stop, rest, failures⟩) :
  many round site ahead = ⟨some [], rest, failures⟩
  := by
  rw [many_eq advances, bind_of_some (congrArg Reply.value run), run]
  simp [pure, Rule.pure]

/-- The items that a round has made. -/
def Round.items : Round α → List α
  | .item a => [a]
  | .skip | .stop => []

/-- A repetition whose first round is not the last one. -/
theorem many_of_next (advances : Advances round) {r : Round α}
    (run : round site ahead = ⟨some r, rest, failures⟩) (more : r ≠ .stop) :
  many round site ahead
    = ⟨(many round site rest).value.map (r.items ++ ·), (many round site rest).rest,
        failures ++ (many round site rest).failures⟩
  := by
  cases r with
  | item a => apply many_of_item advances run
  | skip =>
    rw [many_of_skip advances run]
    simp [Round.items]
  | stop => exact absurd rfl more

/-- A repetition that answers ends with its last round. -/
theorem many_ends (advances : Advances round) (site : Site) (ahead : List Word) :
  ∀ items, (many round site ahead).value = some items →
    ∃ before, (round site before).value = some .stop
      ∧ (round site before).rest = (many round site ahead).rest
  := by
  apply many_induct advances site (P := fun _ reply => ∀ items, reply.value = some items →
    ∃ before, (round site before).value = some .stop ∧ (round site before).rest = reply.rest)
  · intro _ _ _ answer
    cases answer
  · intro ahead last _ _
    exact ⟨ahead, last, rfl⟩
  · intro _ _ _ _ ih
    apply ih
  · intro _ _ _ _ _ ih _ answer
    obtain ⟨items, found, -⟩ := Option.map_eq_some_iff.mp answer
    apply ih items found

end PlanetServer.Rule

namespace PlanetServer.Parse

open PlanetServer.Rule

variable {site : Site} {w : Word} {ahead : List Word}

/-- Words at which the search for a place to go on from ends, and which are read. -/
def endsStatement (k : Kind) : Bool :=
  k = .semicolon || k = .newline

/-! ### The end of a statement -/

theorem terminator_end (ends : endsStatement w.token.kind = true) (others : KindSet) :
  terminator others site (w :: ahead) = advance site (w :: ahead)
  := by
  have kinds : w.token.kind = .semicolon ∨ w.token.kind = .newline := by
    simpa [endsStatement] using ends
  rw [terminator, peek_bind_cons]
  rcases kinds with found | found
  · rw [found]
  · rw [found]

theorem terminator_closed (last : ∀ w ∈ ahead.head?, w.token.kind = .rightBrace) (others : KindSet) :
  terminator others site ahead = ⟨some (), ahead, []⟩
  := by
  cases ahead with
  | nil => rfl
  | cons w ahead =>
    rw [terminator, peek_bind_cons, last w rfl]
    rfl

theorem terminator_other (open' : endsStatement w.token.kind = false)
    (other : w.token.kind ≠ .rightBrace) (others : KindSet) :
  terminator others site (w :: ahead) = fail (.mismatch (terminators.union others)) site (w :: ahead)
  := by
  rw [terminator, peek_bind_cons]
  apply congrArg fun rule : Rule Unit => rule site (w :: ahead)
  split
  · simp_all [endsStatement]
  · simp_all [endsStatement]
  · simp_all
  · simp_all
  · rfl

/-! ### The search for a place to go on from -/

theorem skipWord_other (open' : endsStatement w.token.kind = false)
    (other : w.token.kind ≠ .rightBrace) :
  skipWord site (w :: ahead) = ⟨some .skip, ahead, unreadable w.trail⟩
  := by
  have skips : skipWord site (w :: ahead) = (advance >>= fun _ => pure .skip) site (w :: ahead) := by
    rw [skipWord, peek_bind_cons]
    apply congrArg fun rule : Rule (Round Unit) => rule site (w :: ahead)
    split
    · simp_all
    · simp_all
    · simp_all [endsStatement]
    · simp_all [endsStatement]
    · rfl
  rw [skips]
  simp [bind_run, advance, pure, Rule.pure]

theorem skipWords_stop (last : ∀ w ∈ ahead.head?,
    endsStatement w.token.kind = true ∨ w.token.kind = .rightBrace) :
  many skipWord site ahead = ⟨some [], ahead, []⟩
  := by
  have stops : skipWord site ahead = ⟨some .stop, ahead, []⟩ := by
    cases ahead with
    | nil => rfl
    | cons w ahead =>
      have ends := last w rfl
      change skipWord site (w :: ahead) = (pure .stop : Rule (Round Unit)) site (w :: ahead)
      rw [skipWord, peek_bind_cons]
      apply congrArg fun rule : Rule (Round Unit) => rule site (w :: ahead)
      split
      · rfl
      · rfl
      · rfl
      · rfl
      · simp_all [endsStatement]
  apply many_of_stop skipWord_advances stops

theorem synchronize_nil :
  synchronize site [] = ⟨some (), [], []⟩
  := by
  have stops : many skipWord site [] = ⟨some [], [], []⟩ := by
    apply skipWords_stop
    simp
  rw [synchronize, bind_of_some (by rw [stops]), stops]
  rfl

theorem synchronize_brace (brace : w.token.kind = .rightBrace) :
  synchronize site (w :: ahead) = ⟨some (), w :: ahead, []⟩
  := by
  have stops : many skipWord site (w :: ahead) = ⟨some [], w :: ahead, []⟩ := by
    apply skipWords_stop
    simp [brace]
  rw [synchronize, bind_of_some (by rw [stops]), stops]
  simp [brace, pure, Rule.pure]

theorem synchronize_end (ends : endsStatement w.token.kind = true) :
  synchronize site (w :: ahead) = ⟨some (), ahead, unreadable w.trail⟩
  := by
  have stops : many skipWord site (w :: ahead) = ⟨some [], w :: ahead, []⟩ := by
    apply skipWords_stop
    simp [ends]
  have kinds : w.token.kind = .semicolon ∨ w.token.kind = .newline := by
    simpa [endsStatement] using ends
  rw [synchronize, bind_of_some (by rw [stops]), stops]
  rcases kinds with found | found
  · simp [found, advance]
  · simp [found, advance]

theorem synchronize_other (open' : endsStatement w.token.kind = false)
    (other : w.token.kind ≠ .rightBrace) :
  synchronize site (w :: ahead)
    = ⟨(synchronize site ahead).value, (synchronize site ahead).rest,
        unreadable w.trail ++ (synchronize site ahead).failures⟩
  := by
  have skip : skipWord site (w :: ahead) = ⟨some .skip, ahead, unreadable w.trail⟩ :=
    skipWord_other open' other
  rw [synchronize, bind_run, many_of_skip skipWord_advances skip, bind_run (many skipWord)]
  cases (many skipWord site ahead).value with
  | none => rfl
  | some _ => simp only [List.append_assoc]

/-- The search skips words, and of what it passes only the unreadable tokens are reported. It ends
behind the end of a statement, before a closing brace, or at the end of the document. -/
theorem synchronize_skips (site : Site) (ahead : List Word) :
  ∃ skipped rest, ahead = skipped ++ rest
    ∧ synchronize site ahead = ⟨some (), rest, lexical skipped⟩
    ∧ (skipped = [] → ∀ w ∈ ahead.head?, w.token.kind = .rightBrace)
  := by
  induction ahead with
  | nil => exact ⟨[], [], rfl, synchronize_nil, by simp⟩
  | cons w ahead ih =>
    by_cases brace : w.token.kind = .rightBrace
    · exact ⟨[], w :: ahead, rfl, synchronize_brace brace, by simp [brace]⟩
    cases ends : endsStatement w.token.kind with
    | true => exact ⟨[w], ahead, rfl, by simp [synchronize_end ends, lexical], by simp⟩
    | false =>
      obtain ⟨skipped, rest, rfl, run, -⟩ := ih
      refine ⟨w :: skipped, rest, rfl, ?_, by simp⟩
      rw [synchronize_other ends brace, run]
      rfl

/-! ### Statements with recovery -/

variable {statement : Rule Stmt}

theorem recovered_of_some {s : Stmt} (found : (statement site ahead).value = some s) :
  recovered statement site ahead
    = ⟨some (.item s), (statement site ahead).rest, (statement site ahead).failures⟩
  := by
  have run : recovered statement site ahead = ⟨_, _, _⟩ :=
    bind_of_some (show (attempt statement site ahead).value = _ from congrArg some found)
  rw [run]
  simp [attempt, pure, Rule.pure]

theorem recovered_of_none (found : (statement site ahead).value = none) :
  recovered statement site ahead
    = ⟨some .skip, (synchronize site (statement site ahead).rest).rest,
        (statement site ahead).failures ++ (synchronize site (statement site ahead).rest).failures⟩
  := by
  obtain ⟨skipped, rest, -, resumed, -⟩ := synchronize_skips site (statement site ahead).rest
  have run : recovered statement site ahead = ⟨_, _, _⟩ :=
    bind_of_some (show (attempt statement site ahead).value = _ from congrArg some found)
  rw [run]
  simp [attempt, bind_run, resumed, pure, Rule.pure]

/-- A statement with recovery never gives up, and is never the last round. -/
theorem recovered_next (statement : Rule Stmt) (site : Site) (ahead : List Word) :
  ∃ r, r ≠ .stop ∧ recovered statement site ahead
    = ⟨some r, (recovered statement site ahead).rest, (recovered statement site ahead).failures⟩
  := by
  cases found : (statement site ahead).value with
  | some s => exact ⟨.item s, nofun, by rw [recovered_of_some found]⟩
  | none => exact ⟨.skip, nofun, by rw [recovered_of_none found]⟩

/-- Induction along the rounds of a block or of a document: over line ends and closing braces, and over
statements, after which reading goes on behind their first word at least. -/
theorem rounds_induct (built : Built statement)
    (consumes : ∀ site ahead, ConsumesAt statement site ahead) (site : Site) {P : List Word → Prop}
    (nil : P [])
    (newline : ∀ w ahead, w.token.kind = .newline → P ahead → P (w :: ahead))
    (brace : ∀ w ahead, w.token.kind = .rightBrace → P ahead → P (w :: ahead))
    (other : ∀ w ahead, w.token.kind ≠ .newline → w.token.kind ≠ .rightBrace →
      P (recovered statement site (w :: ahead)).rest → P (w :: ahead))
    (ahead : List Word) :
  P ahead
  := by
  induction h : ahead.length using Nat.strongRecOn generalizing ahead with
  | _ length ih =>
    subst h
    cases ahead with
    | nil => exact nil
    | cons w ahead =>
      by_cases line : w.token.kind = .newline
      · apply newline w ahead line (ih _ (Nat.lt_succ_self _) ahead rfl)
      by_cases close : w.token.kind = .rightBrace
      · apply brace w ahead close (ih _ (Nat.lt_succ_self _) ahead rfl)
      · obtain ⟨r, -, run⟩ := recovered_next statement site (w :: ahead)
        have shorter := recovered_consumes built consumes site ahead close r (by rw [run])
        apply other w ahead line close (ih _ shorter _ rfl)

/-! ### Rounds of a block and of a document -/

theorem blockRound_nil :
  blockRound statement site [] = fail (.mismatch (.ofList [.rightBrace])) site []
  := rfl

theorem blockRound_newline (line : w.token.kind = .newline) :
  blockRound statement site (w :: ahead) = ⟨some .skip, ahead, unreadable w.trail⟩
  := by
  rw [blockRound, peek_bind_cons, line]
  simp [bind_run, advance, pure, Rule.pure]

theorem blockRound_brace (brace : w.token.kind = .rightBrace) :
  blockRound statement site (w :: ahead) = ⟨some .stop, ahead, unreadable w.trail⟩
  := by
  rw [blockRound, peek_bind_cons, brace]
  simp [bind_run, advance, pure, Rule.pure]

theorem blockRound_other (line : w.token.kind ≠ .newline) (brace : w.token.kind ≠ .rightBrace) :
  blockRound statement site (w :: ahead) = recovered statement site (w :: ahead)
  := by
  rw [blockRound, peek_bind_cons]
  apply congrArg fun rule : Rule (Round Stmt) => rule site (w :: ahead)
  split
  · simp_all
  · simp_all
  · simp_all
  · rfl

/-- A block after its opening brace. -/
theorem block_brace (opens : w.token.kind = .leftBrace) (others : KindSet) :
  block statement others site (w :: ahead)
    = ⟨(many (blockRound statement) site ahead).value, (many (blockRound statement) site ahead).rest,
        unreadable w.trail ++ (many (blockRound statement) site ahead).failures⟩
  := by
  have brace : expect .leftBrace others site (w :: ahead) = take site (w :: ahead) :=
    expect_of_eq opens others site ahead
  rw [block, bind_of_some (congrArg Reply.value brace), brace]
  rfl

theorem programRound_nil :
  programRound statement site [] = ⟨some .stop, [], []⟩
  := rfl

theorem programRound_newline (line : w.token.kind = .newline) :
  programRound statement site (w :: ahead) = ⟨some .skip, ahead, unreadable w.trail⟩
  := by
  rw [programRound, peek_bind_cons, line]
  simp [bind_run, advance, pure, Rule.pure]

theorem programRound_brace (brace : w.token.kind = .rightBrace) :
  programRound statement site (w :: ahead)
    = ⟨some .skip, ahead, failureAt .noViable site (w :: ahead) :: unreadable w.trail⟩
  := by
  rw [programRound, peek_bind_cons, brace]
  simp [bind_run, report, advance, pure, Rule.pure]

theorem programRound_other (line : w.token.kind ≠ .newline) (brace : w.token.kind ≠ .rightBrace) :
  programRound statement site (w :: ahead) = recovered statement site (w :: ahead)
  := by
  rw [programRound, peek_bind_cons]
  apply congrArg fun rule : Rule (Round Stmt) => rule site (w :: ahead)
  split
  · simp_all
  · simp_all
  · simp_all
  · rfl

/-- A document is read to its end, and its statements are the answer. -/
theorem program_finishes (n : Nat) (site : Site) (ahead : List Word) :
  ∃ ss, (program n site ahead).value = some ss ∧ (program n site ahead).rest = []
  := by
  have advances := programRound_advances n
  unfold program
  induction ahead using rounds_induct (statement_built n) (statement_consumes n) site with
  | nil => exact ⟨[], by rw [many_of_stop advances programRound_nil], rfl⟩
  | newline w ahead line ih =>
    rw [many_of_skip advances (programRound_newline line)]
    exact ih
  | brace w ahead brace ih =>
    rw [many_of_skip advances (programRound_brace brace)]
    exact ih
  | other w ahead line brace ih =>
    obtain ⟨r, more, run⟩ := recovered_next (statement n) site (w :: ahead)
    obtain ⟨ss, answer, finished⟩ := ih
    rw [many_of_next advances ((programRound_other line brace).trans run) more]
    exact ⟨r.items ++ ss, by rw [answer, Option.map_some], finished⟩

end PlanetServer.Parse
