import Mathlib.Data.List.Flatten
import PlanetServer.Proofs.Rule.Plan
import PlanetServer.Proofs.Rule.Recovery
import PlanetServer.Proofs.Rule.Words

/-!
# Accounts of failures

Which tokens the failures of a document name, and how often, is a matter of who reads the word that is
at fault after it was reported.

* A rule that gives up reports the next word and leaves it, and all rules around it give up without a
  report. The search for a place to go on from then reads that word, unless it is a closing brace or
  the document is at its end. So within a statement every token is at fault once at most.
* A closing brace that was reported and left is read by the block that it closes. Where it closes
  nothing, it is reported once more and then read.
* Each block that is open at the end of the document reports that end once more.

`Rule.Settles` keeps the accounts: the failures that were met, after those that are still owed for the
next word, are paid from the words that were read, and some may be owed again. A rule that answers owes
nothing (`Rule.Thrifty`), a statement with recovery may owe what `Rule.Owes` says, and a document
owes its end only (`Rule.program_settles`).
-/

namespace PlanetServer

namespace Rule

variable {α : Type}

/-! ### Accounts -/

/-- The tokens at fault in failures, none for the end of the document. -/
def faults (fs : List Failure) : List (Option Token) :=
  fs.map Failure.offending

theorem faults_append (fs gs : List Failure) :
  faults (fs ++ gs) = faults fs ++ faults gs
  := List.map_append

theorem faults_failureAt_nil (cause : Cause) (site : Site) :
  faults [failureAt cause site []] = [none]
  := rfl

theorem faults_unreadable (ts : List Token) :
  (faults (unreadable ts)).Sublist (ts.map some)
  := by
  rw [faults, unreadable, List.map_map]
  apply List.filter_sublist.map some

theorem faults_lexical (ws : List Word) :
  (faults (lexical ws)).Sublist ((Word.flatten ws).map some)
  := by
  induction ws with
  | nil => exact .slnil
  | cons w ws ih =>
    have split : lexical (w :: ws) = unreadable w.trail ++ lexical ws := rfl
    rw [split, faults_append, Word.flatten_cons, List.map_cons, List.map_append]
    exact ((faults_unreadable w.trail).append ih).cons _

/-- How often each token may be at fault. -/
abbrev Share : Type :=
  Token → Nat

/-- Every token may be at fault once. -/
def once : Share :=
  fun _ => 1

/-- A closing brace may be at fault twice, and every other token once. -/
def braceTwice : Share :=
  fun t => if t.kind = .rightBrace then 2 else 1

theorem once_le_braceTwice (t : Token) :
  once t ≤ braceTwice t
  := by
  unfold once braceTwice
  split <;> decide

/-- Tokens, each as often as it may be at fault. -/
def shares (share : Share) (ts : List Token) : List (Option Token) :=
  ts.flatMap fun t => List.replicate (share t) (some t)

theorem shares_append (share : Share) (ts us : List Token) :
  shares share (ts ++ us) = shares share ts ++ shares share us
  := List.flatMap_append

theorem shares_once (ts : List Token) :
  shares once ts = ts.map some
  := by
  induction ts with
  | nil => rfl
  | cons t ts ih => exact congrArg (some t :: ·) ih

theorem shares_mono {share share' : Share} (more : ∀ t, share t ≤ share' t) (ts : List Token) :
  (shares share ts).Sublist (shares share' ts)
  := by
  induction ts with
  | nil => exact .slnil
  | cons t ts ih => exact ((List.replicate_sublist_replicate _).mpr (more t)).append ih

theorem faults_unreadable_braceTwice (ts : List Token) :
  (faults (unreadable ts)).Sublist (shares braceTwice ts)
  := by
  apply (faults_unreadable ts).trans
  rw [← shares_once]
  apply shares_mono once_le_braceTwice

/-- The failures that are owed and those that were met are paid from the words between two places, and
others are owed at the second place. -/
def Settles (share : Share) (debt : List (Option Token)) (ahead rest : List Word)
    (failures : List Failure) (debt' : List (Option Token)) : Prop :=
  ∃ read, ahead = read ++ rest
    ∧ (debt ++ faults failures).Sublist (shares share (Word.flatten read) ++ debt')

namespace Settles

variable {share : Share} {debt debt' debt'' : List (Option Token)} {ahead rest rest' : List Word}
  {failures failures' : List Failure}

theorem refl (share : Share) (ahead : List Word) (debt : List (Option Token)) :
  Settles share debt ahead ahead [] debt
  := by
  use [], rfl
  rw [faults, List.map_nil, List.append_nil]
  apply List.Sublist.refl

theorem trans (first : Settles share debt ahead rest failures debt')
    (second : Settles share debt' rest rest' failures' debt'') :
  Settles share debt ahead rest' (failures ++ failures') debt''
  := by
  obtain ⟨read, rfl, paid⟩ := first
  obtain ⟨more, rfl, paid'⟩ := second
  use read ++ more
  constructor
  · rw [List.append_assoc]
  · have early := paid.append (List.Sublist.refl (faults failures'))
    have late := (List.Sublist.refl (shares share (Word.flatten read))).append paid'
    rw [faults_append, Word.flatten_append, shares_append]
    simp only [List.append_assoc] at early late ⊢
    apply early.trans late

theorem mono (settles : Settles share debt ahead rest failures debt')
    (more : debt'.Sublist debt'') :
  Settles share debt ahead rest failures debt''
  := by
  obtain ⟨read, split, paid⟩ := settles
  use read, split
  apply paid.trans ((List.Sublist.refl _).append more)

theorem braceTwice (settles : Settles once debt ahead rest failures debt') :
  Settles braceTwice debt ahead rest failures debt'
  := by
  obtain ⟨read, split, paid⟩ := settles
  use read, split
  apply paid.trans
  apply (shares_mono once_le_braceTwice _).append (.refl _)

/-- Words are read, the first of which is owed, and only what is unreadable behind them is
reported. -/
theorem words (w : Word) (ws rest : List Word) :
  Settles once [some w.token] (w :: ws ++ rest) rest (lexical (w :: ws)) []
  := by
  use w :: ws, rfl
  have trail := faults_unreadable w.trail
  have later := faults_lexical ws
  have reported : lexical (w :: ws) = unreadable w.trail ++ lexical ws := rfl
  rw [List.append_nil, shares_once, Word.flatten_cons, List.map_cons, List.map_append, reported,
    faults_append]
  apply (trail.append later).cons_cons

/-- A word is read, and only what is unreadable behind it is reported. -/
theorem word (w : Word) (ahead : List Word) :
  Settles once [] (w :: ahead) ahead (unreadable w.trail) []
  := by
  use [w], rfl
  have trail := faults_unreadable w.trail
  rw [List.nil_append, List.append_nil, shares_once, Word.flatten_cons, Word.flatten_nil,
    List.append_nil]
  apply trail.cons

end Settles

/-! ### Rules that pay their debts -/

/-- The number of opening braces among words. -/
def braces (ws : List Word) : Nat :=
  ws.countP fun w => w.token.kind = .leftBrace

theorem braces_le {ws vs : List Word} (included : ws.Sublist vs) :
  braces ws ≤ braces vs
  := included.countP_le

/-- What is at fault where a rule gives up: the next word, or the end of the document, and that for each
block that is still open once more. -/
def stuck (ahead : List Word) : List Word → List (Option Token)
  | [] => List.replicate (braces ahead + 1) none
  | w :: _ => [some w.token]

theorem stuck_mono {ahead ahead' : List Word} (included : ahead.Sublist ahead') (rest : List Word) :
  (stuck ahead rest).Sublist (stuck ahead' rest)
  := by
  cases rest with
  | nil =>
    apply (List.replicate_sublist_replicate none).mpr
    apply Nat.succ_le_succ (braces_le included)
  | cons w rest => exact .refl _

/-- What is owed where a rule ends: nothing if it has answered. -/
def owed (ahead : List Word) (answered : Bool) (rest : List Word) : List (Option Token) :=
  if answered then [] else stuck ahead rest

theorem owed_mono {ahead ahead' : List Word} (included : ahead.Sublist ahead') (answered : Bool)
    (rest : List Word) :
  (owed ahead answered rest).Sublist (owed ahead' answered rest)
  := by
  cases answered with
  | true => exact .refl _
  | false => apply stuck_mono included

/-- The failures of a reply are paid from the words that were read, up to what is owed where the rule
gave up. -/
def Accounts (ahead : List Word) (reply : Reply α) : Prop :=
  Settles once [] ahead reply.rest reply.failures (owed ahead reply.value.isSome reply.rest)

/-- What comes after words that were paid for. -/
theorem Accounts.after {β : Type} {ahead rest : List Word} {failures : List Failure} {reply : Reply α}
    (first : Settles once [] ahead rest failures []) (second : Accounts rest reply)
    {value : Option β} (same : value.isSome = reply.value.isSome) :
  Accounts ahead ⟨value, reply.rest, failures ++ reply.failures⟩
  := by
  obtain ⟨read, rfl, -⟩ := id first
  rw [Accounts, same]
  apply (first.trans second).mono
  apply owed_mono (List.sublist_append_right read rest)

/-- The failures of a rule are paid from the words that it reads, up to the last one where it gives
up. -/
def Thrifty (rule : Rule α) : Prop :=
  ∀ site ahead, Accounts ahead (rule site ahead)

theorem thrifty_bind {β : Type} {rule : Rule α} {next : α → Rule β} (first : Thrifty rule)
    (second : ∀ a, Thrifty (next a)) :
  Thrifty (rule >>= next)
  := by
  intro site ahead
  have paid := first site ahead
  cases found : (rule site ahead).value with
  | none =>
    rw [bind_of_none found]
    rwa [Accounts, found] at paid
  | some a =>
    rw [bind_of_some found]
    rw [Accounts, found] at paid
    apply Accounts.after paid (second a site _) rfl

theorem thrifty_fail (cause : Cause) :
  Thrifty (fail cause : Rule α)
  := by
  intro site ahead
  use [], rfl
  cases ahead with
  | nil => exact .refl _
  | cons w ahead => exact .refl _

theorem thrifty_many {round : Rule (Round α)} (advances : Advances round) (thrifty : Thrifty round) :
  Thrifty (many round)
  := by
  intro site
  apply many_induct advances site (P := Accounts)
  · intro ahead found
    have paid := thrifty site ahead
    rwa [Accounts, found] at paid
  · intro ahead found
    have paid := thrifty site ahead
    rwa [Accounts, found] at paid
  · intro ahead reply found _ rest
    have paid := thrifty site ahead
    rw [Accounts, found] at paid
    apply Accounts.after paid rest rfl
  · intro ahead reply a found _ rest
    have paid := thrifty site ahead
    rw [Accounts, found] at paid
    apply Accounts.after paid rest (Option.isSome_map ..)

/-! ### Statements with recovery -/

/-- What may be owed at the next word of a block or of a document: nothing, a closing brace that was left
by a statement, or the end of the document, up to a number of times. -/
inductive Owes (limit : Nat) : List Word → List (Option Token) → Prop
  /-- Nothing is owed. -/
  | nothing (ahead : List Word) : Owes limit ahead []
  /-- The closing brace that is next is owed. -/
  | brace {w : Word} (ahead : List Word) (brace : w.token.kind = .rightBrace) :
    Owes limit (w :: ahead) [some w.token]
  /-- The end of the document is owed. -/
  | finish {count : Nat} (few : count ≤ limit) : Owes limit [] (List.replicate count none)

/-- At a word that is no closing brace nothing is owed. -/
theorem Owes.eq_nil {limit : Nat} {w : Word} {ahead : List Word} {debt : List (Option Token)}
    (owes : Owes limit (w :: ahead) debt) (other : w.token.kind ≠ .rightBrace) :
  debt = []
  := by
  cases owes with
  | nothing => rfl
  | brace _ brace => exact absurd brace other

/-- The next word pays what is owed. -/
theorem Owes.settles_word {limit : Nat} {w : Word} {ahead : List Word} {debt : List (Option Token)}
    (owes : Owes limit (w :: ahead) debt) :
  Settles once debt (w :: ahead) ahead (unreadable w.trail) []
  := by
  cases owes with
  | nothing => apply Settles.word
  | brace =>
    have paid := Settles.words w [] ahead
    rwa [lexical, List.flatMap_singleton] at paid

/-- The end of the document is owed up to a number of times. -/
theorem Owes.sublist_finish {limit : Nat} {debt : List (Option Token)} (owes : Owes limit [] debt) :
  debt.Sublist (List.replicate limit none)
  := by
  cases owes with
  | nothing => apply List.nil_sublist
  | finish few => apply (List.replicate_sublist_replicate none).mpr few

/-- The search for a place to go on from reads the word where a statement gave up, unless it is a closing
brace. -/
theorem synchronize_settles {limit : Nat} {ahead : List Word} (few : braces ahead < limit) (site : Site)
    (rest : List Word) :
  ∃ debt, Owes limit (Parse.synchronize site rest).rest debt
    ∧ Settles once (stuck ahead rest) rest (Parse.synchronize site rest).rest
        (Parse.synchronize site rest).failures debt
  := by
  obtain ⟨skipped, rest', split, run, stays⟩ := Parse.synchronize_skips site rest
  rw [run]
  cases skipped with
  | nil =>
    obtain rfl : rest = rest' := split
    use stuck ahead rest
    constructor
    · cases rest with
      | nil => exact .finish few
      | cons w rest => exact .brace rest (stays rfl w rfl)
    · apply Settles.refl
  | cons w skipped =>
    subst split
    exact ⟨[], .nothing rest', .words w skipped rest'⟩

/-- A statement with recovery owes at most what the search for a place to go on from has left. -/
theorem recovered_settles {statement : Rule Stmt} (built : Built statement) (thrifty : Thrifty statement)
    {limit : Nat} {w : Word} {ahead : List Word} (few : braces (w :: ahead) < limit)
    (other : w.token.kind ≠ .rightBrace) {debt : List (Option Token)}
    (owes : Owes limit (w :: ahead) debt) (site : Site) :
  let reply := Parse.recovered statement site (w :: ahead)
  ∃ debt', Owes limit reply.rest debt' ∧ braces reply.rest < limit
    ∧ Settles once debt (w :: ahead) reply.rest reply.failures debt'
  := by
  intro reply
  obtain rfl := owes.eq_nil other
  have left := (Parse.recovered_built built).suffix site (w :: ahead)
  have few' : braces reply.rest < limit := Nat.lt_of_le_of_lt (braces_le left.sublist) few
  have paid := thrifty site (w :: ahead)
  cases found : (statement site (w :: ahead)).value with
  | some s =>
    rw [Accounts, found] at paid
    have run : reply = _ := Parse.recovered_of_some found
    rw [run] at few' ⊢
    exact ⟨[], .nothing _, few', paid⟩
  | none =>
    rw [Accounts, found] at paid
    have run : reply = _ := Parse.recovered_of_none found
    rw [run] at few' ⊢
    obtain ⟨debt', owes', later⟩ := synchronize_settles few site (statement site (w :: ahead)).rest
    exact ⟨debt', owes', few', paid.trans later⟩

/-! ### Blocks -/

/-- What is owed before the statements of a block is paid. Where the block is not closed, the end of the
document is reached, and is owed once more than before. -/
def Closes (limit : Nat) (debt : List (Option Token)) (ahead : List Word) (reply : Reply α) : Prop :=
  Settles once debt ahead reply.rest reply.failures
      (if reply.value.isSome then [] else List.replicate (limit + 1) none)
    ∧ (reply.value = none → reply.rest = [])

theorem Closes.after {limit : Nat} {debt debt' : List (Option Token)} {ahead rest : List Word}
    {failures : List Failure} {reply : Reply α} {value : Option α}
    (first : Settles once debt ahead rest failures debt') (second : Closes limit debt' rest reply)
    (same : value.isSome = reply.value.isSome) :
  Closes limit debt ahead ⟨value, reply.rest, failures ++ reply.failures⟩
  := by
  obtain ⟨paid, last⟩ := second
  constructor
  · rw [same]
    apply first.trans paid
  · intro gone
    apply last
    rw [← Option.isNone_iff_eq_none, ← Option.not_isSome, ← same]
    simpa using gone

section

variable {statement : Rule Stmt} (built : Built statement)
  (consumes : ∀ site ahead, ConsumesAt statement site ahead) (thrifty : Thrifty statement)

include built consumes thrifty

/-- The statements of a block pay what is owed before them. -/
theorem statements_close {limit : Nat} (site : Site) (ahead : List Word)
    (few : braces ahead < limit) {debt : List (Option Token)} (owes : Owes limit ahead debt) :
  Closes limit debt ahead (many (Parse.blockRound statement) site ahead)
  := by
  have advances := Parse.blockRound_advances built consumes
  induction ahead using Parse.rounds_induct built consumes site generalizing debt with
  | nil =>
    rw [many_of_none advances Parse.blockRound_nil]
    constructor
    · use [], rfl
      rw [faults_failureAt_nil, List.replicate_succ']
      apply owes.sublist_finish.append (.refl [none])
    · exact fun _ => rfl
  | newline w ahead line ih =>
    rw [many_of_skip advances (Parse.blockRound_newline line)]
    apply Closes.after owes.settles_word (ih _ (.nothing ahead)) rfl
    apply Nat.lt_of_le_of_lt (braces_le (List.sublist_cons_self w ahead)) few
  | brace w ahead brace _ =>
    rw [many_of_stop advances (Parse.blockRound_brace brace)]
    exact ⟨owes.settles_word, nofun⟩
  | other w ahead line brace ih =>
    obtain ⟨debt', owes', few', paid⟩ := recovered_settles built thrifty few brace owes site
    obtain ⟨r, more, run⟩ := Parse.recovered_next statement site (w :: ahead)
    rw [many_of_next advances ((Parse.blockRound_other line brace).trans run) more]
    apply Closes.after paid (ih few' owes') Option.isSome_map

/-- A block is thrifty: its opening brace stands for the report that it makes at the end of the
document. -/
theorem thrifty_block (others : KindSet) :
  Thrifty (Parse.block statement others)
  := by
  intro site ahead
  cases ahead with
  | nil => apply thrifty_fail _ site []
  | cons w ahead =>
    by_cases opens : w.token.kind = .leftBrace
    · have paid := statements_close built consumes thrifty site ahead (Nat.lt_succ_self _)
        (.nothing ahead)
      rw [Parse.block_brace opens]
      apply ((Settles.word w ahead).trans paid.1).mono
      cases found : (many (Parse.blockRound statement) site ahead).value with
      | some _ => exact .refl []
      | none =>
        have more : braces (w :: ahead) = braces ahead + 1 :=
          List.countP_cons_of_pos (by simpa using opens)
        have all : stuck (w :: ahead) (many (Parse.blockRound statement) site ahead).rest
            = List.replicate (braces ahead + 1 + 1) none := by
          rw [paid.2 found, stuck, more]
        dsimp only [owed, found, Option.isSome_none]
        exact all ▸ .refl _
    · have run : Parse.block statement others site (w :: ahead) = ⟨_, _, _⟩ :=
        bind_of_none (congrArg Reply.value (expect_of_ne opens others site ahead))
      rw [run, expect_of_ne opens]
      apply thrifty_fail _ site (w :: ahead)

end

/-- A rule is thrifty if operands and statements are. -/
theorem Plan.thrifty {n : Nat} {rule : Rule α} (unary : Thrifty (Parse.unary n))
    (statement : Thrifty (Parse.statement n)) (plan : Plan n rule) :
  Thrifty rule
  := by
  induction plan with
  | pure a => exact fun site ahead => .refl once ahead []
  | bind _ _ first second => apply thrifty_bind first second
  | look f same =>
    rw [same]
    exact fun site ahead => .refl once ahead []
  | take =>
    rintro site (_ | ⟨w, ahead⟩)
    · exact .refl once [] []
    · exact .word w ahead
  | advance =>
    rintro site (_ | ⟨w, ahead⟩)
    · exact .refl once [] []
    · exact .word w ahead
  | fail cause real => apply thrifty_fail
  | many _ advances round => apply thrifty_many advances round
  | unary => apply unary
  | statement => apply statement
  | block others =>
    apply thrifty_block (Parse.statement_built n) (Parse.statement_consumes n) statement

/-- Operands and statements are thrifty, however many levels are left. -/
theorem unary_statement_thrifty (n : Nat) :
  Thrifty (Parse.unary n) ∧ Thrifty (Parse.statement n)
  := by
  induction n with
  | zero => exact ⟨thrifty_fail _, thrifty_fail _⟩
  | succ n ih =>
    have unary := (Parse.unaryPlan n).thrifty ih.1 ih.2
    have statement := (Parse.statementPlan n).thrifty ih.1 ih.2
    constructor
    · intro site
      rw [Parse.unary_succ]
      apply unary ⟨site.finish, site.depth + 1⟩
    · intro site
      apply statement ⟨site.finish, site.depth + 1⟩

/-! ### Documents -/

/-- A closing brace that closes nothing is at fault, also where it is owed. -/
theorem Owes.settles_twice {limit : Nat} {w : Word} {ahead : List Word} {debt : List (Option Token)}
    (owes : Owes limit (w :: ahead) debt) (brace : w.token.kind = .rightBrace) (cause : Cause)
    (site : Site) :
  Settles braceTwice debt (w :: ahead) ahead
    (failureAt cause site (w :: ahead) :: unreadable w.trail) []
  := by
  have twice : shares braceTwice (w.token :: w.trail)
      = [some w.token, some w.token] ++ shares braceTwice w.trail := by
    simp [shares, braceTwice, brace]
  have few : (debt ++ [some w.token]).Sublist [some w.token, some w.token] := by
    cases owes with
    | nothing => apply List.sublist_cons_self
    | brace => exact .refl _
  use [w], rfl
  rw [Word.flatten_cons, Word.flatten_nil, List.append_nil, List.append_nil, twice]
  have both := few.append (faults_unreadable_braceTwice w.trail)
  rwa [List.append_assoc] at both

/-- A document pays what is owed before it, and only its end is owed where it is over. -/
theorem program_settles {n limit : Nat} (site : Site) (ahead : List Word) (few : braces ahead < limit)
    {debt : List (Option Token)} (owes : Owes limit ahead debt) :
  Settles braceTwice debt ahead [] (Parse.program n site ahead).failures (List.replicate limit none)
  := by
  have advances := Parse.programRound_advances n
  have built := Parse.statement_built n
  unfold Parse.program
  induction ahead using Parse.rounds_induct built (Parse.statement_consumes n) site
    generalizing debt with
  | nil =>
    rw [many_of_stop advances Parse.programRound_nil]
    apply (Settles.refl braceTwice [] debt).mono owes.sublist_finish
  | newline w ahead line ih =>
    have few' := Nat.lt_of_le_of_lt (braces_le (List.sublist_cons_self w ahead)) few
    rw [many_of_skip advances (Parse.programRound_newline line)]
    apply owes.settles_word.braceTwice.trans (ih few' (.nothing ahead))
  | brace w ahead brace ih =>
    have few' := Nat.lt_of_le_of_lt (braces_le (List.sublist_cons_self w ahead)) few
    rw [many_of_skip advances (Parse.programRound_brace brace)]
    apply (owes.settles_twice brace _ site).trans (ih few' (.nothing ahead))
  | other w ahead line brace ih =>
    obtain ⟨debt', owes', few', paid⟩ :=
      recovered_settles built (unary_statement_thrifty n).2 few brace owes site
    obtain ⟨r, more, run⟩ := Parse.recovered_next (Parse.statement n) site (w :: ahead)
    rw [many_of_next advances ((Parse.programRound_other line brace).trans run) more]
    apply paid.braceTwice.trans (ih few' owes')

end Rule

end PlanetServer
