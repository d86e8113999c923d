import Mathlib.Tactic.Common
import PlanetServer.Syntax.Program

/-!
# Runs of rules

How the combinators of rules run, and what every rule that is built from them has in common.

* A repetition is the fixed point of its round, provided that every round but the last uses up a
  word: `Rule.many_eq`.
* `Rule.Built` says that a rule is put together from the combinators, with repetitions only of rounds
  that use up words. What is left after such a rule are the last of the words that were ahead
  (`Built.suffix`), and the unreadable tokens that it reports are those behind the words that it
  read (`Built.lexical`).
-/

namespace PlanetServer.Rule

variable {α β : Type}

/-! ### Single steps -/

@[simp] theorem peek_bind_cons (next : Option Kind → Rule α) (site : Site) (w : Word)
    (ahead : List Word) :
  (peek >>= next) site (w :: ahead) = next (some w.token.kind) site (w :: ahead)
  := rfl

@[simp] theorem sees_bind_cons (k : Kind) (next : Bool → Rule α) (site : Site) (w : Word)
    (ahead : List Word) :
  (sees k >>= next) site (w :: ahead) = next (decide (w.token.kind = k)) site (w :: ahead)
  := rfl

theorem bind_run (rule : Rule α) (next : α → Rule β) (site : Site) (ahead : List Word) :
  (rule >>= next) site ahead
    = match (rule site ahead).value with
      | none => ⟨none, (rule site ahead).rest, (rule site ahead).failures⟩
      | some a =>
        ⟨(next a site (rule site ahead).rest).value, (next a site (rule site ahead).rest).rest,
          (rule site ahead).failures ++ (next a site (rule site ahead).rest).failures⟩
  := by
  change Rule.bind rule next site ahead = _
  unfold Rule.bind
  obtain ⟨_ | a, rest, failures⟩ := rule site ahead
  · rfl
  · rfl

/-- A sequence whose first rule gives up. -/
theorem bind_of_none {rule : Rule α} {next : α → Rule β} {site : Site} {ahead : List Word}
    (h : (rule site ahead).value = none) :
  (rule >>= next) site ahead = ⟨none, (rule site ahead).rest, (rule site ahead).failures⟩
  := by
  rw [bind_run, h]

/-- A sequence whose first rule answers. -/
theorem bind_of_some {rule : Rule α} {next : α → Rule β} {site : Site} {ahead : List Word} {a : α}
    (h : (rule site ahead).value = some a) :
  (rule >>= next) site ahead
    = ⟨(next a site (rule site ahead).rest).value, (next a site (rule site ahead).rest).rest,
        (rule site ahead).failures ++ (next a site (rule site ahead).rest).failures⟩
  := by
  rw [bind_run, h]

/-- What a sequence does depends only on what its first rule answers. -/
theorem bind_congr {rule rule' : Rule α} {site : Site} {ahead : List Word}
    (h : rule site ahead = rule' site ahead) (next : α → Rule β) :
  (rule >>= next) site ahead = (rule' >>= next) site ahead
  := by
  rw [bind_run, bind_run, h]

theorem expect_of_eq {k : Kind} {w : Word} (h : w.token.kind = k) (others : KindSet) (site : Site)
    (ahead : List Word) :
  expect k others site (w :: ahead) = take site (w :: ahead)
  := by
  simp [expect, h]

theorem expect_of_ne {k : Kind} {w : Word} (h : w.token.kind ≠ k) (others : KindSet) (site : Site)
    (ahead : List Word) :
  expect k others site (w :: ahead) = fail (.mismatch (others.insert k)) site (w :: ahead)
  := by
  simp [expect, h]

/-- A rule whose answer is changed by a function. -/
theorem bind_pure_run (f : α → β) (rule : Rule α) (site : Site) (ahead : List Word) :
  (do return f (← rule)) site ahead
    = ⟨(rule site ahead).value.map f, (rule site ahead).rest, (rule site ahead).failures⟩
  := by
  rcases h : (rule site ahead).value with _ | a
  · rw [bind_of_none h]
    rfl
  · rw [bind_of_some h]
    simp [pure, Rule.pure]

theorem bind_bind {γ : Type} (rule : Rule α) (next : α → Rule β) (next' : β → Rule γ) :
  rule >>= next >>= next' = rule >>= fun a => next a >>= next'
  := by
  funext site ahead
  cases found : (rule site ahead).value with
  | none =>
    rw [bind_of_none found, bind_of_none (by rw [bind_of_none found]), bind_of_none found]
  | some a =>
    rw [bind_of_some found]
    cases found' : (next a site (rule site ahead).rest).value with
    | none =>
      rw [bind_of_none found', bind_of_none (by rw [bind_of_some found, found']), bind_of_some found]
    | some b =>
      rw [bind_of_some found', bind_of_some (by rw [bind_of_some found, found']), bind_of_some found]
      simp only [List.append_assoc]

instance : LawfulMonad Rule :=
  LawfulMonad.mk' Rule
    (by
      intro α rule
      funext site ahead
      have run := bind_pure_run id rule site ahead
      rwa [Option.map_id] at run)
    (fun _ _ => rfl) bind_bind

@[simp] theorem failureAt_cause (cause : Cause) (site : Site) (ahead : List Word) :
  (failureAt cause site ahead).cause = cause
  := by
  cases ahead
  · rfl
  · rfl

@[simp] theorem failureAt_depth (cause : Cause) (site : Site) (ahead : List Word) :
  (failureAt cause site ahead).depth = site.depth
  := by
  cases ahead
  · rfl
  · rfl

/-! ### Repetition -/

/-- A round uses up a word, unless it is the last one or gives up. -/
def AdvancesAt (round : Rule (Round α)) (site : Site) (ahead : List Word) : Prop :=
  (round site ahead).value = none ∨ (round site ahead).value = some .stop
    ∨ (round site ahead).rest.length < ahead.length

/-- Every round but the last one uses up a word. -/
def Advances (round : Rule (Round α)) : Prop :=
  ∀ (site : Site) (ahead : List Word), AdvancesAt round site ahead

theorem AdvancesAt.stop (site : Site) (ahead : List Word) :
  AdvancesAt (pure .stop : Rule (Round α)) site ahead
  := .inr (.inl rfl)

theorem AdvancesAt.fail {cause : Cause} (site : Site) (ahead : List Word) :
  AdvancesAt (fail cause : Rule (Round α)) site ahead
  := .inl rfl

theorem AdvancesAt.peek_cons {next : Option Kind → Rule (Round α)} {site : Site} {w : Word}
    {ahead : List Word} (h : AdvancesAt (next (some w.token.kind)) site (w :: ahead)) :
  AdvancesAt (peek >>= next) site (w :: ahead)
  := h

theorem AdvancesAt.sees_cons {k : Kind} {next : Bool → Rule (Round α)} {site : Site} {w : Word}
    {ahead : List Word} (h : AdvancesAt (next (decide (w.token.kind = k))) site (w :: ahead)) :
  AdvancesAt (sees k >>= next) site (w :: ahead)
  := h

/-- More rounds than there are words ahead are as good as one more than there are. -/
theorem rounds_eq_many {round : Rule (Round α)} (advances : Advances round)
    {n : Nat} {site : Site} {ahead : List Word} (h : ahead.length < n) :
  rounds round n site ahead = many round site ahead
  := by
  have enough : ∀ n m ahead, ahead.length < n → ahead.length < m →
      rounds round n site ahead = rounds round m site ahead := by
    intro n
    induction n with
    | zero => simp
    | succ n ih =>
      intro m ahead hn hm
      obtain ⟨m, rfl⟩ : ∃ k, m = k + 1 := ⟨m - 1, by omega⟩
      rw [rounds, rounds, bind_run, bind_run]
      have step := advances site ahead
      unfold AdvancesAt at step
      rcases h : (round site ahead).value with _ | (a | _ | _)
      · rfl
      · rw [h] at step
        have shorter : (round site ahead).rest.length < ahead.length := by simpa using step
        simp only [bind_run, ih m (round site ahead).rest (by omega) (by omega)]
      · rw [h] at step
        have shorter : (round site ahead).rest.length < ahead.length := by simpa using step
        simp only [ih m (round site ahead).rest (by omega) (by omega)]
      · rfl
  apply enough n (ahead.length + 1) ahead h (Nat.lt_succ_self _)

/-- A repetition is its first round, and then the rest of it. -/
theorem many_eq {round : Rule (Round α)} (advances : Advances round) :
  many round = (do
    match ← round with
    | .stop => return []
    | .skip => many round
    | .item a => return a :: (← many round))
  := by
  funext site ahead
  change rounds round (ahead.length + 1) site ahead = _
  rw [rounds, bind_run, bind_run]
  have step := advances site ahead
  unfold AdvancesAt at step
  rcases h : (round site ahead).value with _ | (a | _ | _)
  · rfl
  · rw [h] at step
    have shorter : (round site ahead).rest.length < ahead.length := by simpa using step
    simp only [bind_run, rounds_eq_many advances shorter]
  · rw [h] at step
    have shorter : (round site ahead).rest.length < ahead.length := by simpa using step
    simp only [rounds_eq_many advances shorter]
  · rfl

/-- A repetition whose first round makes no item. -/
theorem many_of_skip {round : Rule (Round α)} (advances : Advances round) {site : Site}
    {ahead rest : List Word} {failures : List Failure}
    (run : round site ahead = ⟨some .skip, rest, failures⟩) :
  many round site ahead = ⟨(many round site rest).value, (many round site rest).rest,
    failures ++ (many round site rest).failures⟩
  := by
  rw [many_eq advances, bind_of_some (congrArg Reply.value run), run, ← many_eq advances]

/-- A repetition whose first round makes an item. -/
theorem many_of_item {round : Rule (Round α)} (advances : Advances round) {site : Site}
    {ahead rest : List Word} {failures : List Failure} {a : α}
    (run : round site ahead = ⟨some (.item a), rest, failures⟩) :
  many round site ahead = ⟨(many round site rest).value.map (a :: ·), (many round site rest).rest,
    failures ++ (many round site rest).failures⟩
  := by
  rw [many_eq advances, bind_of_some (congrArg Reply.value run), run, ← many_eq advances]
  dsimp only
  rw [bind_pure_run]

/-- What holds of a repetition round by round. The repetition is given by what it answers, so that
the rounds need not be opened again. -/
theorem many_induct {round : Rule (Round α)} (advances : Advances round) (site : Site)
    {P : List Word → Reply (List α) → Prop}
    (none : ∀ ahead, (round site ahead).value = none →
      P ahead ⟨.none, (round site ahead).rest, (round site ahead).failures⟩)
    (stop : ∀ ahead, (round site ahead).value = some .stop →
      P ahead ⟨some [], (round site ahead).rest, (round site ahead).failures⟩)
    (skip : ∀ ahead reply, (round site ahead).value = some .skip →
      (round site ahead).rest.length < ahead.length → P (round site ahead).rest reply →
      P ahead ⟨reply.value, reply.rest, (round site ahead).failures ++ reply.failures⟩)
    (item : ∀ ahead reply a, (round site ahead).value = some (.item a) →
      (round site ahead).rest.length < ahead.length → P (round site ahead).rest reply →
      P ahead ⟨reply.value.map (a :: ·), reply.rest, (round site ahead).failures ++ reply.failures⟩)
    (ahead : List Word) :
  P ahead (many round site ahead)
  := by
  induction h : ahead.length using Nat.strongRecOn generalizing ahead with
  | _ length ih =>
    subst h
    have step := advances site ahead
    unfold AdvancesAt at step
    rw [many_eq advances]
    rcases found : (round site ahead).value with _ | (a | _ | _)
    · rw [bind_of_none found]
      apply none ahead found
    · have shorter : (round site ahead).rest.length < ahead.length := by simpa [found] using step
      rw [bind_of_some found]
      simp only [bind_pure_run]
      apply item ahead _ a found shorter (ih _ shorter _ rfl)
    · have shorter : (round site ahead).rest.length < ahead.length := by simpa [found] using step
      rw [bind_of_some found]
      apply skip ahead _ found shorter (ih _ shorter _ rfl)
    · have last := stop ahead found
      rw [bind_of_some found]
      simpa only [pure, Rule.pure, List.append_nil] using last

/-! ### Unreadable tokens -/

/-- The failures of the unreadable tokens behind words. -/
def lexical (ws : List Word) : List Failure :=
  ws.flatMap fun w => unreadable w.trail

theorem lexical_append (ws vs : List Word) :
  lexical (ws ++ vs) = lexical ws ++ lexical vs
  := List.flatMap_append

theorem unreadable_append (ts us : List Token) :
  unreadable (ts ++ us) = unreadable ts ++ unreadable us
  := by
  simp [unreadable]

theorem unreadable_eq_nil_iff (ts : List Token) :
  unreadable ts = [] ↔ ∀ t ∈ ts, t.kind ≠ .unknown
  := by
  simp [unreadable]

theorem cause_of_mem_unreadable {f : Failure} {ts : List Token} (h : f ∈ unreadable ts) :
  f.cause = .unreadable
  := by
  obtain ⟨t, -, rfl⟩ := List.mem_map.mp h
  rfl

theorem filter_unreadable (ts : List Token) :
  (unreadable ts).filter (fun f => f.cause = .unreadable) = unreadable ts
  := by
  apply List.filter_eq_self.mpr
  intro f h
  simpa using cause_of_mem_unreadable h

/-- Between two places the failures of unreadable tokens are those behind the words read. -/
def Passes (ahead rest : List Word) (failures : List Failure) : Prop :=
  ∃ read, ahead = read ++ rest
    ∧ failures.filter (fun f => f.cause = .unreadable) = lexical read

theorem Passes.refl (ahead : List Word) :
  Passes ahead ahead []
  := ⟨[], rfl, rfl⟩

theorem Passes.refl_of_failure {cause : Cause} (real : cause ≠ .unreadable) {site : Site}
    {ahead : List Word} :
  Passes ahead ahead [failureAt cause site ahead]
  := by
  use [], rfl
  cases ahead
  · simp [failureAt, real, lexical]
  · simp [failureAt, real, lexical]

theorem Passes.trans {ahead rest rest' : List Word} {failures failures' : List Failure}
    (h : Passes ahead rest failures) (h' : Passes rest rest' failures') :
  Passes ahead rest' (failures ++ failures')
  := by
  obtain ⟨read, rfl, reported⟩ := h
  obtain ⟨more, rfl, reported'⟩ := h'
  use read ++ more
  constructor
  · rw [List.append_assoc]
  · rw [List.filter_append, reported, reported', lexical_append]

/-! ### Rules that are built from the combinators -/

/-- A rule that looks at the kinds of the words ahead and reads nothing. -/
def look (f : List Kind → α) : Rule α :=
  fun _ ahead => ⟨some (f (ahead.map fun w => w.token.kind)), ahead, []⟩

theorem lookahead_eq_look (n : Nat) :
  lookahead n = look fun ks => ks[n]?
  := by
  funext site ahead
  simp [lookahead, look]

theorem sees_eq_look (k : Kind) :
  sees k = look fun ks => ks.head?.any fun k' => k' = k
  := by
  funext site ahead
  cases ahead
  · rfl
  · rfl

theorem elseAhead_eq_look :
  Parse.elseAhead = look fun ks => (ks.dropWhile fun k => k = .newline).head?.any fun k => k = .kwElse
  := by
  funext site ahead
  simp only [Parse.elseAhead, look, List.dropWhile_map, List.head?_map, Option.any_map]
  rfl

/-- Rules that are put together from the combinators. -/
inductive Built : {α : Type} → Rule α → Prop
  | pure {α : Type} (a : α) : Built (pure a : Rule α)
  | bind {α β : Type} {rule : Rule α} {next : α → Rule β} :
      Built rule → (∀ a, Built (next a)) → Built (rule >>= next)
  | look {α : Type} (f : List Kind → α) : Built (look f)
  | take : Built take
  | advance : Built advance
  | report {cause : Cause} : cause ≠ .unreadable → Built (report cause)
  | fail {α : Type} {cause : Cause} : cause ≠ .unreadable → Built (fail cause : Rule α)
  | attempt {α : Type} {rule : Rule α} : Built rule → Built (attempt rule)
  | deeper {α : Type} {rule : Rule α} : Built rule → Built (deeper rule)
  | many {α : Type} {round : Rule (Round α)} : Built round → Advances round → Built (many round)

namespace Built

theorem peek : Built peek := by
  rw [Rule.peek, lookahead_eq_look]
  apply Built.look

theorem lookahead (n : Nat) : Built (lookahead n) := by
  rw [lookahead_eq_look]
  apply Built.look

theorem sees (k : Kind) : Built (sees k) := by
  rw [sees_eq_look]
  apply Built.look

theorem elseAhead : Built Parse.elseAhead := by
  rw [elseAhead_eq_look]
  apply Built.look

theorem ite {rule rule' : Rule α} {p : Prop} [Decidable p] (h : Built rule) (h' : Built rule') :
  Built (if p then rule else rule')
  := by
  split
  · apply h
  · apply h'

theorem expect (k : Kind) (others : KindSet) :
  Built (expect k others)
  := bind (sees k) fun _ => ite take (fail (by simp))

/-- What is left are the last of the words that were ahead. -/
theorem suffix {rule : Rule α} (built : Built rule) (site : Site) (ahead : List Word) :
  (rule site ahead).rest <:+ ahead
  := by
  induction built generalizing site ahead with
  | pure | look | report | fail => apply List.suffix_refl
  | @bind α β rule next _ _ first second =>
    rw [bind_run]
    split
    · apply first
    · apply List.IsSuffix.trans (second _ _ _) (first _ _)
  | take | advance =>
    cases ahead
    · apply List.suffix_refl
    · apply List.suffix_cons
  | attempt _ ih => apply ih
  | deeper _ ih => apply ih
  | many _ advances ih =>
    apply many_induct advances site (P := fun ahead reply => reply.rest <:+ ahead)
    · intro ahead _
      apply ih
    · intro ahead _
      apply ih
    · intro ahead reply _ _ rest
      apply List.IsSuffix.trans rest (ih _ _)
    · intro ahead reply a _ _ rest
      apply List.IsSuffix.trans rest (ih _ _)

/-- A round that uses up a word first advances. -/
theorem advancesAt {next : Unit → Rule (Round α)} (built : ∀ u, Built (next u)) (site : Site)
    (w : Word) (ahead : List Word) :
  AdvancesAt (Rule.advance >>= next) site (w :: ahead)
  := by
  right
  right
  have shorter := (built () |>.suffix site ahead).length_le
  apply Nat.lt_succ_of_le shorter

/-- The unreadable tokens that are reported are those behind the words that were read. -/
theorem lexical {rule : Rule α} (built : Built rule) (site : Site) (ahead : List Word) :
  Passes ahead (rule site ahead).rest (rule site ahead).failures
  := by
  induction built generalizing site ahead with
  | pure | look => apply Passes.refl
  | @report cause real | @fail _ cause real => apply Passes.refl_of_failure real
  | take | advance =>
    rcases ahead with _ | ⟨w, ahead⟩
    · apply Passes.refl
    · use [w], rfl
      simp [Rule.lexical, Rule.take, Rule.advance, filter_unreadable]
  | attempt _ ih => apply ih
  | deeper _ ih => apply ih
  | @bind α β rule next _ _ first second =>
    rcases found : (rule site ahead).value with _ | a
    · rw [bind_of_none found]
      apply first
    · rw [bind_of_some found]
      apply Passes.trans (first site ahead) (second a site _)
  | many _ advances ih =>
    apply many_induct advances site
      (P := fun ahead reply => Passes ahead reply.rest reply.failures)
    · intro ahead _
      apply ih
    · intro ahead _
      apply ih
    · intro ahead reply _ _ rest
      apply Passes.trans (ih site ahead) rest
    · intro ahead reply a _ _ rest
      apply Passes.trans (ih site ahead) rest

/-- What holds of the failures of unreadable tokens and of those at a word or at the end holds of every
failure of a rule. -/
theorem forall_failures {rule : Rule α} (built : Built rule) (site : Site) {P : List Word → Failure → Prop}
    (later : ∀ {rest ahead f}, rest <:+ ahead → P rest f → P ahead f)
    (trail : ∀ w ahead, ∀ f ∈ unreadable w.trail, P (w :: ahead) f)
    (fault : ∀ cause depth ahead, P ahead (failureAt cause ⟨site.finish, depth⟩ ahead))
    (ahead : List Word) :
  ∀ f ∈ (rule site ahead).failures, P ahead f
  := by
  induction built generalizing site ahead with
  | pure a => exact List.forall_mem_nil _
  | look f => exact List.forall_mem_nil _
  | @bind α β rule next first _ ih ih' =>
    cases found : (rule site ahead).value with
    | none =>
      rw [bind_of_none found]
      apply ih site fault
    | some a =>
      rw [bind_of_some found]
      apply List.forall_mem_append.mpr ⟨ih site fault ahead, fun f member => ?_⟩
      apply later (first.suffix site ahead) (ih' a site fault _ f member)
  | take | advance =>
    cases ahead with
    | nil => exact List.forall_mem_nil _
    | cons w ahead => apply trail w ahead
  | report _ =>
    intro f member
    rw [List.mem_singleton.mp member]
    apply fault _ site.depth
  | fail _ =>
    intro f member
    rw [List.mem_singleton.mp member]
    apply fault _ site.depth
  | attempt _ ih => apply ih site fault
  | deeper _ ih => apply ih ⟨site.finish, site.depth + 1⟩ fault
  | @many α round first advances ih =>
    apply many_induct advances site (P := fun ahead reply => ∀ f ∈ reply.failures, P ahead f)
    · exact fun ahead _ => ih site fault ahead
    · exact fun ahead _ => ih site fault ahead
    · intro ahead reply _ _ rest
      apply List.forall_mem_append.mpr ⟨ih site fault ahead, fun f member => ?_⟩
      apply later (first.suffix site ahead) (rest f member)
    · intro ahead reply a _ _ rest
      apply List.forall_mem_append.mpr ⟨ih site fault ahead, fun f member => ?_⟩
      apply later (first.suffix site ahead) (rest f member)

/-- What comes after a round of a repetition. -/
theorem many_next {round : Rule (Round α)} (built : Built (Rule.many round)) (r : Round α) :
  Built (match r with
    | .stop => Pure.pure []
    | .skip => Rule.many round
    | .item a => do return a :: (← Rule.many round))
  := by
  rcases r with a | _ | _
  · exact .bind built fun _ => .pure _
  · exact built
  · exact .pure _

end Built

/-! ### Rules that use up words -/

/-- If the rule answers, it has used up a word. -/
def ConsumesAt (rule : Rule α) (site : Site) (ahead : List Word) : Prop :=
  ∀ a, (rule site ahead).value = some a → (rule site ahead).rest.length < ahead.length

namespace ConsumesAt

theorem fail {cause : Cause} (site : Site) (ahead : List Word) :
  ConsumesAt (fail cause : Rule α) site ahead
  := nofun

theorem take_cons (site : Site) (w : Word) (ahead : List Word) :
  ConsumesAt take site (w :: ahead)
  := fun _ _ => Nat.lt_succ_self _

theorem advance_cons (site : Site) (w : Word) (ahead : List Word) :
  ConsumesAt advance site (w :: ahead)
  := fun _ _ => Nat.lt_succ_self _

/-- A sequence uses up a word if its first rule does. -/
theorem bind {rule : Rule α} {next : α → Rule β} {site : Site} {ahead : List Word}
    (h : ConsumesAt rule site ahead) (built : ∀ a, Built (next a)) :
  ConsumesAt (rule >>= next) site ahead
  := by
  intro b answer
  rcases found : (rule site ahead).value with _ | a
  · rw [bind_of_none found] at answer
    cases answer
  · rw [bind_of_some found]
    have shorter := ((built a).suffix site (rule site ahead).rest).length_le
    apply Nat.lt_of_le_of_lt shorter (h a found)

/-- A sequence uses up a word if its second rule does and the first one reads nothing. -/
theorem bind_of_eq {rule : Rule α} {next : α → Rule β} {site : Site} {ahead : List Word} {a : α}
    (first : rule site ahead = ⟨some a, ahead, []⟩) (h : ConsumesAt (next a) site ahead) :
  ConsumesAt (rule >>= next) site ahead
  := by
  intro b answer
  have run : (rule >>= next) site ahead = ⟨_, _, _⟩ := bind_of_some (congrArg Reply.value first)
  rw [run, first] at answer
  rw [run, first]
  apply h b answer

theorem peek_cons {next : Option Kind → Rule α} {site : Site} {w : Word} {ahead : List Word}
    (h : ConsumesAt (next (some w.token.kind)) site (w :: ahead)) :
  ConsumesAt (peek >>= next) site (w :: ahead)
  := h

theorem look_bind {f : List Kind → β} {next : β → Rule α} {site : Site} {ahead : List Word}
    (h : ConsumesAt (next (f (ahead.map fun w => w.token.kind))) site ahead) :
  ConsumesAt (look f >>= next) site ahead
  := h

theorem deeper {rule : Rule α} {site : Site} {ahead : List Word}
    (h : ConsumesAt rule ⟨site.finish, site.depth + 1⟩ ahead) :
  ConsumesAt (deeper rule) site ahead
  := h

theorem advancesAt {round : Rule (Round α)} {site : Site} {ahead : List Word}
    (h : ConsumesAt round site ahead) :
  AdvancesAt round site ahead
  := by
  rcases found : (round site ahead).value with _ | r
  · exact .inl found
  · exact .inr (.inr (h r found))

end ConsumesAt

/-- A rule that is built from the combinators and starts by using up the next word. -/
structure Leads (rule : Rule α) : Prop where
  /-- The rule is built from the combinators. -/
  built : Built rule
  /-- If it answers, it has used up a word. -/
  consumes : ∀ site w ahead, ConsumesAt rule site (w :: ahead)

theorem Leads.advance {next : Unit → Rule α} (built : ∀ u, Built (next u)) :
  Leads (advance >>= next)
  := ⟨.bind .advance built, fun site w ahead => .bind (.advance_cons site w ahead) built⟩

theorem Leads.take {next : String → Rule α} (built : ∀ text, Built (next text)) :
  Leads (take >>= next)
  := ⟨.bind .take built, fun site w ahead => .bind (.take_cons site w ahead) built⟩

end PlanetServer.Rule
