import PlanetServer.Proofs.Rule.Appending
import PlanetServer.Proofs.Rule.Expectation
import PlanetServer.Proofs.Rule.Recovery

/-!
# One more word

Two runs of a rule are compared: one on a document, and one on the same document with one more word put
in at some place. Before the place both see the same words. What is of interest is the first failure of
the first run at the place: if the new word is of a kind that this failure names, the second run has
reported the same up to there, and has read the new word.

* `Rule.Within` and `Rule.Inside` say at which tokens failures are.
* `Rule.Takes` says that a run reads the next word and reports nothing at it. Every run leaves the next
  word and reports nothing, or reports a failure at it first, or takes it: `Built.front`.
* `Gap` is the place, and `Gap.Compared` lists how the two runs may stand to each other.
* `Gap.Compares` is about a rule, at some words before the place. It is kept by the combinators.
-/

namespace PlanetServer

namespace Rule

open Word

variable {α β : Type}

/-! ### Where failures are -/

/-- The tokens at fault are among some tokens. -/
def Within (ts : List Token) (fs : List Failure) : Prop :=
  ∀ f ∈ fs, ∀ t, f.offending = some t → t ∈ ts

/-- The tokens at fault are among some tokens, and the end of the document is not at fault. -/
def Inside (ts : List Token) (fs : List Failure) : Prop :=
  ∀ f ∈ fs, ∃ t ∈ ts, f.offending = some t

theorem Within.append {ts : List Token} {fs gs : List Failure} (h : Within ts fs) (h' : Within ts gs) :
  Within ts (fs ++ gs)
  := List.forall_mem_append.mpr ⟨h, h'⟩

theorem Within.mono {ts us : List Token} (sub : ts ⊆ us) {fs : List Failure} (h : Within ts fs) :
  Within us fs
  := fun f member t fault => sub (h f member t fault)

theorem Inside.append {ts : List Token} {fs gs : List Failure} (h : Inside ts fs) (h' : Inside ts gs) :
  Inside ts (fs ++ gs)
  := List.forall_mem_append.mpr ⟨h, h'⟩

theorem Inside.mono {ts us : List Token} (sub : ts ⊆ us) {fs : List Failure} (h : Inside ts fs) :
  Inside us fs
  := by
  intro f member
  obtain ⟨t, among, fault⟩ := h f member
  exact ⟨t, sub among, fault⟩

theorem Inside.within {ts : List Token} {fs : List Failure} (h : Inside ts fs) :
  Within ts fs
  := by
  intro f member t fault
  obtain ⟨t', among, fault'⟩ := h f member
  rw [fault] at fault'
  rwa [Option.some.inj fault']

theorem inside_unreadable (ts : List Token) :
  Inside ts (unreadable ts)
  := by
  intro f member
  obtain ⟨t, among, rfl⟩ := List.mem_map.mp member
  exact ⟨t, (List.mem_filter.mp among).1, rfl⟩

theorem inside_trail (w : Word) (ws : List Word) :
  Inside (flatten (w :: ws)) (unreadable w.trail)
  := by
  apply (inside_unreadable w.trail).mono
  rw [flatten_cons]
  apply List.Subset.trans (List.subset_append_left ..) (List.subset_cons_self ..)

theorem within_failureAt (cause : Cause) (site : Site) (ahead : List Word) :
  Within (flatten ahead) [failureAt cause site ahead]
  := by
  intro f member t fault
  rw [List.mem_singleton.mp member] at fault
  cases ahead with
  | nil => cases fault
  | cons w ahead =>
    obtain rfl := Option.some.inj fault
    apply List.mem_cons_self

theorem inside_failureAt (cause : Cause) (site : Site) (w : Word) (s later : List Word) :
  Inside (flatten (w :: s)) [failureAt cause site (w :: s ++ later)]
  := by
  intro f member
  rw [List.mem_singleton.mp member]
  exact ⟨w.token, List.mem_cons_self .., rfl⟩

theorem flatten_subset {ahead rest : List Word} (suffix : rest <:+ ahead) :
  flatten rest ⊆ flatten ahead
  := by
  obtain ⟨read, rfl⟩ := suffix
  rw [flatten_append]
  apply List.subset_append_right

/-- The failures of a rule are at the words ahead or behind them. -/
theorem Built.within {rule : Rule α} (built : Built rule) (site : Site) (ahead : List Word) :
  Within (flatten ahead) (rule site ahead).failures
  := by
  apply built.forall_failures site (P := fun ahead f => ∀ t, f.offending = some t → t ∈ flatten ahead)
  · exact fun suffix known t fault => flatten_subset suffix (known t fault)
  · exact fun w ahead => (inside_trail w ahead).within
  · intro cause depth ahead
    apply within_failureAt cause ⟨site.finish, depth⟩ ahead _ (List.mem_singleton_self _)

/-! ### The next word -/

/-- The next word is read, and nothing is reported at it. -/
def Takes (ahead : List Word) (reply : Reply α) : Prop :=
  ∃ w later, ahead = w :: later ∧ reply.rest <:+ later
    ∧ Within (w.trail ++ flatten later) reply.failures

theorem Takes.bind {rule : Rule α} {next : α → Rule β} (built : ∀ a, Built (next a)) {site : Site}
    {ahead : List Word} (h : Takes ahead (rule site ahead)) :
  Takes ahead ((rule >>= next) site ahead)
  := by
  obtain ⟨w, later, split, suffix, within⟩ := h
  refine ⟨w, later, split, ?_⟩
  cases found : (rule site ahead).value with
  | none =>
    rw [bind_of_none found]
    exact ⟨suffix, within⟩
  | some a =>
    rw [bind_of_some found]
    refine ⟨((built a).suffix site _).trans suffix, within.append ?_⟩
    apply ((built a).within site _).mono
    apply List.Subset.trans (flatten_subset suffix) (List.subset_append_right ..)

theorem Takes.advance (site : Site) (w : Word) (later : List Word) :
  Takes (w :: later) (advance site (w :: later))
  := ⟨w, later, rfl, List.suffix_refl _, (inside_unreadable w.trail).within.mono
    (List.subset_append_left ..)⟩

theorem Takes.take (site : Site) (w : Word) (later : List Word) :
  Takes (w :: later) (take site (w :: later))
  := Takes.advance site w later

/-- A run behind the next word, as a run that has read it. -/
theorem Takes.after {rule : Rule α} (built : Built rule) (site : Site) (w : Word) (later : List Word) :
  Takes (w :: later) (⟨(rule site later).value, (rule site later).rest,
    unreadable w.trail ++ (rule site later).failures⟩ : Reply α)
  := by
  refine ⟨w, later, rfl, built.suffix site later, .append ?_ ?_⟩
  · apply (inside_unreadable w.trail).within.mono (List.subset_append_left ..)
  · apply (built.within site later).mono (List.subset_append_right ..)

/-- The rule takes a word, wherever that is the next one. -/
def Uses (rule : Rule α) (w : Word) : Prop :=
  ∀ site ahead, Takes (w :: ahead) (rule site (w :: ahead))

namespace Uses

variable {w : Word}

theorem bind {rule : Rule α} {next : α → Rule β} (built : ∀ a, Built (next a)) (h : Uses rule w) :
  Uses (rule >>= next) w
  := fun site ahead => (h site ahead).bind built

theorem advance_bind {next : Unit → Rule α} (built : ∀ u, Built (next u)) :
  Uses (advance >>= next) w
  := bind built fun site ahead => .advance site w ahead

theorem take_bind {next : String → Rule α} (built : ∀ text, Built (next text)) :
  Uses (take >>= next) w
  := bind built fun site ahead => .take site w ahead

theorem peek_bind {next : Option Kind → Rule α} (h : Uses (next (some w.token.kind)) w) :
  Uses (peek >>= next) w
  := h

theorem deeper {rule : Rule α} (h : Uses rule w) :
  Uses (deeper rule) w
  := fun site => h ⟨site.finish, site.depth + 1⟩

end Uses

/-- The first failure is at the next word, or at the end of the document if there is none. -/
def Faults (ahead : List Word) (reply : Reply α) : Prop :=
  ∃ f gs, reply.failures = f :: gs ∧ f.offending = (tokens ahead).head?

/-- What a rule does about the next word: it leaves it and reports nothing, or reports a failure at it
first, or takes it. -/
def Front (rule : Rule α) (site : Site) (ahead : List Word) : Prop :=
  (∃ a, rule site ahead = ⟨some a, ahead, []⟩) ∨ Faults ahead (rule site ahead)
    ∨ Takes ahead (rule site ahead)

theorem Front.bind {rule : Rule α} {next : α → Rule β} (built : ∀ a, Built (next a)) {site : Site}
    {ahead : List Word} (h : Front rule site ahead)
    (h' : ∀ a, rule site ahead = ⟨some a, ahead, []⟩ → Front (next a) site ahead) :
  Front (rule >>= next) site ahead
  := by
  rcases h with ⟨a, run⟩ | ⟨f, gs, run, here⟩ | taken
  · have same : (rule >>= next) site ahead = next a site ahead := by
      rw [bind_of_some (congrArg Reply.value run), run]
      simp
    unfold Front
    rw [same]
    apply h' a run
  · refine .inr (.inl ?_)
    cases found : (rule site ahead).value with
    | none =>
      rw [bind_of_none found]
      exact ⟨f, gs, run, here⟩
    | some a =>
      rw [bind_of_some found, run]
      exact ⟨f, _, rfl, here⟩
  · exact .inr (.inr (taken.bind built))

theorem Built.front {rule : Rule α} (built : Built rule) (site : Site) (ahead : List Word) :
  Front rule site ahead
  := by
  induction built generalizing site ahead with
  | pure a => exact .inl ⟨a, rfl⟩
  | look f => exact .inl ⟨_, rfl⟩
  | bind _ second ih ih' => exact (ih site ahead).bind second fun a _ => ih' a site ahead
  | take =>
    cases ahead with
    | nil => exact .inl ⟨_, rfl⟩
    | cons w ahead => exact .inr (.inr (.take site w ahead))
  | advance =>
    cases ahead with
    | nil => exact .inl ⟨_, rfl⟩
    | cons w ahead => exact .inr (.inr (.advance site w ahead))
  | report _ => exact .inr (.inl ⟨_, [], rfl, failureAt_offending ..⟩)
  | fail _ => exact .inr (.inl ⟨_, [], rfl, failureAt_offending ..⟩)
  | @attempt α rule _ ih =>
    rcases ih site ahead with ⟨a, run⟩ | faults | taken
    · exact .inl ⟨some a, by simp [Rule.attempt, run]⟩
    · exact .inr (.inl faults)
    · exact .inr (.inr taken)
  | deeper _ ih => apply ih ⟨site.finish, site.depth + 1⟩ ahead
  | @many α round first advances ih =>
    have last := advances site ahead
    have more : Built (Rule.many round) := .many first advances
    unfold Front
    rw [many_eq advances]
    apply (ih site ahead).bind more.many_next
    intro r run
    rw [AdvancesAt, run] at last
    obtain rfl : r = .stop := by simpa using last
    exact .inl ⟨[], rfl⟩

/-- A rule that cannot do without the next word: it takes it, or its first failure is at it, and names no
kinds. -/
def Opens (rule : Rule α) (site : Site) (ahead : List Word) : Prop :=
  Takes ahead (rule site ahead) ∨ ∃ f gs, (rule site ahead).failures = f :: gs
    ∧ f.offending = (tokens ahead).head? ∧ ∀ expected, f.cause ≠ .mismatch expected

theorem Opens.fail {cause : Cause} (other : ∀ expected, cause ≠ .mismatch expected) (site : Site)
    (ahead : List Word) :
  Opens (fail cause : Rule α) site ahead
  := .inr ⟨_, [], rfl, failureAt_offending .., by simpa using other⟩

theorem Opens.report {cause : Cause} (other : ∀ expected, cause ≠ .mismatch expected) (site : Site)
    (ahead : List Word) :
  Opens (report cause) site ahead
  := .inr ⟨_, [], rfl, failureAt_offending .., by simpa using other⟩

theorem Opens.congr {rule rule' : Rule α} {site : Site} {ahead : List Word}
    (run : rule site ahead = rule' site ahead) (h : Opens rule' site ahead) :
  Opens rule site ahead
  := by
  rw [Opens, run]
  exact h

theorem Opens.peek_cons {next : Option Kind → Rule α} {site : Site} {w : Word} {ahead : List Word}
    (h : Opens (next (some w.token.kind)) site (w :: ahead)) :
  Opens (peek >>= next) site (w :: ahead)
  := h

theorem Opens.advance_bind {next : Unit → Rule α} (built : ∀ u, Built (next u)) (site : Site) (w : Word)
    (ahead : List Word) :
  Opens (advance >>= next) site (w :: ahead)
  := .inl (.bind built (.advance site w ahead))

theorem Opens.take_bind {next : String → Rule α} (built : ∀ text, Built (next text)) (site : Site)
    (w : Word) (ahead : List Word) :
  Opens (take >>= next) site (w :: ahead)
  := .inl (.bind built (.take site w ahead))

theorem Opens.attempt {rule : Rule α} {site : Site} {ahead : List Word} (h : Opens rule site ahead) :
  Opens (attempt rule) site ahead
  := h

theorem Opens.bind {rule : Rule α} {next : α → Rule β} (built : ∀ a, Built (next a)) {site : Site}
    {ahead : List Word} (h : Opens rule site ahead) :
  Opens (rule >>= next) site ahead
  := by
  rcases h with taken | ⟨f, gs, run, here, other⟩
  · exact .inl (taken.bind built)
  · obtain ⟨more, found⟩ := failures_prefix_bind rule next site ahead
    refine .inr ⟨f, gs ++ more, ?_, here, other⟩
    rw [← found, run, List.cons_append]

end Rule

open Rule Word

/-- A place between two words where one more word is put in, with the words after it as they were before
and as they are then. -/
structure Gap where
  /-- The word that is put in. -/
  word : Word
  /-- The words after the place. -/
  old : List Word
  /-- The words after the new word. -/
  new : List Word
  /-- Nothing hidden is put in. -/
  bare : word.trail = []
  /-- The words after the place are of the same kinds as before. -/
  kinds : new.map (fun w => w.token.kind) = old.map fun w => w.token.kind
  /-- The new word is no `else`. -/
  noElse : word.token.kind ≠ .kwElse

namespace Gap

variable (g : Gap) {α β : Type}

/-- The kind of the new word. -/
def kind : Kind :=
  g.word.token.kind

/-- The new word is read, and since then nothing is reported at it. -/
def Clear (fs : List Failure) (reply : Reply α) : Prop :=
  ∃ hs, reply.failures = fs ++ hs ∧ Within (flatten g.new) hs ∧ reply.rest <:+ g.new

/-- The first word after the place is read, and nothing is reported at it. -/
def Passed (s : List Word) (reply : Reply α) : Prop :=
  ∃ w later, g.old = w :: later ∧ reply.rest <:+ later
    ∧ Within (flatten s ++ (w.trail ++ flatten later)) reply.failures

/-- Nothing but a closing brace or the end of the document follows at the place. -/
def Final : Prop :=
  ∀ w ∈ g.old.head?, w.token.kind = .rightBrace

/-- A statement that has ended at the place, before a closing brace or the end of the document, or one
that has given up at the last word before the place. Nothing that comes next could do with the new word,
unless that is a closing brace. -/
def Stalled (value : Option α) (rest : List Word) : Prop :=
  g.kind ≠ .rightBrace ∧ ((value.isSome ∧ rest = g.old ∧ g.Final)
    ∨ (value = none ∧ ∃ w, rest = w :: g.old ∧ w.token.kind ≠ .rightBrace
      ∧ Parse.endsStatement w.token.kind = false))

/-- A round after which reading goes on at the place, before a closing brace or the end of the document,
and that is not what the new word could be put in for. -/
def Resting (value : Option (Round α)) (rest : List Word) : Prop :=
  g.kind ≠ .rightBrace ∧ (∃ r, value = some r ∧ r ≠ .stop) ∧ rest = g.old ∧ g.Final

/-- A rule that never leaves the place to what comes next. -/
def Strict (_ : Option α) (_ : List Word) : Prop :=
  False

/-- A run at the place takes the next word, or its first failure is at it, and if the new word is of a
kind that the failure names, the levels are used up. -/
def Declines (reply : Reply α) : Prop :=
  Takes g.old reply ∨ ∃ f gs, reply.failures = f :: gs ∧ f.offending = (tokens g.old).head?
    ∧ ∀ expected, f.cause = .mismatch expected → expected.contains g.kind → Parse.maxDepth ≤ f.depth

/-- How two runs of a rule stand to each other, which have the words `s` before the place. -/
inductive Compared (loose : Option α → List Word → Prop) (post : α → Prop) (s : List Word)
    (first second : Reply α) : Prop
  /-- Both have done the same before the place. If they are at the place, they have answered, and the
  condition holds. -/
  | same (value : Option α) (s' : List Word) (fs : List Failure)
      (run : first = ⟨value, s' ++ g.old, fs⟩) (run' : second = ⟨value, s' ++ g.word :: g.new, fs⟩)
      (suffix : s' <:+ s) (inside : Inside (flatten s) fs)
      (after : s' = [] → ∃ a, value = some a ∧ post a)
  /-- The first one has answered at the place, and the second one has read the new word. -/
  | parted (a : α) (fs : List Failure) (run : first = ⟨some a, g.old, fs⟩)
      (inside : Inside (flatten s) fs) (clear : g.Clear fs second)
  /-- The first one is past the place and has reported nothing there. -/
  | passed (past : g.Passed s first)
  /-- The first one has reported a failure at the place. If the new word is of a kind that the failure
  names, the second one has read it. -/
  | met (fs : List Failure) (f : Failure) (gs : List Failure) (run : first.failures = fs ++ f :: gs)
      (inside : Inside (flatten s) fs) (here : f.offending = (tokens g.old).head?)
      (clear : ∀ expected, f.cause = .mismatch expected → expected.contains g.kind →
        f.depth < Parse.maxDepth → g.Clear fs second)
  /-- The first one has left the place to what comes next. -/
  | stalled (inside : Inside (flatten s) first.failures) (stall : loose first.value first.rest)

/-- A rule on the words of a document and on those of the document with one more word, at the same depth,
where the words `s` are ahead of the place. -/
def Compares (loose : Option α → List Word → Prop) (post : α → Prop) (rule : Rule α) (depth : Nat)
    (s : List Word) : Prop :=
  ∀ finish finish', g.Compared loose post s (rule ⟨finish, depth⟩ (s ++ g.old))
    (rule ⟨finish', depth⟩ (s ++ g.word :: g.new))

variable {g} {loose : Option α → List Word → Prop} {post : α → Prop} {w : Word} {s s' : List Word}
  {fs : List Failure}

theorem not_final (h : ¬ g.Final) :
  ∃ w later, g.old = w :: later ∧ w.token.kind ≠ .rightBrace
  := by
  simp only [Final, not_forall] at h
  obtain ⟨w, first, brace⟩ := h
  obtain ⟨later, split⟩ := List.head?_eq_some_iff.mp first
  exact ⟨w, later, split, brace⟩

/-! ### Past the place -/

theorem Clear.bind {rule : Rule α} {next : α → Rule β} (built : ∀ a, Built (next a)) {site : Site}
    {ahead : List Word} (h : g.Clear fs (rule site ahead)) :
  g.Clear fs ((rule >>= next) site ahead)
  := by
  obtain ⟨hs, run, within, suffix⟩ := h
  cases found : (rule site ahead).value with
  | none =>
    rw [bind_of_none found]
    exact ⟨hs, run, within, suffix⟩
  | some a =>
    rw [bind_of_some found, run]
    refine ⟨hs ++ _, List.append_assoc .., within.append ?_, ((built a).suffix site _).trans suffix⟩
    apply ((built a).within site _).mono (flatten_subset suffix)

theorem Clear.prepend {reply : Reply α} (gs : List Failure) (h : g.Clear fs reply) :
  g.Clear (gs ++ fs) ⟨reply.value, reply.rest, gs ++ reply.failures⟩
  := by
  obtain ⟨hs, run, within, suffix⟩ := h
  exact ⟨hs, by rw [run, List.append_assoc], within, suffix⟩

/-- A run at the new word that takes it. -/
theorem clear_of_takes {reply : Reply α} (h : Takes (g.word :: g.new) reply) :
  g.Clear [] reply
  := by
  obtain ⟨w, later, split, suffix, within⟩ := h
  obtain ⟨rfl, rfl⟩ := List.cons.inj split
  rw [g.bare] at within
  exact ⟨reply.failures, rfl, within, suffix⟩

theorem Passed.bind {rule : Rule α} {next : α → Rule β} (built : ∀ a, Built (next a)) {site : Site}
    {ahead : List Word} (h : g.Passed s (rule site ahead)) :
  g.Passed s ((rule >>= next) site ahead)
  := by
  obtain ⟨w, later, split, suffix, within⟩ := h
  refine ⟨w, later, split, ?_⟩
  cases found : (rule site ahead).value with
  | none =>
    rw [bind_of_none found]
    exact ⟨suffix, within⟩
  | some a =>
    rw [bind_of_some found]
    refine ⟨((built a).suffix site _).trans suffix, within.append ?_⟩
    apply ((built a).within site _).mono
    intro t member
    simp [flatten_subset suffix member]

theorem Passed.prepend {reply : Reply α} (suffix : s' <:+ s) (inside : Inside (flatten s) fs)
    (h : g.Passed s' reply) :
  g.Passed s ⟨reply.value, reply.rest, fs ++ reply.failures⟩
  := by
  obtain ⟨w, later, split, suffix', within⟩ := h
  refine ⟨w, later, split, suffix', (inside.within.mono ?_).append (within.mono ?_)⟩
  · apply List.subset_append_left
  · intro t member
    rcases List.mem_append.mp member with member | member
    · apply List.mem_append_left _ (flatten_subset suffix member)
    · apply List.mem_append_right _ member

theorem declines_of_opens {rule : Rule α} {site : Site} (h : Opens rule site g.old) :
  g.Declines (rule site g.old)
  := by
  rcases h with taken | ⟨f, gs, run, here, other⟩
  · exact .inl taken
  · exact .inr ⟨f, gs, run, here, fun expected mismatch _ => absurd mismatch (other expected)⟩

/-- Of the kinds that are named the new word is none, unless the levels are used up. -/
theorem declines_mismatch {expected : KindSet} {site : Site}
    (apart : expected.contains g.kind → Parse.maxDepth ≤ site.depth) :
  g.Declines (fail (.mismatch expected) site g.old : Reply α)
  := by
  refine .inr ⟨_, [], rfl, failureAt_offending .., fun expected' mismatch among => ?_⟩
  rw [failureAt_cause] at mismatch
  obtain rfl := Cause.mismatch.inj mismatch
  rw [failureAt_depth]
  apply apart among

theorem declines_expect {k : Kind} {others : KindSet} {site : Site}
    (apart : (others.insert k).contains g.kind → Parse.maxDepth ≤ site.depth) :
  g.Declines (expect k others site g.old)
  := by
  by_cases next : ∃ w ∈ g.old.head?, w.token.kind = k
  · obtain ⟨w, first, found⟩ := next
    obtain ⟨later, split⟩ := List.head?_eq_some_iff.mp first
    left
    rw [split, expect_of_eq found]
    apply Takes.take
  · have run : expect k others site g.old = fail (.mismatch (others.insert k)) site g.old := by
      cases split : g.old with
      | nil => rfl
      | cons w later => exact expect_of_ne (fun found => next ⟨w, by simp [split], found⟩) others site later
    rw [run]
    apply declines_mismatch apart

theorem Declines.bind {rule : Rule α} {next : α → Rule β} (built : ∀ a, Built (next a)) {site : Site}
    (h : g.Declines (rule site g.old)) :
  g.Declines ((rule >>= next) site g.old)
  := by
  rcases h with taken | ⟨f, gs, run, here, other⟩
  · exact .inl (taken.bind built)
  · obtain ⟨more, found⟩ := failures_prefix_bind rule next site g.old
    refine .inr ⟨f, gs ++ more, ?_, here, other⟩
    rw [← found, run, List.cons_append]

/-- A run at the place that takes the next word. -/
theorem passed_of_takes {reply : Reply α} (h : Takes g.old reply) :
  g.Passed [] reply
  := h

/-! ### Combinators -/

namespace Compared

/-- Two runs that go on after the same words were read. -/
theorem prepend {first second : Reply α} (suffix : s' <:+ s) (inside : Inside (flatten s) fs)
    (h : g.Compared loose post s' first second) :
  g.Compared loose post s ⟨first.value, first.rest, fs ++ first.failures⟩
    ⟨second.value, second.rest, fs ++ second.failures⟩
  := by
  have sub := flatten_subset suffix
  cases h with
  | same value s'' gs run run' suffix' inside' after =>
    subst run run'
    exact .same value s'' (fs ++ gs) rfl rfl (suffix'.trans suffix) (inside.append (inside'.mono sub)) after
  | parted a gs run inside' clear =>
    subst run
    exact .parted a (fs ++ gs) rfl (inside.append (inside'.mono sub)) (clear.prepend fs)
  | passed past => exact .passed (past.prepend suffix inside)
  | met gs f hs run inside' here clear =>
    refine .met (fs ++ gs) f hs ?_ (inside.append (inside'.mono sub)) here ?_
    · rw [run, List.append_assoc]
    · exact fun expected mismatch among depth => (clear expected mismatch among depth).prepend fs
  | stalled inside' stall => exact .stalled (inside.append (inside'.mono sub)) stall

/-- A run that comes to the place and has no use for the new word there. -/
theorem of_declines {first second : Reply α} {reply : Reply β} (h : g.Declines reply)
    (rest : first.rest = reply.rest) (run : first.failures = fs ++ reply.failures)
    (inside : Inside (flatten s) fs) :
  g.Compared loose post s first second
  := by
  rcases h with taken | ⟨f, gs, run', here, other⟩
  · obtain ⟨w, later, split, suffix, within⟩ := passed_of_takes taken
    refine .passed ⟨w, later, split, rest ▸ suffix, ?_⟩
    rw [run]
    apply (inside.within.mono (List.subset_append_left ..)).append (within.mono ?_)
    apply List.subset_append_right
  · refine .met fs f gs (by rw [run, run']) inside here fun expected mismatch among less => ?_
    exact absurd (other expected mismatch among) (Nat.not_le_of_lt less)

/-- Two runs, if the first one has not left the place to what comes next. -/
theorem strict_or {first second : Reply α} (h : g.Compared loose post s first second) :
  g.Compared Strict post s first second ∨ Inside (flatten s) first.failures ∧ loose first.value first.rest
  := by
  cases h with
  | same value s' fs run run' suffix inside after =>
    exact .inl (.same value s' fs run run' suffix inside after)
  | parted a fs run inside clear => exact .inl (.parted a fs run inside clear)
  | passed past => exact .inl (.passed past)
  | met fs f gs run inside here clear => exact .inl (.met fs f gs run inside here clear)
  | stalled inside stall => exact .inr ⟨inside, stall⟩

/-- Two runs of which none gives up any more. -/
theorem attempt {rule : Rule α} {site site' : Site} {ahead ahead' : List Word}
    (h : g.Compared Strict post s (rule site ahead) (rule site' ahead')) :
  g.Compared Strict (fun _ => True) s (Rule.attempt rule site ahead) (Rule.attempt rule site' ahead')
  := by
  unfold Rule.attempt
  cases h with
  | same value s' fs run run' suffix inside after =>
    rw [run, run']
    exact .same (some value) s' fs rfl rfl suffix inside fun _ => ⟨value, rfl, trivial⟩
  | parted a fs run inside clear =>
    rw [run]
    exact .parted (some a) fs rfl inside clear
  | passed past => exact .passed past
  | met fs f gs run inside here clear => exact .met fs f gs run inside here clear
  | stalled _ stall => exact stall.elim

/-- One rule after the other. -/
theorem bind {rule : Rule β} {next : β → Rule α} {mid : β → Prop} {finish finish' : Mark} {depth : Nat}
    (built : ∀ b, Built (next b))
    (h : g.Compared Strict mid s (rule ⟨finish, depth⟩ (s ++ g.old))
      (rule ⟨finish', depth⟩ (s ++ g.word :: g.new)))
    (h' : ∀ b s', (rule ⟨finish, depth⟩ (s ++ g.old)).value = some b →
      (rule ⟨finish, depth⟩ (s ++ g.old)).rest = s' ++ g.old → s' <:+ s → (s' = [] → mid b) →
      g.Compares loose post (next b) depth s') :
  g.Compared loose post s ((rule >>= next) ⟨finish, depth⟩ (s ++ g.old))
    ((rule >>= next) ⟨finish', depth⟩ (s ++ g.word :: g.new))
  := by
  cases h with
  | same value s' fs run run' suffix inside after =>
    rcases value with _ | b
    · rw [bind_of_none (by rw [run]), bind_of_none (by rw [run']), run, run']
      refine .same none s' fs rfl rfl suffix inside fun here => ?_
      obtain ⟨_, ⟨⟩, -⟩ := after here
    · rw [bind_of_some (by rw [run]), bind_of_some (by rw [run']), run, run']
      have second := h' b s' (by rw [run]) (by rw [run]) suffix fun here => by
        obtain ⟨_, ⟨⟩, holds⟩ := after here
        exact holds
      apply (second finish finish').prepend suffix inside
  | parted b fs run inside clear =>
    have clear' := clear.bind built
    rcases (built b).front ⟨finish, depth⟩ g.old with ⟨a, found⟩ | ⟨f, gs, found, here⟩ | taken
    · refine .parted a fs ?_ inside clear'
      rw [bind_of_some (by rw [run]), run, found, List.append_nil]
    · refine .met fs f gs ?_ inside here fun _ _ _ _ => clear'
      rw [bind_of_some (by rw [run]), run, found]
    · rw [bind_of_some (by rw [run]), run]
      exact .passed ((passed_of_takes taken).prepend (List.nil_suffix) inside)
  | passed past => exact .passed (past.bind built)
  | met fs f gs run inside here clear =>
    obtain ⟨more, found⟩ := failures_prefix_bind rule next ⟨finish, depth⟩ (s ++ g.old)
    refine .met fs f (gs ++ more) ?_ inside here ?_
    · rw [← found, run, List.append_assoc, List.cons_append]
    · exact fun expected mismatch among depth => (clear expected mismatch among depth).bind built
  | stalled _ stall => exact stall.elim

end Compared

namespace Compares

/-- At the place, if the first run has no use for the new word. -/
theorem of_declines {rule : Rule α} {depth : Nat} (h : ∀ site, g.Declines (rule site g.old)) :
  g.Compares loose post rule depth []
  := by
  intro finish finish'
  apply Compared.of_declines (h ⟨finish, depth⟩) rfl rfl (List.forall_mem_nil _)

theorem of_opens {rule : Rule α} {depth : Nat} (h : ∀ site, Opens rule site g.old) :
  g.Compares loose post rule depth []
  := of_declines fun site => declines_of_opens (h site)

/-- At the place, if the second run takes the new word. -/
theorem of_uses {rule : Rule α} (built : Built rule) {depth : Nat}
    (h : Uses rule g.word) :
  g.Compares loose post rule depth []
  := by
  intro finish finish'
  have clear := clear_of_takes (h ⟨finish', depth⟩ g.new)
  rcases built.front ⟨finish, depth⟩ g.old with ⟨a, run⟩ | ⟨f, gs, run, here⟩ | taken
  · exact .parted a [] run nofun clear
  · exact .met [] f gs run nofun here fun _ _ _ _ => clear
  · exact .passed (passed_of_takes taken)

theorem congr {rule rule' : Rule α} {depth : Nat}
    (run : ∀ site, rule site (s ++ g.old) = rule' site (s ++ g.old))
    (run' : ∀ site, rule site (s ++ g.word :: g.new) = rule' site (s ++ g.word :: g.new))
    (h : g.Compares loose post rule' depth s) :
  g.Compares loose post rule depth s
  := by
  intro finish finish'
  rw [run, run']
  apply h finish finish'

theorem pure {a : α} {depth : Nat} (h : s = [] → post a) :
  g.Compares loose post (pure a) depth s
  := by
  intro finish finish'
  exact .same (some a) s [] rfl rfl (List.suffix_refl s) nofun fun here => ⟨a, rfl, h here⟩

/-- A rule that gives up before the place. -/
theorem fail_cons (cause : Cause) {depth : Nat} :
  g.Compares loose post (fail cause) depth (w :: s)
  := fun _ _ => .same none (w :: s) _ rfl rfl (List.suffix_refl _) (inside_failureAt cause _ w s _) nofun

theorem report_cons (cause : Cause) {depth : Nat} :
  g.Compares Strict (fun _ => True) (report cause) depth (w :: s)
  := fun _ _ =>
    .same (some ()) (w :: s) _ rfl rfl (List.suffix_refl _) (inside_failureAt cause _ w s _) nofun

/-- One rule after the other. -/
theorem bind_at {rule : Rule β} {next : β → Rule α} {mid : β → Prop} {depth : Nat}
    (built : ∀ b, Built (next b)) (h : g.Compares Strict mid rule depth s)
    (h' : ∀ b s' site, (rule site (s ++ g.old)).value = some b →
      (rule site (s ++ g.old)).rest = s' ++ g.old → s' <:+ s → (s' = [] → mid b) →
        g.Compares loose post (next b) depth s') :
  g.Compares loose post (rule >>= next) depth s
  := fun finish finish' => (h finish finish').bind built fun b s' => h' b s' ⟨finish, depth⟩

theorem bind {rule : Rule β} {next : β → Rule α} {mid : β → Prop} {depth : Nat}
    (built : ∀ b, Built (next b)) (h : g.Compares Strict mid rule depth s)
    (h' : ∀ b s', s' <:+ s → (s' = [] → mid b) → g.Compares loose post (next b) depth s') :
  g.Compares loose post (rule >>= next) depth s
  := bind_at built h fun b s' _ _ _ suffix after => h' b s' suffix after

/-- A rule whose answer is changed by a function, if the rule may leave the place to what comes next. -/
theorem map_loose {rule : Rule β} (f : β → α) {loose' : Option β → List Word → Prop} {mid : β → Prop}
    {depth : Nat} (h : g.Compares loose' mid rule depth s)
    (looser : ∀ value rest, loose' value rest → loose (value.map f) rest)
    (weaker : ∀ b, mid b → post (f b)) :
  g.Compares loose post (do return f (← rule)) depth s
  := by
  intro finish finish'
  rw [bind_pure_run, bind_pure_run]
  cases h finish finish' with
  | same value s' fs run run' suffix inside after =>
    rw [run, run']
    refine .same (value.map f) s' fs rfl rfl suffix inside fun here => ?_
    obtain ⟨b, rfl, holds⟩ := after here
    exact ⟨f b, rfl, weaker b holds⟩
  | parted b fs run inside clear =>
    rw [run]
    exact .parted (f b) fs rfl inside clear
  | passed past => exact .passed past
  | met fs f' gs run inside here clear => exact .met fs f' gs run inside here clear
  | stalled inside stall => exact .stalled inside (looser _ _ stall)

/-- A rule whose answer is changed by a function. -/
theorem map {rule : Rule β} (f : β → α) {mid : β → Prop} {depth : Nat}
    (h : g.Compares Strict mid rule depth s) (weaker : ∀ b, mid b → post (f b)) :
  g.Compares loose post (do return f (← rule)) depth s
  := map_loose f h (fun _ _ stall => stall.elim) weaker

/-- A statement whose answer is changed by a function. -/
theorem map_stalled {rule : Rule β} (f : β → α) {depth : Nat}
    (h : g.Compares g.Stalled (fun _ => True) rule depth s) :
  g.Compares g.Stalled (fun _ => True) (do return f (← rule)) depth s
  := by
  apply map_loose f h _ fun _ _ => trivial
  rintro value rest ⟨other, ⟨answer, stall⟩ | ⟨none', stall⟩⟩
  · exact ⟨other, .inl ⟨by simpa using answer, stall⟩⟩
  · exact ⟨other, .inr ⟨by simpa using none', stall⟩⟩

theorem advance {depth : Nat} :
  g.Compares Strict (fun _ => True) advance depth s
  := by
  cases s with
  | nil => exact of_uses Built.advance fun site ahead => .advance site g.word ahead
  | cons w s =>
    intro finish finish'
    exact .same (some ()) s _ rfl rfl (List.suffix_cons w s) (inside_trail w s) fun _ => ⟨(), rfl, trivial⟩

theorem advance_bind {next : Unit → Rule α} {depth : Nat} (h : g.Compares loose post (next ()) depth s) :
  g.Compares loose post (Rule.advance >>= next) depth (w :: s)
  := by
  intro finish finish'
  apply (h finish finish').prepend (List.suffix_cons w s) (inside_trail w s)

theorem take_bind {next : String → Rule α} {depth : Nat}
    (h : g.Compares loose post (next w.token.text) depth s) :
  g.Compares loose post (take >>= next) depth (w :: s)
  := by
  intro finish finish'
  apply (h finish finish').prepend (List.suffix_cons w s) (inside_trail w s)

theorem peek_cons {next : Option Kind → Rule α} {depth : Nat}
    (h : g.Compares loose post (next (some w.token.kind)) depth (w :: s)) :
  g.Compares loose post (peek >>= next) depth (w :: s)
  := h

theorem deeper {rule : Rule α} {depth : Nat} (h : g.Compares loose post rule (depth + 1) s) :
  g.Compares loose post (deeper rule) depth s
  := h

section

variable {rule : Rule α} (rule' : Rule α) (accepts : Kind → Prop) {depth : Nat}
  (leaves : ∀ site ahead, (∀ w ∈ ahead.head?, ¬ accepts w.token.kind) → rule site ahead = rule' site ahead)

include leaves

/-- A choice by the kind of the next word, where words of some kinds are left to another rule. -/
theorem choice_cons (yes : accepts w.token.kind → g.Compares loose post rule depth (w :: s))
    (no : ¬ accepts w.token.kind → g.Compares loose post rule' depth (w :: s)) :
  g.Compares loose post rule depth (w :: s)
  := by
  by_cases here : accepts w.token.kind
  · apply yes here
  · have other : ∀ v ∈ some w, ¬ accepts v.token.kind := by
      rintro _ ⟨⟩
      exact here
    refine congr ?_ ?_ (no here)
    · exact fun site => leaves site _ other
    · exact fun site => leaves site _ other

/-- A choice by the kind of the next word, at the place. -/
theorem choice_nil
    (next : ∀ w later, g.old = w :: later → accepts w.token.kind → ∀ site, g.Declines (rule site g.old))
    (yes : accepts g.kind → (∀ w ∈ g.old.head?, ¬ accepts w.token.kind) →
      g.Compares loose post rule depth [])
    (no : ¬ accepts g.kind → g.Compares loose post rule' depth []) :
  g.Compares loose post rule depth []
  := by
  by_cases first : ∃ w ∈ g.old.head?, accepts w.token.kind
  · obtain ⟨w, first, accepted⟩ := first
    obtain ⟨later, split⟩ := List.head?_eq_some_iff.mp first
    apply of_declines (next w later split accepted)
  have other : ∀ w ∈ g.old.head?, ¬ accepts w.token.kind := fun w found here => first ⟨w, found, here⟩
  by_cases here : accepts g.kind
  · apply yes here other
  · have other' : ∀ w ∈ (g.word :: g.new).head?, ¬ accepts w.token.kind := by
      rintro _ ⟨⟩
      exact here
    refine congr ?_ ?_ (no here)
    · exact fun site => leaves site _ other
    · exact fun site => leaves site _ other'

/-- A choice by the kind of the next word, where words of some kinds are read and all others are left to
another rule. -/
theorem choice (built : Built rule) (uses : ∀ w, accepts w.token.kind → Uses rule w)
    (yes : ∀ w s', s = w :: s' → accepts w.token.kind → g.Compares loose post rule depth (w :: s'))
    (no : (s = [] → ¬ accepts g.kind) → g.Compares loose post rule' depth s) :
  g.Compares loose post rule depth s
  := by
  cases s with
  | cons w s => exact choice_cons rule' accepts leaves (yes w s rfl) fun _ => no nofun
  | nil =>
    apply choice_nil rule' accepts leaves
    · intro w later split accepted site
      left
      rw [split]
      apply uses w accepted
    · exact fun here _ => of_uses built (uses g.word here)
    · exact fun here => no fun _ => here

end

/-- A choice by the next word. If it is of the kind, it is read. -/
theorem sees_ite {k : Kind} {rule rule' : Rule α} {depth : Nat}
    (uses : ∀ w, w.token.kind = k → Uses rule w) (built : Built rule) (built' : Built rule')
    (yes : ∀ w s', s = w :: s' → w.token.kind = k → g.Compares loose post rule depth (w :: s'))
    (no : (s = [] → g.kind ≠ k) → g.Compares loose post rule' depth s) :
  g.Compares loose post (do if ← sees k then rule else rule') depth s
  := by
  have found : ∀ {site w ahead}, w.token.kind = k →
      (do if ← sees k then rule else rule') site (w :: ahead) = rule site (w :: ahead) := by
    intro site w ahead found
    rw [sees_bind_cons, if_pos (decide_eq_true found)]
  have leaves : ∀ site ahead, (∀ w ∈ ahead.head?, ¬ w.token.kind = k) →
      (do if ← sees k then rule else rule') site ahead = rule' site ahead := by
    rintro site (_ | ⟨w, ahead⟩) other
    · rfl
    · rw [sees_bind_cons, if_neg (by simpa using other w rfl)]
  apply choice rule' (· = k) leaves (.bind (.sees k) fun _ => .ite built built')
  · intro w here site ahead
    rw [found here]
    apply uses w here site ahead
  · intro w s' split here
    apply congr (fun _ => found here) (fun _ => found here) (yes w s' split here)
  · exact no

/-- A required word. At the place the new word is of none of the other kinds that are named. -/
theorem expect {k : Kind} {others : KindSet} {depth : Nat}
    (apart : s = [] → others.contains g.kind = false) :
  g.Compares Strict (fun _ => True) (expect k others) depth s
  := by
  apply sees_ite (fun w _ site ahead => .take site w ahead) .take (.fail (by simp))
  · rintro w s' rfl -
    intro finish finish'
    exact .same (some w.token.text) s' _ rfl rfl (List.suffix_cons w s') (inside_trail w s')
      fun _ => ⟨_, rfl, trivial⟩
  · intro other
    cases s with
    | cons w s => apply fail_cons
    | nil =>
      intro finish finish'
      refine .met [] _ [] rfl nofun (failureAt_offending ..) ?_
      intro expected mismatch among
      rw [failureAt_cause] at mismatch
      obtain rfl := Cause.mismatch.inj mismatch
      rw [KindSet.contains_insert, apart rfl] at among
      exact absurd (by simpa using among) (other rfl)

theorem expect_bind {k : Kind} {others : KindSet} {next : String → Rule α} {depth : Nat}
    (built : ∀ text, Built (next text)) (apart : s = [] → others.contains g.kind = false)
    (h : ∀ text s', s' <:+ s → g.Compares loose post (next text) depth s') :
  g.Compares loose post (Rule.expect k others >>= next) depth s
  := bind built (expect apart) fun text s' suffix _ => h text s' suffix

/-- A repetition. The condition `Q` holds before every round that starts at the place, and `R` holds after
the last one if it ends there. The induction is on the words before the place. -/
theorem many {round : Rule (Round α)} (advances : Advances round) (built : Built round) {Q R : Prop}
    {depth : Nat}
    (h : ∀ s, (s = [] → Q) → g.Compares Strict (fun r => match r with
      | .stop => R
      | _ => Q) round depth s)
    (start : s = [] → Q) :
  g.Compares Strict (fun _ => R) (many round) depth s
  := by
  have more : Built (Rule.many round) := .many built advances
  induction length : s.length using Nat.strongRecOn generalizing s with
  | _ length' ih =>
    subst length
    rw [many_eq advances]
    apply bind_at more.many_next (h s start)
    intro r s' site found rest _ after
    have shorter := advances site (s ++ g.old)
    unfold AdvancesAt at shorter
    rw [found, rest] at shorter
    rcases r with a | _ | _
    · have tail := ih s'.length (by simpa using shorter) after rfl
      exact map _ tail fun _ holds => holds
    · apply ih s'.length (by simpa using shorter) after rfl
    · exact pure after

/-- A repetition of statements. It has to be known what the repetition does where it goes on at the
place. -/
theorem many_resting {round : Rule (Round α)} (advances : Advances round) (built : Built round)
    {finished : Prop} {depth : Nat} (h : ∀ w s, g.Compares g.Resting (fun _ => True) round depth (w :: s))
    (last : g.Compares (fun _ _ => finished) (fun _ => True) (Rule.many round) depth [])
    (resume : g.kind ≠ .rightBrace → g.Final → ∀ site, g.Declines (Rule.many round site g.old)
      ∨ finished ∧ (Rule.many round site g.old).failures = [])
    (s : List Word) :
  g.Compares (fun _ _ => finished) (fun _ => True) (Rule.many round) depth s
  := by
  have more : Built (Rule.many round) := .many built advances
  induction length : s.length using Nat.strongRecOn generalizing s with
  | _ length' ih =>
    subst length
    rcases s with _ | ⟨w, s⟩
    · exact last
    intro finish finish'
    rcases (h w s finish finish').strict_or with strict | ⟨inside, other, ⟨r, answer, next⟩, rest, final⟩
    · rw [many_eq advances]
      apply strict.bind more.many_next
      intro r s' found rest _ _
      have shorter := advances ⟨finish, depth⟩ (w :: s ++ g.old)
      unfold AdvancesAt at shorter
      rw [found, rest] at shorter
      have fewer : r ≠ .stop → s'.length < (w :: s).length := by
        intro next
        rcases shorter with none' | last | shorter
        · cases none'
        · exact absurd (Option.some.inj last) next
        · rw [List.length_append, List.length_append] at shorter
          apply Nat.lt_of_add_lt_add_right shorter
      rcases r with a | _ | _
      · have tail := ih s'.length (fewer nofun) s' rfl
        exact map_loose _ tail (fun _ _ finished => finished) fun _ _ => trivial
      · apply ih s'.length (fewer nofun) s' rfl
      · exact pure fun _ => trivial
    · generalize found : round ⟨finish, depth⟩ (w :: s ++ g.old) = reply at inside answer rest
      obtain ⟨value, later, fs⟩ := reply
      subst answer rest
      rw [many_of_next advances found next]
      rcases resume other final ⟨finish, depth⟩ with declines | ⟨finished, silent⟩
      · exact Compared.of_declines declines rfl rfl inside
      · refine .stalled ?_ finished
        rw [silent, List.append_nil]
        exact inside

/-- Items after dividers. The condition after an item holds at the end too, and the new word is no
divider. -/
theorem following {item : Rule α} (built : Built item) {divider : Kind} {Q : Prop} {depth : Nat}
    (h : ∀ s, g.Compares Strict (fun _ => Q) item depth s) (start : s = [] → Q) :
  g.Compares Strict (fun _ => Q ∧ g.kind ≠ divider) (following divider item) depth s
  := by
  have reads : Built (do
      Rule.advance
      return Round.item (← item)) := .bind .advance fun _ => .bind built fun _ => .pure _
  apply many (Parse.following_advances built divider) (.bind (.sees _) fun _ => .ite reads (.pure _)) _ start
  intro s start
  apply sees_ite _ reads (.pure _)
  · rintro w s' - -
    apply advance_bind
    exact map _ (h s') fun _ holds => holds
  · exact fun other => pure fun here => ⟨start here, other here⟩
  · exact fun w _ => .advance_bind fun _ => .bind built fun _ => .pure _

end Compares

end Gap

end PlanetServer
