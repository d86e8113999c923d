import PlanetServer.Proofs.Rule.Parser

/-!
# Outcomes of runs

A run of a rule reads without a failure of its own, or it breaks at some words with a first failure.
Unreadable tokens do not count: they are reported wherever they stand.

* `Rule.Reads` and `Rule.Breaks` are the two outcomes. What a rule does after its first failure plays
  no part in either of them.
* `Rule.Outcome` gives a condition for each of the two. It is proved by following a rule step by step
  (`Outcome.bind`), and round by round (`Outcome.many`).
-/

namespace PlanetServer.Rule

variable {α β : Type}

/-- A run that answers, leaves the rest, and reports nothing but unreadable tokens. -/
def Reads (rule : Rule α) (site : Site) (ahead : List Word) (a : α) (rest : List Word) : Prop :=
  ∃ failures, rule site ahead = ⟨some a, rest, failures⟩ ∧ ∀ f ∈ failures, f.cause = .unreadable

/-- A run whose first failure, unreadable tokens aside, is met with the words `stop` ahead. -/
def Breaks (rule : Rule α) (site : Site) (ahead : List Word) (cause : Cause) (stop : List Word) :
    Prop :=
  cause ≠ .unreadable ∧ ∃ before depth more,
    (rule site ahead).failures = before ++ failureAt cause ⟨site.finish, depth⟩ stop :: more
      ∧ ∀ f ∈ before, f.cause = .unreadable

/-! ### Reading -/

namespace Reads

theorem pure (a : α) (site : Site) (ahead : List Word) :
  Reads (pure a) site ahead a ahead
  := ⟨[], rfl, by simp⟩

theorem bind {rule : Rule α} {next : α → Rule β} {site : Site} {ahead rest rest' : List Word}
    {a : α} {b : β} (h : Reads rule site ahead a rest) (h' : Reads (next a) site rest b rest') :
  Reads (rule >>= next) site ahead b rest'
  := by
  obtain ⟨failures, run, clean⟩ := h
  obtain ⟨failures', run', clean'⟩ := h'
  use failures ++ failures'
  constructor
  · rw [bind_of_some (congrArg Reply.value run), run, run']
  · intro f member
    rcases List.mem_append.mp member with member | member
    · apply clean f member
    · apply clean' f member

/-- A rule whose answer is changed by a function. -/
theorem map {rule : Rule α} {site : Site} {ahead rest : List Word} {a : α} (f : α → β)
    (h : Reads rule site ahead a rest) :
  Reads (do return f (← rule)) site ahead (f a) rest
  := bind h (pure (f a) site rest)

theorem peek (site : Site) (w : Word) (ahead : List Word) :
  Reads peek site (w :: ahead) (some w.token.kind) (w :: ahead)
  := ⟨[], rfl, by simp⟩

theorem advance_cons (site : Site) (w : Word) (ahead : List Word) :
  Reads advance site (w :: ahead) () ahead
  := ⟨_, rfl, fun _ => cause_of_mem_unreadable⟩

theorem take_cons (site : Site) (w : Word) (ahead : List Word) :
  Reads take site (w :: ahead) w.token.text ahead
  := ⟨_, rfl, fun _ => cause_of_mem_unreadable⟩

theorem look (f : List Kind → α) (site : Site) (ahead : List Word) :
  Reads (look f) site ahead (f (ahead.map fun w => w.token.kind)) ahead
  := ⟨[], rfl, by simp⟩

theorem congr {rule rule' : Rule α} {site : Site} {ahead rest : List Word} {a : α}
    (eq : rule site ahead = rule' site ahead) (h : Reads rule' site ahead a rest) :
  Reads rule site ahead a rest
  := by
  unfold Reads at h ⊢
  rwa [eq]

theorem advance_bind {next : Unit → Rule α} {site : Site} {w : Word} {ahead rest : List Word} {a : α}
    (h : Reads (next ()) site ahead a rest) :
  Reads (advance >>= next) site (w :: ahead) a rest
  := bind (advance_cons site w ahead) h

theorem take_bind {next : String → Rule α} {site : Site} {w : Word} {ahead rest : List Word} {a : α}
    (h : Reads (next w.token.text) site ahead a rest) :
  Reads (take >>= next) site (w :: ahead) a rest
  := bind (take_cons site w ahead) h

theorem peek_nil {next : Option Kind → Rule α} {site : Site} {rest : List Word} {a : α}
    (h : Reads (next none) site [] a rest) :
  Reads (Rule.peek >>= next) site [] a rest
  := h

theorem peek_cons {next : Option Kind → Rule α} {site : Site} {w : Word} {ahead rest : List Word}
    {a : α} (h : Reads (next (some w.token.kind)) site (w :: ahead) a rest) :
  Reads (Rule.peek >>= next) site (w :: ahead) a rest
  := h

theorem lookahead_bind {n : Nat} {next : Option Kind → Rule α} {site : Site}
    {ahead rest : List Word} {a : α}
    (h : Reads (next (ahead[n]?.map fun w => w.token.kind)) site ahead a rest) :
  Reads (lookahead n >>= next) site ahead a rest
  := h

/-- A choice by the next word, which is there. -/
theorem sees_pos {k : Kind} {rule rule' : Rule α} {site : Site} {w : Word} {ahead rest : List Word}
    {a : α} (found : w.token.kind = k) (h : Reads rule site (w :: ahead) a rest) :
  Reads (do if ← sees k then rule else rule') site (w :: ahead) a rest
  := by
  change Reads (if decide (w.token.kind = k) = true then rule else rule') site (w :: ahead) a rest
  rw [if_pos (decide_eq_true found)]
  apply h

/-- A choice by the next word, which is not there. -/
theorem sees_neg {k : Kind} {rule rule' : Rule α} {site : Site} {ahead rest : List Word} {a : α}
    (other : ∀ w ∈ ahead.head?, w.token.kind ≠ k) (h : Reads rule' site ahead a rest) :
  Reads (do if ← sees k then rule else rule') site ahead a rest
  := by
  rcases ahead with _ | ⟨w, ahead⟩
  · apply h
  · change Reads (if decide (w.token.kind = k) = true then rule else rule') site (w :: ahead) a rest
    rw [if_neg (by simpa using other w rfl)]
    apply h

theorem expect {k : Kind} {others : KindSet} {site : Site} {w : Word} {ahead : List Word}
    (found : w.token.kind = k) :
  Reads (expect k others) site (w :: ahead) w.token.text ahead
  := sees_pos found (take_cons site w ahead)

theorem deeper {rule : Rule α} {site : Site} {ahead rest : List Word} {a : α}
    (h : Reads rule ⟨site.finish, site.depth + 1⟩ ahead a rest) :
  Reads (deeper rule) site ahead a rest
  := h

theorem attempt {rule : Rule α} {site : Site} {ahead rest : List Word} {a : α}
    (h : Reads rule site ahead a rest) :
  Reads (attempt rule) site ahead (some a) rest
  := by
  obtain ⟨failures, run, clean⟩ := h
  use failures
  constructor
  · rw [Rule.attempt, run]
  · apply clean

theorem many_stop {round : Rule (Round α)} (advances : Advances round) {site : Site}
    {ahead rest : List Word} (h : Reads round site ahead .stop rest) :
  Reads (many round) site ahead [] rest
  := by
  rw [many_eq advances]
  apply bind h (pure [] site rest)

theorem many_skip {round : Rule (Round α)} (advances : Advances round) {site : Site}
    {ahead rest rest' : List Word} {as : List α} (h : Reads round site ahead .skip rest)
    (h' : Reads (many round) site rest as rest') :
  Reads (many round) site ahead as rest'
  := by
  rw [many_eq advances]
  apply bind h h'

theorem many_item {round : Rule (Round α)} (advances : Advances round) {site : Site}
    {ahead rest rest' : List Word} {a : α} {as : List α}
    (h : Reads round site ahead (.item a) rest) (h' : Reads (many round) site rest as rest') :
  Reads (many round) site ahead (a :: as) rest'
  := by
  rw [many_eq advances]
  apply bind h (bind h' (pure (a :: as) site rest'))

/-- What a run reports if it reads: all unreadable tokens behind the words that were read. -/
theorem run_eq {rule : Rule α} (built : Built rule) {site : Site} {ahead read rest : List Word}
    {a : α} (h : Reads rule site ahead a rest) (split : ahead = read ++ rest) :
  rule site ahead = ⟨some a, rest, lexical read⟩
  := by
  obtain ⟨failures, run, clean⟩ := h
  obtain ⟨read', split', reported⟩ := built.lexical site ahead
  have all : failures.filter (fun f => f.cause = .unreadable) = failures := by
    apply List.filter_eq_self.mpr
    simpa using clean
  rw [run] at split' reported
  obtain rfl : read = read' := List.append_cancel_right (split.symm.trans split')
  rw [run, ← reported, all]

end Reads

theorem blockRound_line (statement : Rule Stmt) (site : Site) (w : Word) (ahead : List Word)
    (found : w.token.kind = .newline) :
  Reads (Parse.blockRound statement) site (w :: ahead) .skip ahead
  := by
  apply Reads.peek_cons
  simp only [found]
  exact .advance_bind (.pure _ _ _)

theorem programRound_line (statement : Rule Stmt) (site : Site) (w : Word) (ahead : List Word)
    (found : w.token.kind = .newline) :
  Reads (Parse.programRound statement) site (w :: ahead) .skip ahead
  := by
  apply Reads.peek_cons
  simp only [found]
  exact .advance_bind (.pure _ _ _)

/-- The line ends before an `else`. -/
theorem skipNewlines_reads {site : Site} {lines rest : List Word}
    (blank : ∀ w ∈ lines, w.token.kind = .newline)
    (other : ∀ w ∈ rest.head?, w.token.kind ≠ .newline) :
  Reads (many Parse.skipNewline) site (lines ++ rest) [] rest
  := by
  induction lines with
  | nil => exact .many_stop Parse.skipNewline_advances (.sees_neg other (.pure _ _ _))
  | cons w lines ih =>
    have found := blank w (by simp)
    apply Reads.many_skip Parse.skipNewline_advances
    · exact .sees_pos found (.advance_bind (.pure _ _ _))
    · apply ih
      exact fun v member => blank v (by simp [member])

/-- Whether an `else` stands ahead, after any number of line ends. -/
def hasElse (ahead : List Word) : Bool :=
  (ahead.dropWhile fun w => w.token.kind = .newline).head?.any fun w => w.token.kind = .kwElse

theorem hasElse_iff (ahead : List Word) :
  hasElse ahead = true ↔ ∃ lines e rest, ahead = lines ++ e :: rest
    ∧ (∀ w ∈ lines, w.token.kind = .newline) ∧ e.token.kind = .kwElse
  := by
  constructor
  · intro h
    rcases split : ahead.dropWhile fun w => w.token.kind = .newline with _ | ⟨e, rest⟩
    · simp [hasElse, split] at h
    · use ahead.takeWhile fun w => w.token.kind = .newline, e, rest
      refine ⟨?_, ?_, ?_⟩
      · rw [← split, List.takeWhile_append_dropWhile]
      · intro w member
        simpa using List.all_eq_true.mp List.all_takeWhile w member
      · simpa [hasElse, split] using h
  · rintro ⟨lines, e, rest, rfl, blank, found⟩
    rw [hasElse, List.dropWhile_append_of_pos (by simpa using blank)]
    simp [found]

theorem hasElse_newline {w : Word} (found : w.token.kind = .newline) (ahead : List Word) :
  hasElse (w :: ahead) = hasElse ahead
  := by
  simp [hasElse, found]

theorem hasElse_lines {lines : List Word} (blank : ∀ w ∈ lines, w.token.kind = .newline)
    (ahead : List Word) :
  hasElse (lines ++ ahead) = hasElse ahead
  := by
  induction lines with
  | nil => rfl
  | cons w lines ih =>
    rw [List.cons_append, hasElse_newline (blank w (by simp))]
    apply ih fun v member => blank v (by simp [member])

theorem hasElse_other {w : Word} (other : w.token.kind ≠ .newline) (ahead : List Word) :
  hasElse (w :: ahead) = decide (w.token.kind = .kwElse)
  := by
  simp [hasElse, other]

/-- Words that do not all end lines decide whether there is an `else` ahead. -/
theorem hasElse_append {u : List Word} (h : ∃ w ∈ u, w.token.kind ≠ .newline) (v : List Word) :
  hasElse (u ++ v) = hasElse u
  := by
  induction u with
  | nil => simp at h
  | cons w u ih =>
    by_cases found : w.token.kind = .newline
    · have more : ∃ w ∈ u, w.token.kind ≠ .newline := by simpa [found] using h
      rw [List.cons_append, hasElse_newline found, hasElse_newline found, ih more]
    · rw [List.cons_append, hasElse_other found, hasElse_other found]

theorem elseAhead_run_true {ahead : List Word} (found : hasElse ahead = true)
    {rule rule' : Rule α} {site : Site} :
  (do if ← Parse.elseAhead then rule else rule') site ahead = rule site ahead
  := by
  change (if hasElse ahead = true then rule else rule') site ahead = _
  rw [if_pos found]

theorem elseAhead_run_false {ahead : List Word} (other : hasElse ahead = false)
    {rule rule' : Rule α} {site : Site} :
  (do if ← Parse.elseAhead then rule else rule') site ahead = rule' site ahead
  := by
  change (if hasElse ahead = true then rule else rule') site ahead = _
  rw [if_neg (by simp [other])]

/-- A choice by the next word that does not end a line, which is an `else`: the line ends before it
and the word itself are read. -/
theorem Reads.elseAhead_pos {next : Rule α} {rule' : Rule α} {site : Site}
    {lines ahead rest : List Word} {e : Word} {a : α}
    (blank : ∀ w ∈ lines, w.token.kind = .newline) (found : e.token.kind = .kwElse)
    (h : Reads next site ahead a rest) :
  Reads (do
    if ← Parse.elseAhead then
      let _ ← many Parse.skipNewline
      advance
      next
    else
      rule') site (lines ++ e :: ahead) a rest
  := by
  have ahead' := (hasElse_iff (lines ++ e :: ahead)).mpr ⟨lines, e, ahead, rfl, blank, found⟩
  apply Reads.congr (elseAhead_run_true ahead')
  exact .bind (skipNewlines_reads blank (by simp [found])) (.advance_bind h)

/-- A choice by the next word that does not end a line, which is not an `else`. -/
theorem Reads.elseAhead_neg {rule rule' : Rule α} {site : Site} {ahead rest : List Word} {a : α}
    (other : hasElse ahead = false) (h : Reads rule' site ahead a rest) :
  Reads (do if ← Parse.elseAhead then rule else rule') site ahead a rest
  := .congr (elseAhead_run_false other) h

/-! ### Breaking -/

namespace Breaks

theorem fail {cause : Cause} (real : cause ≠ .unreadable) (site : Site) (ahead : List Word) :
  Breaks (fail cause : Rule α) site ahead cause ahead
  := ⟨real, [], site.depth, [], rfl, by simp⟩

theorem report {cause : Cause} (real : cause ≠ .unreadable) (site : Site) (ahead : List Word) :
  Breaks (report cause) site ahead cause ahead
  := ⟨real, [], site.depth, [], rfl, by simp⟩

/-- A sequence breaks where its first rule does. -/
theorem bind {rule : Rule α} {next : α → Rule β} {site : Site} {ahead stop : List Word}
    {cause : Cause} (h : Breaks rule site ahead cause stop) :
  Breaks (rule >>= next) site ahead cause stop
  := by
  obtain ⟨real, before, depth, more, run, clean⟩ := h
  use real, before, depth
  rcases found : (rule site ahead).value with _ | a
  · use more
    rw [bind_of_none found]
    use run, clean
  · use more ++ (next a site (rule site ahead).rest).failures
    rw [bind_of_some found, run]
    constructor
    · simp
    · apply clean

/-- A sequence whose first rule reads breaks where its second rule does. -/
theorem bind_of_reads {rule : Rule α} {next : α → Rule β} {site : Site}
    {ahead rest stop : List Word} {a : α} {cause : Cause} (h : Reads rule site ahead a rest)
    (h' : Breaks (next a) site rest cause stop) :
  Breaks (rule >>= next) site ahead cause stop
  := by
  obtain ⟨failures, run, clean⟩ := h
  obtain ⟨real, before, depth, more, run', clean'⟩ := h'
  use real, failures ++ before, depth, more
  constructor
  · rw [bind_of_some (congrArg Reply.value run), run, run', List.append_assoc]
  · intro f member
    rcases List.mem_append.mp member with member | member
    · apply clean f member
    · apply clean' f member

theorem deeper {rule : Rule α} {site : Site} {ahead stop : List Word} {cause : Cause}
    (h : Breaks rule ⟨site.finish, site.depth + 1⟩ ahead cause stop) :
  Breaks (deeper rule) site ahead cause stop
  := h

theorem attempt {rule : Rule α} {site : Site} {ahead stop : List Word} {cause : Cause}
    (h : Breaks rule site ahead cause stop) :
  Breaks (attempt rule) site ahead cause stop
  := h

end Breaks

/-! ### Either of the two -/

/-- The run reads and `P` holds of what it answers and leaves, or it breaks and `Q` holds of its
first failure. -/
def Outcome (rule : Rule α) (site : Site) (ahead : List Word) (P : α → List Word → Prop)
    (Q : Cause → List Word → Prop) : Prop :=
  (∃ a rest, Reads rule site ahead a rest ∧ P a rest)
    ∨ ∃ cause stop, Breaks rule site ahead cause stop ∧ Q cause stop

namespace Outcome

variable {P : α → List Word → Prop} {Q : Cause → List Word → Prop} {site : Site} {w : Word}
  {ahead : List Word}

theorem reads {rule : Rule α} {a : α} {rest : List Word} (h : Reads rule site ahead a rest)
    (p : P a rest) :
  Outcome rule site ahead P Q
  := .inl ⟨a, rest, h, p⟩

theorem pure {a : α} (p : P a ahead) :
  Outcome (pure a) site ahead P Q
  := reads (.pure a site ahead) p

theorem fail {cause : Cause} (real : cause ≠ .unreadable) (q : Q cause ahead) :
  Outcome (fail cause) site ahead P Q
  := .inr ⟨cause, ahead, .fail real site ahead, q⟩

theorem bind {rule : Rule β} {next : β → Rule α} {J : β → List Word → Prop}
    (h : Outcome rule site ahead J Q)
    (h' : ∀ b rest, J b rest → Outcome (next b) site rest P Q) :
  Outcome (rule >>= next) site ahead P Q
  := by
  rcases h with ⟨b, rest, read, p⟩ | ⟨cause, stop, broke, q⟩
  · rcases h' b rest p with ⟨a, rest', read', p'⟩ | ⟨cause, stop, broke, q⟩
    · exact .inl ⟨a, rest', .bind read read', p'⟩
    · exact .inr ⟨cause, stop, .bind_of_reads read broke, q⟩
  · exact .inr ⟨cause, stop, .bind broke, q⟩

theorem mono {rule : Rule α} {P' : α → List Word → Prop} {Q' : Cause → List Word → Prop}
    (h : Outcome rule site ahead P' Q') (p : ∀ a rest, P' a rest → P a rest)
    (q : ∀ cause stop, Q' cause stop → Q cause stop) :
  Outcome rule site ahead P Q
  := by
  rcases h with ⟨a, rest, read, p'⟩ | ⟨cause, stop, broke, q'⟩
  · exact .inl ⟨a, rest, read, p a rest p'⟩
  · exact .inr ⟨cause, stop, broke, q cause stop q'⟩

theorem congr {rule rule' : Rule α} (eq : rule site ahead = rule' site ahead)
    (h : Outcome rule' site ahead P Q) :
  Outcome rule site ahead P Q
  := by
  unfold Outcome Reads Breaks at h ⊢
  rw [eq]
  apply h

theorem peek_nil {next : Option Kind → Rule α} (h : Outcome (next none) site [] P Q) :
  Outcome (peek >>= next) site [] P Q
  := h

theorem peek_cons {next : Option Kind → Rule α}
    (h : Outcome (next (some w.token.kind)) site (w :: ahead) P Q) :
  Outcome (peek >>= next) site (w :: ahead) P Q
  := h

theorem sees_cons {k : Kind} {next : Bool → Rule α}
    (h : Outcome (next (decide (w.token.kind = k))) site (w :: ahead) P Q) :
  Outcome (sees k >>= next) site (w :: ahead) P Q
  := h

theorem advance_bind {next : Unit → Rule α} (h : Outcome (next ()) site ahead P Q) :
  Outcome (advance >>= next) site (w :: ahead) P Q
  := bind (J := fun _ rest => rest = ahead) (reads (.advance_cons site w ahead) rfl)
    fun _ _ left => left ▸ h

theorem take_bind {next : String → Rule α} (h : Outcome (next w.token.text) site ahead P Q) :
  Outcome (take >>= next) site (w :: ahead) P Q
  := bind (J := fun text rest => text = w.token.text ∧ rest = ahead)
    (reads (.take_cons site w ahead) ⟨rfl, rfl⟩) fun _ _ ⟨text, left⟩ => text ▸ left ▸ h

theorem deeper {rule : Rule α} (h : Outcome rule ⟨site.finish, site.depth + 1⟩ ahead P Q) :
  Outcome (deeper rule) site ahead P Q
  := h

/-- A repetition, followed with an invariant `I` that holds of the items found so far and the words
ahead before each round. -/
theorem many {round : Rule (Round α)} (advances : Advances round)
    {I P : List α → List Word → Prop}
    (step : ∀ as ahead, I as ahead → Outcome round site ahead
      (fun r rest => match r with
        | .stop => P as rest
        | .skip => I as rest
        | .item a => I (as ++ [a]) rest) Q)
    (as : List α) (start : I as ahead) :
  Outcome (many round) site ahead (fun bs rest => P (as ++ bs) rest) Q
  := by
  induction length : ahead.length using Nat.strongRecOn generalizing as ahead with
  | _ length' ih =>
    subst length
    rw [many_eq advances]
    rcases step as ahead start with ⟨r, rest, read, next⟩ | ⟨cause, stop, broke, q⟩
    · obtain ⟨failures, run, -⟩ := id read
      have shorter := advances site ahead
      unfold AdvancesAt at shorter
      simp only [run] at shorter
      rcases r with a | _ | _
      · have tail := ih _ (by simpa using shorter) _ next rfl
        apply bind (J := fun r' rest' => r' = .item a ∧ rest' = rest) (reads read ⟨rfl, rfl⟩)
        rintro _ _ ⟨rfl, rfl⟩
        apply bind tail
        intro bs rest' p
        apply pure
        simpa using p
      · have tail := ih _ (by simpa using shorter) _ next rfl
        apply bind (J := fun r' rest' => r' = .skip ∧ rest' = rest) (reads read ⟨rfl, rfl⟩)
        rintro _ _ ⟨rfl, rfl⟩
        apply tail
      · apply bind (J := fun r' rest' => r' = .stop ∧ rest' = rest) (reads read ⟨rfl, rfl⟩)
        rintro _ _ ⟨rfl, rfl⟩
        apply pure
        simpa using next
    · exact .inr ⟨cause, stop, .bind broke, q⟩

end Outcome

end PlanetServer.Rule
