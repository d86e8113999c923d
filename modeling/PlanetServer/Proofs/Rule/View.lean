import PlanetServer.Proofs.Rule.Run

/-!
# Views of a document

A rule looks at the kinds of words, hands on their texts, and reports failures at them. It never looks
at their places or at hidden tokens. So if words are changed in a way that keeps kinds and texts, a rule
answers the same, and what it leaves and reports is changed in the same way. The number of levels around
the rule is not seen either: it only shows in the failures.
-/

namespace PlanetServer.Rule

theorem level_id (n : Nat) :
  id (n + 1) = id n + 1
  := rfl

/-- A change of words and failures that rules do not see. -/
structure View where
  /-- What becomes of a word. -/
  word : Word → Word
  /-- What becomes of the end of the document. -/
  finish : Mark → Mark
  /-- What becomes of failures. -/
  failures : List Failure → List Failure
  /-- What becomes of the number of levels. -/
  depth : Nat → Nat := id
  /-- Kinds are kept. -/
  kind : ∀ w, (word w).token.kind = w.token.kind
  /-- Texts are kept. -/
  text : ∀ w, (word w).token.text = w.token.text
  /-- A level is entered after the change as before it. -/
  level : ∀ n, depth (n + 1) = depth n + 1 := by exact level_id
  /-- Failures are changed one after the other. -/
  append : ∀ fs gs, failures (fs ++ gs) = failures fs ++ failures gs
  /-- The failures of the unreadable tokens behind a word are those behind the changed word. -/
  trail : ∀ w, unreadable (word w).trail = failures (unreadable w.trail)
  /-- The failure of the next word is that of the changed word. -/
  next : ∀ cause site ahead, cause ≠ .unreadable →
    [failureAt cause ⟨finish site.finish, depth site.depth⟩ (ahead.map word)]
      = failures [failureAt cause site ahead]

namespace View

variable {α : Type} (v : View)

/-- The changed site. -/
def site (site : Site) : Site :=
  ⟨v.finish site.finish, v.depth site.depth⟩

/-- The changed reply. -/
def reply (reply : Reply α) : Reply α :=
  ⟨reply.value, reply.rest.map v.word, v.failures reply.failures⟩

theorem failures_nil :
  v.failures [] = []
  := by
  have twice := v.append [] []
  simpa using twice

theorem kinds (ahead : List Word) :
  (ahead.map v.word).map (fun w => w.token.kind) = ahead.map fun w => w.token.kind
  := by
  rw [List.map_map]
  apply List.map_congr_left
  intro w _
  apply v.kind

end View

/-- A rule does not see the change. -/
theorem Built.view {α : Type} (v : View) {rule : Rule α} (built : Built rule) (site : Site)
    (ahead : List Word) :
  rule (v.site site) (ahead.map v.word) = v.reply (rule site ahead)
  := by
  induction built generalizing site ahead with
  | pure a => simp [Pure.pure, Rule.pure, View.reply, v.failures_nil]
  | look f => simp only [Rule.look, v.kinds, View.reply, v.failures_nil]
  | take =>
    cases ahead with
    | nil => simp [Rule.take, View.reply, v.failures_nil]
    | cons w ahead => simp [Rule.take, View.reply, v.text, v.trail]
  | advance =>
    cases ahead with
    | nil => simp [Rule.advance, View.reply, v.failures_nil]
    | cons w ahead => simp [Rule.advance, View.reply, v.trail]
  | @report cause real => simp [Rule.report, View.reply, View.site, v.next cause site ahead real]
  | @fail _ cause real => simp [Rule.fail, View.reply, View.site, v.next cause site ahead real]
  | attempt _ ih => simp [Rule.attempt, View.reply, ih]
  | deeper _ ih =>
    have inside := ih ⟨site.finish, site.depth + 1⟩ ahead
    rwa [View.site, v.level] at inside
  | @bind α β rule next _ _ first second =>
    rcases found : (rule site ahead).value with _ | a
    · rw [bind_of_none found, bind_of_none (by rw [first]; exact found), first]
      rfl
    · rw [bind_of_some found, bind_of_some (by rw [first]; exact found), first]
      simp [View.reply, second, v.append]
  | @many α round _ advances ih =>
    apply many_induct advances site (P := fun ahead reply =>
      Rule.many round (v.site site) (ahead.map v.word) = v.reply reply)
    · intro ahead found
      rw [many_eq advances, bind_of_none (by rw [ih]; exact found), ih]
      rfl
    · intro ahead found
      rw [many_eq advances, bind_of_some (by rw [ih]; exact found), ih]
      simp [View.reply, Pure.pure, Rule.pure]
    · intro ahead reply found _ tail
      rw [many_eq advances, bind_of_some (by rw [ih]; exact found), ih]
      simp only [View.reply, v.append] at tail ⊢
      rw [tail]
    · intro ahead reply a found _ tail
      rw [many_eq advances, bind_of_some (by rw [ih]; exact found), ih]
      simp only [View.reply, v.append, bind_pure_run] at tail ⊢
      rw [tail]

end PlanetServer.Rule
