import PlanetServer.Proofs.Rule.View
import PlanetServer.Proofs.Rule.Words
import PlanetServer.Proofs.Token.Lines

/-!
# Shifted documents

A rule never looks at the places of words. If a document has more tokens and lines before it, a rule
answers the same, and the places that it reports are shifted in the same way.
-/

namespace PlanetServer

/-- The word in a document that has some more tokens and lines before it. -/
def Word.shift (count lines : Nat) (w : Word) : Word :=
  ⟨w.token.shift count lines, w.trail.map (Token.shift count lines)⟩

theorem Word.shift_kind (count lines : Nat) (w : Word) :
  (w.shift count lines).token.kind = w.token.kind
  := rfl

theorem Word.shift_text (count lines : Nat) (w : Word) :
  (w.shift count lines).token.text = w.token.text
  := rfl

/-- The failure in a document that has some more tokens and lines before it. -/
def Failure.shift (count lines : Nat) (f : Failure) : Failure :=
  ⟨f.offending.map (Token.shift count lines), f.mark.down lines, f.cause, f.depth⟩

/-- A failure says the same wherever the document stands. -/
theorem Failure.message_shift (count lines : Nat) (f : Failure) :
  (f.shift count lines).message = f.message
  := by
  obtain ⟨_ | t, mark, cause, depth⟩ := f
  · cases cause <;> rfl
  · cases cause <;> rfl

/-- The site in a document that has some more lines before it. -/
def Site.down (lines : Nat) (site : Site) : Site :=
  ⟨site.finish.down lines, site.depth⟩

/-- The reply in a document that has some more tokens and lines before it. -/
def Reply.shift {α : Type} (count lines : Nat) (reply : Reply α) : Reply α :=
  ⟨reply.value, reply.rest.map (Word.shift count lines),
    reply.failures.map (Failure.shift count lines)⟩

namespace Rule

variable {α : Type} (count lines : Nat)

theorem unreadable_shift (ts : List Token) :
  unreadable (ts.map (Token.shift count lines))
    = (unreadable ts).map (Failure.shift count lines)
  := by
  simp only [unreadable, List.filter_map, List.map_map]
  rfl

theorem failureAt_shift (cause : Cause) (site : Site) (ahead : List Word) :
  failureAt cause (site.down lines) (ahead.map (Word.shift count lines))
    = (failureAt cause site ahead).shift count lines
  := by
  cases ahead
  · rfl
  · rfl

/-- A document with some more tokens and lines before it, as a view of the document. -/
def shifted : View where
  word := Word.shift count lines
  finish := Mark.down lines
  failures := List.map (Failure.shift count lines)
  depth := id
  kind := Word.shift_kind count lines
  text := Word.shift_text count lines
  append _ _ := List.map_append
  trail w := unreadable_shift count lines w.trail
  next cause site ahead _ := congrArg List.singleton (failureAt_shift count lines cause site ahead)

theorem Built.shift {rule : Rule α} (built : Built rule) (site : Site) (ahead : List Word) :
  rule (site.down lines) (ahead.map (Word.shift count lines))
    = (rule site ahead).shift count lines
  := built.view (shifted count lines) site ahead

end Rule

/-! ### Streams -/

theorem Word.gather_shift (count lines : Nat) (ts : List Token) :
  gather (ts.map (Token.shift count lines))
    = ((gather ts).1.map (Token.shift count lines), (gather ts).2.map (Word.shift count lines))
  := by
  induction ts with
  | nil => rfl
  | cons t ts ih =>
    cases h : t.isHidden with
    | true =>
      rw [List.map_cons, gather_of_hidden (by simpa using h), gather_of_hidden h, ih]
      rfl
    | false =>
      rw [List.map_cons, gather_of_significant (by simpa using h), gather_of_significant h, ih]
      rfl

theorem Word.flatten_shift (count lines : Nat) (ws : List Word) :
  flatten (ws.map (Word.shift count lines)) = (flatten ws).map (Token.shift count lines)
  := by
  induction ws with
  | nil => rfl
  | cons w ws ih =>
    rw [List.map_cons, flatten_cons, ih, flatten_cons, List.map_cons, List.map_append]
    rfl

end PlanetServer
