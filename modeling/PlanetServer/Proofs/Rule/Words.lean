import PlanetServer.Proofs.Rule.Run

/-!
# Words of a stream

The words that are gathered from a list of tokens hold its significant tokens in order, and the
hidden tokens between them. No unreadable token is lost.
-/

namespace PlanetServer

/-- The significant tokens of words. -/
def Word.tokens (ws : List Word) : List Token :=
  ws.map Word.token

/-- All tokens of words, hidden ones included. -/
def Word.flatten (ws : List Word) : List Token :=
  ws.flatMap fun w => w.token :: w.trail

namespace Word

open Rule

@[simp] theorem tokens_nil : tokens [] = [] := rfl

@[simp] theorem tokens_cons (w : Word) (ws : List Word) :
  tokens (w :: ws) = w.token :: tokens ws
  := rfl

@[simp] theorem tokens_append (ws vs : List Word) :
  tokens (ws ++ vs) = tokens ws ++ tokens vs
  := List.map_append

@[simp] theorem flatten_nil : flatten [] = [] := rfl

@[simp] theorem flatten_cons (w : Word) (ws : List Word) :
  flatten (w :: ws) = w.token :: (w.trail ++ flatten ws)
  := rfl

@[simp] theorem flatten_append (ws vs : List Word) :
  flatten (ws ++ vs) = flatten ws ++ flatten vs
  := List.flatMap_append

/-! ### Gathering -/

/-- If no hidden tokens stand at the start of what comes later, the words are those of the two parts. -/
theorem gather_append_of_bare {us : List Token} (bare : (gather us).1 = []) (ts : List Token) :
  gather (ts ++ us) = ((gather ts).1, (gather ts).2 ++ (gather us).2)
  := by
  induction ts with
  | nil => exact Prod.ext bare rfl
  | cons t ts ih => cases h : t.isHidden <;> simp [gather, h, ih]

theorem gather_of_hidden {t : Token} (h : t.isHidden = true) (ts : List Token) :
  gather (t :: ts) = (t :: (gather ts).1, (gather ts).2)
  := by
  simp [gather, h]

theorem gather_of_significant {t : Token} (h : t.isHidden = false) (ts : List Token) :
  gather (t :: ts) = ([], ⟨t, (gather ts).1⟩ :: (gather ts).2)
  := by
  simp [gather, h]

theorem tokens_gather (ts : List Token) :
  tokens (gather ts).2 = ts.filter fun t => !t.isHidden
  := by
  induction ts with
  | nil => rfl
  | cons t ts ih =>
    cases h : t.isHidden with
    | true => simp [gather_of_hidden h, h, ih]
    | false => simp [gather_of_significant h, h, ih]

/-- The hidden tokens at the start of a stream and the words after them hold all its tokens. -/
theorem flatten_gather (ts : List Token) :
  (gather ts).1 ++ flatten (gather ts).2 = ts
  := by
  induction ts with
  | nil => rfl
  | cons t ts ih =>
    cases h : t.isHidden with
    | true =>
      rw [gather_of_hidden h]
      exact congrArg (t :: ·) ih
    | false =>
      rw [gather_of_significant h]
      exact congrArg (t :: ·) ih

/-- A significant token is readable. -/
theorem unreadable_of_significant {t : Token} (h : t.isHidden = false) (ts : List Token) :
  unreadable (t :: ts) = unreadable ts
  := by
  have readable : t.kind ≠ .unknown := by
    intro unknown
    rw [Token.isHidden, unknown] at h
    cases h
  simp [unreadable, readable]

/-- The unreadable tokens of a stream stand before its first word or behind some word. -/
theorem unreadable_gather (ts : List Token) :
  unreadable (gather ts).1 ++ lexical (gather ts).2 = unreadable ts
  := by
  induction ts with
  | nil => rfl
  | cons t ts ih =>
    cases h : t.isHidden with
    | true =>
      have more : unreadable (t :: ts) = unreadable [t] ++ unreadable ts := unreadable_append [t] ts
      have more' : unreadable (t :: (gather ts).1) = unreadable [t] ++ unreadable (gather ts).1 :=
        unreadable_append [t] _
      rw [gather_of_hidden h, more, more', ← ih, List.append_assoc]
    | false =>
      rw [gather_of_significant h, unreadable_of_significant h, ← ih]
      simp [lexical, unreadable]

end Word

namespace Rule

/-- Rules are at fault at the next word. -/
theorem failureAt_offending (cause : Cause) (site : Site) (ahead : List Word) :
  (failureAt cause site ahead).offending = (Word.tokens ahead).head?
  := by
  cases ahead
  · rfl
  · rfl

/-- The first element with a property, and what is before it. -/
theorem split_unique {α : Type} (p : α → Prop) {before before' after after' : List α} {a b : α}
    (same : before ++ a :: after = before' ++ b :: after') (none : ∀ c ∈ before, ¬ p c) (here : p a)
    (none' : ∀ c ∈ before', ¬ p c) (here' : p b) :
  before = before' ∧ a = b
  := by
  induction before generalizing before' with
  | nil =>
    cases before' with
    | nil => exact ⟨rfl, (List.cons.inj same).1⟩
    | cons c before' =>
      obtain ⟨rfl, -⟩ := List.cons.inj same
      exact absurd here (none' a (List.mem_cons_self ..))
  | cons c before ih =>
    cases before' with
    | nil =>
      obtain ⟨rfl, -⟩ := List.cons.inj same
      exact absurd here' (none c (List.mem_cons_self ..))
    | cons d before' =>
      obtain ⟨rfl, same'⟩ := List.cons.inj same
      obtain ⟨rfl, found⟩ := ih same' (fun e member => none e (List.mem_cons_of_mem _ member))
        fun e member => none' e (List.mem_cons_of_mem _ member)
      exact ⟨rfl, found⟩

end Rule

end PlanetServer
