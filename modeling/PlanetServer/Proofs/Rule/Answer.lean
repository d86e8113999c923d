import PlanetServer.Proofs.Rule.Run

/-!
# What rules answer

What holds of the answers of a rule, whatever it reports on the way. Where a rule gives up there is
nothing to say, so a rule with recovery is followed past its failures.

* `Rule.Ensures` is about one run. It is proved by following the rule step by step (`Ensures.bind`), and
  round by round with an invariant of the items found so far (`Ensures.many`).
* `Rule.Grants` is about the answers of all runs, whatever is read.
-/

namespace PlanetServer.Rule

variable {α β : Type}

/-- If the rule answers, `P` holds of what it answers and leaves. -/
structure Ensures (rule : Rule α) (site : Site) (ahead : List Word) (P : α → List Word → Prop) :
    Prop where
  /-- What holds of every answer. -/
  holds : ∀ a, (rule site ahead).value = some a → P a (rule site ahead).rest

namespace Ensures

variable {P : α → List Word → Prop} {site : Site} {w : Word} {ahead : List Word}

theorem pure {a : α} (p : P a ahead) :
  Ensures (pure a) site ahead P
  := by
  constructor
  rintro _ ⟨⟩
  apply p

theorem fail {cause : Cause} :
  Ensures (fail cause) site ahead P
  := ⟨nofun⟩

theorem bind {rule : Rule β} {next : β → Rule α} {J : β → List Word → Prop}
    (h : Ensures rule site ahead J) (h' : ∀ b rest, J b rest → Ensures (next b) site rest P) :
  Ensures (rule >>= next) site ahead P
  := by
  constructor
  intro a answer
  cases found : (rule site ahead).value with
  | none =>
    rw [bind_of_none found] at answer
    cases answer
  | some b =>
    rw [bind_of_some found] at answer ⊢
    apply (h' b _ (h.holds b found)).holds a answer

theorem mono {rule : Rule α} {P' : α → List Word → Prop} (h : Ensures rule site ahead P')
    (sub : ∀ a rest, P' a rest → P a rest) :
  Ensures rule site ahead P
  := ⟨fun a answer => sub a _ (h.holds a answer)⟩

/-- The second of two rules, where nothing is asked of the first one. -/
theorem after {rule : Rule β} {next : β → Rule α} (h : ∀ b rest, Ensures (next b) site rest P) :
  Ensures (rule >>= next) site ahead P
  := bind (J := fun _ _ => True) ⟨fun _ _ => trivial⟩ fun b rest _ => h b rest

theorem peek_nil {next : Option Kind → Rule α} (h : Ensures (next none) site [] P) :
  Ensures (peek >>= next) site [] P
  := ⟨h.holds⟩

theorem peek_cons {next : Option Kind → Rule α}
    (h : Ensures (next (some w.token.kind)) site (w :: ahead) P) :
  Ensures (peek >>= next) site (w :: ahead) P
  := ⟨h.holds⟩

theorem lookahead_bind {n : Nat} {next : Option Kind → Rule α}
    (h : Ensures (next (ahead[n]?.map fun w => w.token.kind)) site ahead P) :
  Ensures (lookahead n >>= next) site ahead P
  := ⟨h.holds⟩

/-- A choice by the next word. -/
theorem sees_ite {k : Kind} {rule rule' : Rule α}
    (yes : ∀ w rest, w.token.kind = k → ahead = w :: rest → Ensures rule site (w :: rest) P)
    (no : Ensures rule' site ahead P) :
  Ensures (do if ← sees k then rule else rule') site ahead P
  := by
  rcases ahead with _ | ⟨w, ahead⟩
  · exact ⟨no.holds⟩
  · by_cases found : w.token.kind = k
    · constructor
      simpa [found] using (yes w ahead found rfl).holds
    · constructor
      simpa [found] using no.holds

theorem deeper {rule : Rule α} (h : Ensures rule ⟨site.finish, site.depth + 1⟩ ahead P) :
  Ensures (deeper rule) site ahead P
  := ⟨h.holds⟩

/-- A repetition, followed with an invariant `I` that holds of the items found so far and the words
ahead before each round. -/
theorem many {round : Rule (Round α)} {I P : List α → List Word → Prop}
    (step : ∀ as ahead, I as ahead → Ensures round site ahead fun r rest => match r with
      | .stop => P as rest
      | .skip => I as rest
      | .item a => I (as ++ [a]) rest)
    (as : List α) (start : I as ahead) :
  Ensures (many round) site ahead fun bs rest => P (as ++ bs) rest
  := by
  suffices limited : ∀ n, Ensures (rounds round n) site ahead fun bs rest => P (as ++ bs) rest from
    ⟨(limited (ahead.length + 1)).holds⟩
  intro n
  induction n generalizing as ahead with
  | zero => exact ⟨nofun⟩
  | succ n ih =>
    rw [rounds]
    apply bind (step as ahead start)
    rintro (a | _ | _) rest next
    · apply bind (ih _ next)
      intro bs rest' p
      apply pure
      simpa using p
    · apply ih _ next
    · apply pure
      simpa using next

end Ensures

/-! ### Answers that do not depend on what is read -/

/-- `P` holds of whatever the rule answers. -/
def Grants (rule : Rule α) (P : α → Prop) : Prop :=
  ∀ site ahead, Ensures rule site ahead fun a _ => P a

/-- `P` holds of the item that a round of a repetition has found, if it has. -/
def Round.All (P : α → Prop) : Round α → Prop
  | .item a => P a
  | .skip | .stop => True

namespace Grants

variable {P : α → Prop}

theorem pure {a : α} (p : P a) :
  Grants (pure a) P
  := fun _ _ => .pure p

theorem fail {cause : Cause} :
  Grants (fail cause) P
  := fun _ _ => .fail

theorem bind {rule : Rule β} {next : β → Rule α} {Q : β → Prop} (h : Grants rule Q)
    (h' : ∀ b, Q b → Grants (next b) P) :
  Grants (rule >>= next) P
  := fun site ahead => .bind (h site ahead) fun b rest q => h' b q site rest

theorem mono {rule : Rule α} {Q : α → Prop} (h : Grants rule Q) (sub : ∀ a, Q a → P a) :
  Grants rule P
  := fun site ahead => .mono (h site ahead) fun a _ => sub a

/-- The second of two rules, where nothing is asked of the first one. -/
theorem after {rule : Rule β} {next : β → Rule α} (h : ∀ b, Grants (next b) P) :
  Grants (rule >>= next) P
  := fun site _ => .after fun b rest => h b site rest

theorem ite {rule rule' : Rule α} {p : Prop} [Decidable p] (h : Grants rule P)
    (h' : Grants rule' P) :
  Grants (if p then rule else rule') P
  := by
  split
  · apply h
  · apply h'

theorem deeper {rule : Rule α} (h : Grants rule P) :
  Grants (deeper rule) P
  := fun site ahead => .deeper (h ⟨site.finish, site.depth + 1⟩ ahead)

/-- A rule that may give up, and goes on all the same. -/
theorem attempt {rule : Rule α} (h : Grants rule P) :
  Grants (attempt rule) fun found => ∀ a ∈ found, P a
  := by
  intro site ahead
  constructor
  rintro _ ⟨⟩ a found
  apply (h site ahead).holds a found

theorem many {round : Rule (Round α)} (h : Grants round (Round.All P)) :
  Grants (many round) fun as => ∀ a ∈ as, P a
  := by
  intro site ahead
  have rounds : Ensures (Rule.many round) site ahead fun as _ => ∀ a ∈ [] ++ as, P a := by
    apply Ensures.many (I := fun as _ => ∀ a ∈ as, P a) (P := fun as _ => ∀ a ∈ as, P a)
    · intro as ahead all
      apply Ensures.mono (h site ahead)
      rintro (a | _ | _) rest p
      · exact List.forall_mem_append.mpr ⟨all, List.forall_mem_singleton.mpr p⟩
      · exact all
      · exact all
    · exact List.forall_mem_nil _
  exact rounds

theorem following {item : Rule α} (divider : Kind) (h : Grants item P) :
  Grants (following divider item) fun as => ∀ a ∈ as, P a
  := by
  apply many
  apply after
  intro divides
  apply ite
  · apply after
    intro _
    apply bind h
    intro a p
    exact .pure p
  · exact .pure trivial

end Grants

end PlanetServer.Rule
