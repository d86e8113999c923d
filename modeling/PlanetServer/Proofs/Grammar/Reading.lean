import PlanetServer.Proofs.Grammar.Basic
import PlanetServer.Proofs.Rule.Outcome
import PlanetServer.Proofs.Rule.Words

/-!
# What the parser reads

A run of the parser follows the grammar up to its first failure: what it reads without a failure is a
phrase and stands for the answer, and what it has read when it breaks is the beginning of a phrase,
unless it broke because no level was left.

`Follows` says this of a rule and a phrase. It is proved for one rule after the other, each given
the rules for what stands inside. A proof goes along the rule with the tokens that were read so far:
`Along.sub` steps over another rule, and `Along.many` over a repetition.
-/

namespace PlanetServer

namespace Grammar

open Rule Word

variable {α β : Type}

/-- A phrase, whatever follows it. -/
def Phrase.clause (phrase : Phrase α) : Clause α :=
  fun w _ a => phrase w a

@[simp] theorem Phrase.clause_iff {phrase : Phrase α} {w after : List Token} {a : α} :
  phrase.clause w after a ↔ phrase w a
  := Iff.rfl

/-- The tokens are the beginning of a phrase, whatever follows it. -/
def Completes (clause : Clause α) (w : List Token) : Prop :=
  ∃ more a, ∀ after, clause (w ++ more) after a

theorem Completes.whole {clause : Clause α} {w : List Token} {a : α}
    (h : ∀ after, clause w after a) :
  Completes clause w
  := ⟨[], a, by simpa using h⟩

theorem Completes.append {clause : Clause α} {w : List Token} (more : List Token)
    (h : Completes clause (w ++ more)) :
  Completes clause w
  := by
  obtain ⟨rest, a, whole⟩ := h
  use more ++ rest, a
  simpa using whole

/-- A run along a phrase of which some tokens were read before. If it reads, `P` holds of the answer,
of all tokens of the phrase read so far, and of what is left; if it breaks, then at a place where the
phrase can be completed. -/
def Along (clause : Clause α) (begun : List Token) (rule : Rule β) (site : Site)
    (ahead : List Word) (P : β → List Token → List Word → Prop) : Prop :=
  Outcome rule site ahead
    (fun b rest => ∃ read, ahead = read ++ rest ∧ P b (begun ++ tokens read) rest)
    (fun cause stop => ∃ read, ahead = read ++ stop
      ∧ (cause ≠ .tooDeep → Completes clause (begun ++ tokens read)))

/-- All runs of the rule are runs along the phrase, and read the phrase if they read. -/
def Follows (rule : Rule α) (clause : Clause α) : Prop :=
  ∀ site ahead, Along clause [] rule site ahead fun a begun rest => clause begun (tokens rest) a

theorem Follows.mono {rule : Rule α} {inner clause : Clause α} (h : Follows rule inner)
    (sub : ∀ w after a, inner w after a → clause w after a) :
  Follows rule clause
  := by
  intro site ahead
  apply Outcome.mono (h site ahead)
  · rintro a rest ⟨read, split, phrase⟩
    exact ⟨read, split, sub _ _ _ phrase⟩
  · rintro cause stop ⟨read, split, completes⟩
    refine ⟨read, split, fun shallow => ?_⟩
    obtain ⟨more, a, whole⟩ := completes shallow
    exact ⟨more, a, fun after => sub _ _ _ (whole after)⟩

namespace Along

variable {γ : Type} {clause : Clause γ} {begun : List Token} {site : Site} {w : Word}
  {ahead : List Word} {P : α → List Token → List Word → Prop}

theorem pure {a : α} (h : P a begun ahead) :
  Along clause begun (pure a) site ahead P
  := Outcome.pure ⟨[], rfl, by simpa using h⟩

theorem fail {cause : Cause} (real : cause ≠ .unreadable)
    (h : cause ≠ .tooDeep → Completes clause begun) :
  Along clause begun (fail cause) site ahead P
  := Outcome.fail real ⟨[], rfl, by simpa using h⟩

/-- Words that were read before may be counted as read in the run. -/
theorem shift {rule : Rule α} (read : List Word)
    (h : Along clause (begun ++ tokens read) rule site ahead P) :
  Outcome rule site ahead
    (fun a rest => ∃ read', read ++ ahead = read' ++ rest ∧ P a (begun ++ tokens read') rest)
    (fun cause stop => ∃ read', read ++ ahead = read' ++ stop
      ∧ (cause ≠ .tooDeep → Completes clause (begun ++ tokens read')))
  := by
  apply Outcome.mono h
  · rintro a rest ⟨more, rfl, p⟩
    use read ++ more
    simpa using p
  · rintro cause stop ⟨more, rfl, completes⟩
    use read ++ more
    simpa using completes

theorem advance_bind {next : Unit → Rule α}
    (h : Along clause (begun ++ [w.token]) (next ()) site ahead P) :
  Along clause begun (advance >>= next) site (w :: ahead) P
  := Outcome.advance_bind (shift [w] h)

theorem advance {P : Unit → List Token → List Word → Prop} (h : P () (begun ++ [w.token]) ahead) :
  Along clause begun advance site (w :: ahead) P
  := Outcome.reads (.advance_cons site w ahead) ⟨[w], rfl, h⟩

theorem take_bind {next : String → Rule α}
    (h : Along clause (begun ++ [w.token]) (next w.token.text) site ahead P) :
  Along clause begun (take >>= next) site (w :: ahead) P
  := Outcome.take_bind (shift [w] h)

theorem peek_nil {next : Option Kind → Rule α} (h : Along clause begun (next none) site [] P) :
  Along clause begun (peek >>= next) site [] P
  := h

theorem peek_cons {next : Option Kind → Rule α}
    (h : Along clause begun (next (some w.token.kind)) site (w :: ahead) P) :
  Along clause begun (peek >>= next) site (w :: ahead) P
  := h

theorem lookahead_bind {n : Nat} {next : Option Kind → Rule α}
    (h : Along clause begun (next (ahead[n]?.map fun w => w.token.kind)) site ahead P) :
  Along clause begun (lookahead n >>= next) site ahead P
  := h

/-- A choice by the next word. -/
theorem sees_ite {k : Kind} {rule rule' : Rule α}
    (yes : ∀ w rest, w.token.kind = k → ahead = w :: rest →
      Along clause begun rule site (w :: rest) P)
    (no : Along clause begun rule' site ahead P) :
  Along clause begun (do if ← sees k then rule else rule') site ahead P
  := by
  rcases ahead with _ | ⟨w, ahead⟩
  · apply no
  · change Along clause begun (if decide (w.token.kind = k) = true then rule else rule') site _ P
    split
    · apply yes w ahead (of_decide_eq_true ‹_›) rfl
    · apply no

/-- A choice by the next word that does not end a line. -/
theorem elseAhead_ite {rule rule' : Rule α}
    (yes : ∀ lines e rest, (∀ w ∈ lines, w.token.kind = .newline) → e.token.kind = .kwElse →
      ahead = lines ++ e :: rest → Along clause begun rule site (lines ++ e :: rest) P)
    (no : Along clause begun rule' site ahead P) :
  Along clause begun (do if ← Parse.elseAhead then rule else rule') site ahead P
  := by
  cases decided : hasElse ahead with
  | true =>
    obtain ⟨lines, e, rest, rfl, blank, found⟩ := (hasElse_iff ahead).mp decided
    apply Outcome.congr (elseAhead_run_true decided) (yes lines e rest blank found rfl)
  | false => apply Outcome.congr (elseAhead_run_false decided) no

theorem deeper {rule : Rule α} (h : Along clause begun rule ⟨site.finish, site.depth + 1⟩ ahead P) :
  Along clause begun (deeper rule) site ahead P
  := h

/-- A required word. Where it is missing the phrase must be one that can be completed. -/
theorem expect_bind {k : Kind} {others : KindSet} {next : String → Rule α}
    (completes : Completes clause begun)
    (h : ∀ (w : Word) rest, w.token.kind = k →
      Along clause (begun ++ [w.token]) (next w.token.text) site rest P) :
  Along clause begun (expect k others >>= next) site ahead P
  := by
  have missing : Along clause begun
      ((Rule.fail (.mismatch (others.insert k)) : Rule String) >>= next) site ahead P :=
    .inr ⟨_, ahead, .bind (.fail (by simp) site ahead), [], rfl, by simpa using completes⟩
  rcases ahead with _ | ⟨w, ahead⟩
  · apply missing
  · by_cases found : w.token.kind = k
    · apply Outcome.congr (bind_congr (expect_of_eq found others site ahead) next)
      apply take_bind (h w ahead found)
    · apply Outcome.congr (bind_congr (expect_of_ne found others site ahead) next)
      apply missing

theorem bind {rule : Rule β} {next : β → Rule α} {P' : β → List Token → List Word → Prop}
    (h : Along clause begun rule site ahead P')
    (h' : ∀ b begun' rest, P' b begun' rest → Along clause begun' (next b) site rest P) :
  Along clause begun (rule >>= next) site ahead P
  := by
  apply Outcome.bind h
  rintro b rest ⟨read, rfl, p⟩
  apply shift read
  apply h' _ _ _ p

/-- Words that are known to be read. -/
theorem bind_of_reads {rule : Rule β} {next : β → Rule α} {read rest : List Word} {b : β}
    (h : Reads rule site (read ++ rest) b rest)
    (h' : Along clause (begun ++ tokens read) (next b) site rest P) :
  Along clause begun (rule >>= next) site (read ++ rest) P
  := by
  apply Outcome.bind (J := fun b' rest' => b' = b ∧ rest' = rest) (.reads h ⟨rfl, rfl⟩)
  rintro _ _ ⟨rfl, rfl⟩
  apply shift read h'

/-- Another rule inside a phrase: where it breaks the phrase must be one that can be completed, and
the rest is read with the inner phrase behind. -/
theorem inside {rule : Rule β} {inner : Clause β} {next : β → Rule α} (h : Follows rule inner)
    (completes : ∀ read stop, ahead = read ++ stop → Completes inner (tokens read) →
      Completes clause (begun ++ tokens read))
    (h' : ∀ b read rest, ahead = read ++ rest → inner (tokens read) (tokens rest) b →
      Along clause (begun ++ tokens read) (next b) site rest P) :
  Along clause begun (rule >>= next) site ahead P
  := by
  rcases h site ahead with ⟨b, rest, reads, read, split, phrase⟩
    | ⟨cause, stop, breaks, read, split, beginning⟩
  · have tail := shift read (h' b read rest split phrase)
    rw [← split] at tail
    rcases tail with ⟨a, rest', reads', p⟩ | ⟨cause, stop, breaks, q⟩
    · exact .inl ⟨a, rest', .bind reads reads', p⟩
    · exact .inr ⟨cause, stop, .bind_of_reads reads breaks, q⟩
  · refine .inr ⟨cause, stop, .bind breaks, read, split, fun shallow => ?_⟩
    apply completes read stop split (beginning shallow)

/-- Another rule inside a phrase that can be completed once the inner phrase is. -/
theorem sub {rule : Rule β} {inner : Clause β} {next : β → Rule α} (h : Follows rule inner)
    (completes : ∀ v b, (∀ after, inner v after b) → Completes clause (begun ++ v))
    (h' : ∀ b read rest, inner (tokens read) (tokens rest) b →
      Along clause (begun ++ tokens read) (next b) site rest P) :
  Along clause begun (rule >>= next) site ahead P
  := by
  apply inside h
  · rintro read stop - ⟨more, b, whole⟩
    apply Completes.append more
    rw [List.append_assoc]
    apply completes _ b whole
  · intro b read rest _ phrase
    apply h' b read rest phrase

/-- A repetition inside a phrase. The invariant `I` is about the items found so far, the tokens of
the phrase read so far, and the words ahead. -/
theorem many {round : Rule (Round β)} (advances : Advances round)
    {I J : List β → List Token → List Word → Prop}
    (step : ∀ bs begun ahead, I bs begun ahead → Along clause begun round site ahead
      fun r begun' rest => match r with
        | .stop => J bs begun' rest
        | .skip => I bs begun' rest
        | .item b => I (bs ++ [b]) begun' rest)
    (start : I [] begun ahead) :
  Along clause begun (many round) site ahead J
  := by
  have rounds : Outcome (Rule.many round) site ahead
      (fun bs rest => ∃ read, ahead = read ++ rest ∧ J ([] ++ bs) (begun ++ tokens read) rest)
      (fun cause stop => ∃ read, ahead = read ++ stop
        ∧ (cause ≠ .tooDeep → Completes clause (begun ++ tokens read))) := by
    apply Outcome.many advances
      (I := fun bs rest => ∃ read, ahead = read ++ rest ∧ I bs (begun ++ tokens read) rest)
      (P := fun bs rest => ∃ read, ahead = read ++ rest ∧ J bs (begun ++ tokens read) rest)
    · rintro bs rest ⟨read, rfl, i⟩
      apply Outcome.mono (shift read (step bs (begun ++ tokens read) rest i))
      · rintro r rest' ⟨more, split, p⟩
        rcases r with b | _ | _
        · exact ⟨more, split, p⟩
        · exact ⟨more, split, p⟩
        · exact ⟨more, split, p⟩
      · exact fun _ _ broke => broke
    · exact ⟨[], rfl, by simpa using start⟩
  apply rounds

end Along

end Grammar

end PlanetServer
