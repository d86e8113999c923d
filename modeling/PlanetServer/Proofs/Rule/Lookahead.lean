import PlanetServer.Proofs.Rule.Outcome

/-!
# How far a run looks ahead

Two inputs that begin with the same words are read in the same way as long as the next word is one of
these. `Rule.Agree` compares a run on `u ++ v` with a run on `u ++ v'`: the second one breaks, or both
read the same, or the first one gets past the common words `u` before it breaks.

The two runs may be of different rules, so that rules with different numbers of levels left can be
compared. A rule that has no level left breaks at once, whatever stands ahead, and that is not held
against the other one.

* `Rule.Alike` says that all runs agree. It is kept by the combinators.
* Conditional statements look past line ends for an `else`. A run that has read one may have left line
  ends that are common to both inputs, although its answer depended on what comes after them:
  `Rule.Loose` describes what it leaves.
-/

namespace PlanetServer.Rule

variable {α β : Type}

/-! ### All runs read or break -/

/-- A rule that is built from the combinators reads or breaks, and it does so among the words that
are ahead. -/
theorem Built.outcome {rule : Rule α} (built : Built rule) (site : Site) (ahead : List Word) :
  Outcome rule site ahead (fun _ rest => rest <:+ ahead) fun _ stop => stop <:+ ahead
  := by
  induction built generalizing site ahead with
  | pure a => exact .pure (List.suffix_refl _)
  | look f => exact .reads (.look f site ahead) (List.suffix_refl _)
  | take =>
    rcases ahead with _ | ⟨w, ahead⟩
    · exact .inl ⟨_, [], ⟨[], rfl, by simp⟩, List.suffix_refl _⟩
    · exact .reads (.take_cons site w ahead) (List.suffix_cons w ahead)
  | advance =>
    rcases ahead with _ | ⟨w, ahead⟩
    · exact .inl ⟨_, [], ⟨[], rfl, by simp⟩, List.suffix_refl _⟩
    · exact .reads (.advance_cons site w ahead) (List.suffix_cons w ahead)
  | report real => exact .inr ⟨_, ahead, .report real site ahead, List.suffix_refl _⟩
  | fail real => exact .fail real (List.suffix_refl _)
  | attempt _ ih =>
    rcases ih site ahead with ⟨a, rest, reads, p⟩ | ⟨cause, stop, breaks, q⟩
    · exact .inl ⟨some a, rest, .attempt reads, p⟩
    · exact .inr ⟨cause, stop, .attempt breaks, q⟩
  | deeper _ ih => exact .deeper (ih _ ahead)
  | bind _ _ first second =>
    apply Outcome.bind (first site ahead)
    intro a rest suffix
    apply Outcome.mono (second a site rest)
    · exact fun _ _ suffix' => suffix'.trans suffix
    · exact fun _ _ suffix' => suffix'.trans suffix
  | many _ advances ih =>
    apply Outcome.many advances (I := fun _ rest => rest <:+ ahead) (P := fun _ rest => rest <:+ ahead)
      _ [] (List.suffix_refl _)
    intro as rest suffix
    apply Outcome.mono (ih site rest)
    · rintro (a | _ | _) rest' suffix'
      · apply suffix'.trans suffix
      · apply suffix'.trans suffix
      · apply suffix'.trans suffix
    · exact fun _ _ suffix' => suffix'.trans suffix

/-! ### Common words -/

/-- The next word, or that there is none, is the same in `s ++ v` and in `s ++ v'`. -/
def Shared (v v' s : List Word) : Prop :=
  s = [] → v = [] ∧ v' = []

/-- What is left when all common words were read, and something else may follow them. -/
def Gone (v v' rest : List Word) : Prop :=
  rest <:+ v ∧ ¬ (v = [] ∧ v' = [])

/-- What is left when all common words but some line ends were read, and something else may follow
them. -/
def Loose (v v' rest : List Word) : Prop :=
  ∃ lines rest', rest = lines ++ rest' ∧ (∀ w ∈ lines, w.token.kind = .newline) ∧ Gone v v' rest'

theorem shared_or_gone (v v' s : List Word) :
  Shared v v' s ∨ s = [] ∧ Gone v v' v
  := by
  by_cases both : v = [] ∧ v' = []
  · exact .inl fun _ => both
  · rcases s with _ | ⟨w, s⟩
    · exact .inr ⟨rfl, List.suffix_refl v, both⟩
    · exact .inl nofun

section

variable {v v' : List Word}

theorem Gone.loose {rest : List Word} (h : Gone v v' rest) :
  Loose v v' rest
  := ⟨[], rest, rfl, by simp, h⟩

/-- A word that is no line end is past the common words if these are all line ends. -/
theorem gone_of_blank {u lines rest : List Word} {w : Word} (both : ¬ (v = [] ∧ v' = []))
    (blank : ∀ w ∈ u, w.token.kind = .newline) (split : u ++ v = lines ++ w :: rest)
    (other : w.token.kind ≠ .newline) :
  Gone v v' (w :: rest)
  := by
  rcases List.append_eq_append_iff.mp split with ⟨more, -, rfl⟩ | ⟨_ | ⟨w, more⟩, rfl, split'⟩
  · exact ⟨List.suffix_append more _, both⟩
  · rw [split']
    exact ⟨List.suffix_refl v, both⟩
  · obtain ⟨rfl, -⟩ := List.cons.inj split'
    apply absurd (blank _ (by simp)) other

/-- A run that gets past the common words. If it runs out of levels before, nothing is said. -/
def Leaves (past : α → List Word → Prop) (v v' : List Word) (rule : Rule α) (site : Site)
    (ahead : List Word) : Prop :=
  Outcome rule site ahead past fun cause stop => cause = .tooDeep ∨ Gone v v' stop

/-- A run that starts past the common words stays there. -/
theorem Gone.leaves {rest : List Word} (h : Gone v v' rest) {rule : Rule α} (built : Built rule)
    (site : Site) :
  Leaves (fun _ => Gone v v') v v' rule site rest
  := by
  apply Outcome.mono (built.outcome site rest)
  · exact fun _ _ suffix => ⟨suffix.trans h.1, h.2⟩
  · exact fun _ _ suffix => .inr ⟨suffix.trans h.1, h.2⟩

theorem Leaves.loose {rule : Rule α} {site : Site} {ahead : List Word}
    (h : Leaves (fun _ => Gone v v') v v' rule site ahead) :
  Leaves (fun _ => Loose v v') v v' rule site ahead
  := Outcome.mono h (fun _ _ gone => gone.loose) fun _ _ q => q

theorem Leaves.bind {rule : Rule α} {next : α → Rule β} {site : Site} {ahead : List Word}
    (h : Leaves (fun _ => Gone v v') v v' rule site ahead) (built : ∀ a, Built (next a)) :
  Leaves (fun _ => Gone v v') v v' (rule >>= next) site ahead
  := by
  apply Outcome.bind h
  exact fun a rest gone => gone.leaves (built a) site

/-! ### Two runs -/

/-- The second run breaks, or both runs read the same and the next word is again common to them, or
the first run gets past the common words. -/
def Agree (past : α → List Word → Prop) (v v' : List Word) (rule rule' : Rule α) (site : Site)
    (u : List Word) : Prop :=
  (∃ cause stop, Breaks rule' site (u ++ v') cause stop)
    ∨ (∃ a s, Shared v v' s ∧ Reads rule site (u ++ v) a (s ++ v)
      ∧ Reads rule' site (u ++ v') a (s ++ v'))
    ∨ Leaves past v v' rule site (u ++ v)

namespace Agree

variable {past : α → List Word → Prop} {past' : β → List Word → Prop} {rule rule' : Rule α}
  {site : Site} {u : List Word}

theorem pure (a : α) (shared : Shared v v' u) :
  Agree past v v' (pure a) (pure a) site u
  := .inr (.inl ⟨a, u, shared, .pure a site _, .pure a site _⟩)

theorem mono {past' : α → List Word → Prop} (h : Agree past v v' rule rule' site u)
    (weaker : ∀ a rest, past a rest → past' a rest) :
  Agree past' v v' rule rule' site u
  := by
  rcases h with broke | same | left
  · exact .inl broke
  · exact .inr (.inl same)
  · exact .inr (.inr (Outcome.mono left weaker fun _ _ q => q))

theorem congr {other other' : Rule α} (eq : rule site (u ++ v) = other site (u ++ v))
    (eq' : rule' site (u ++ v') = other' site (u ++ v')) (h : Agree past v v' other other' site u) :
  Agree past v v' rule rule' site u
  := by
  unfold Agree Leaves Outcome Reads Breaks at h ⊢
  rwa [eq, eq']

theorem peek_cons {next next' : Option Kind → Rule α} {w : Word}
    (h : Agree past v v' (next (some w.token.kind)) (next' (some w.token.kind)) site (w :: u)) :
  Agree past v v' (peek >>= next) (peek >>= next') site (w :: u)
  := h

theorem lookahead_bind {n : Nat} {next next' : Option Kind → Rule α}
    (h : Agree past v v' (next ((u ++ v)[n]?.map fun w => w.token.kind))
      (next' ((u ++ v')[n]?.map fun w => w.token.kind)) site u) :
  Agree past v v' (lookahead n >>= next) (lookahead n >>= next') site u
  := h

/-- Two sequences agree if their first rules do and what comes after does, also where the first run
is past the common words. -/
theorem bind {next next' : α → Rule β} (h : Agree past v v' rule rule' site u)
    (h' : ∀ a s, Shared v v' s → Reads rule site (u ++ v) a (s ++ v) →
      Agree past' v v' (next a) (next' a) site s)
    (left : ∀ a rest, past a rest → Leaves past' v v' (next a) site rest) :
  Agree past' v v' (rule >>= next) (rule' >>= next') site u
  := by
  rcases h with ⟨cause, stop, broke⟩ | ⟨a, s, shared, reads, reads'⟩ | first
  · exact .inl ⟨cause, stop, .bind broke⟩
  · rcases h' a s shared reads with ⟨cause, stop, broke⟩ | ⟨b, s', shared', second, second'⟩ | second
    · exact .inl ⟨cause, stop, .bind_of_reads reads' broke⟩
    · exact .inr (.inl ⟨b, s', shared', .bind reads second, .bind reads' second'⟩)
    · rcases second with ⟨b, rest, second, p⟩ | ⟨cause, stop, broke, q⟩
      · exact .inr (.inr (.inl ⟨b, rest, .bind reads second, p⟩))
      · exact .inr (.inr (.inr ⟨cause, stop, .bind_of_reads reads broke, q⟩))
  · exact .inr (.inr (Outcome.bind first left))

/-- Two repetitions agree if their rounds do. The induction is on the common words that are left:
each round but the last uses up one of them, or the first repetition gets past them. What the first
round leaves is only required to be past them at the end of the repetition. -/
theorem many {round round' : Rule (Round α)} (advances : Advances round)
    (advances' : Advances round') {Q : List Word → Prop}
    (h : ∀ u, Shared v v' u → Agree (fun r rest => match r with
      | .stop => Gone v v' rest
      | _ => Q rest) v v' round round' site u)
    (left : ∀ rest, Q rest → Leaves (fun _ => Gone v v') v v' (many round) site rest)
    (shared : Shared v v' u) :
  Agree (fun _ => Gone v v') v v' (many round) (many round') site u
  := by
  induction length : u.length using Nat.strongRecOn generalizing u with
  | _ length' ih =>
    subst length
    rw [many_eq advances, many_eq advances']
    apply bind (h u shared)
    · rintro r s shared' ⟨failures, run, -⟩
      have shorter := advances site (u ++ v)
      unfold AdvancesAt at shorter
      simp only [run] at shorter
      rcases r with a | _ | _
      · have tail := ih s.length (by simpa using shorter) shared' rfl
        apply bind tail
        · exact fun as s' shared'' _ => .pure _ shared''
        · exact fun as rest gone => gone.leaves (.pure _) site
      · apply ih s.length (by simpa using shorter) shared' rfl
      · apply pure _ shared'
    · rintro (a | _ | _) rest settled
      · apply (left rest settled).bind fun _ => .pure _
      · apply left rest settled
      · apply Gone.leaves settled (.pure _) site

end Agree

end

/-- All runs of two rules agree, and if the first one gets past the common words it has read all of
them. -/
structure Alike (rule rule' : Rule α) : Prop where
  /-- The first rule is built from the combinators. -/
  built : Built rule
  /-- The runs agree. -/
  agree : ∀ v v' site u, Shared v v' u → Agree (fun _ => Gone v v') v v' rule rule' site u

/-- All runs of two rules agree, and if the first one gets past the common words, what it leaves is as
given. -/
structure AlikeUpTo (past : List Word → List Word → α → List Word → Prop) (rule rule' : Rule α) :
    Prop where
  /-- The first rule is built from the combinators. -/
  built : Built rule
  /-- The runs agree. -/
  agree : ∀ v v' site u, Shared v v' u → Agree (past v v') v v' rule rule' site u

/-- All runs of two rules agree, and if the first one gets past the common words it has read all of
them but line ends. -/
def AlikeLoosely : Rule α → Rule α → Prop :=
  AlikeUpTo fun v v' _ => Loose v v'

theorem Alike.upTo {past : List Word → List Word → α → List Word → Prop} {rule rule' : Rule α}
    (h : Alike rule rule') (weaker : ∀ v v' a rest, Gone v v' rest → past v v' a rest) :
  AlikeUpTo past rule rule'
  := ⟨h.built, fun v v' site u shared => (h.agree v v' site u shared).mono (weaker v v')⟩

theorem Alike.bind_upTo {past : List Word → List Word → β → List Word → Prop} {rule rule' : Rule α}
    {next next' : α → Rule β} (h : Alike rule rule')
    (weaker : ∀ v v' b rest, Gone v v' rest → past v v' b rest)
    (h' : ∀ a, AlikeUpTo past (next a) (next' a)) :
  AlikeUpTo past (rule >>= next) (rule' >>= next')
  := by
  refine ⟨.bind h.built fun a => (h' a).built, fun v v' site u shared => ?_⟩
  apply Agree.bind (h.agree v v' site u shared)
  · exact fun a s shared' _ => (h' a).agree v v' site s shared'
  · intro a rest gone
    apply Outcome.mono (gone.leaves (h' a).built site) (weaker v v') fun _ _ q => q

theorem Alike.loosely {rule rule' : Rule α} (h : Alike rule rule') :
  AlikeLoosely rule rule'
  := h.upTo fun _ _ _ _ gone => gone.loose

theorem Alike.bind_loosely {rule rule' : Rule α} {next next' : α → Rule β} (h : Alike rule rule')
    (h' : ∀ a, AlikeLoosely (next a) (next' a)) :
  AlikeLoosely (rule >>= next) (rule' >>= next')
  := h.bind_upTo (fun _ _ _ _ gone => gone.loose) h'

/-- What a rule has left loosely may stay when its answer is changed. -/
theorem AlikeLoosely.map {rule rule' : Rule α} (h : AlikeLoosely rule rule') (f : α → β) :
  AlikeLoosely (do return f (← rule)) (do return f (← rule'))
  := by
  refine ⟨.bind h.built fun _ => .pure _, fun v v' site u shared => ?_⟩
  apply Agree.bind (h.agree v v' site u shared)
  · exact fun a s shared' _ => .pure _ shared'
  · exact fun a rest loose => .pure loose

namespace Alike

theorem pure (a : α) :
  Alike (pure a) (pure a)
  := ⟨.pure a, fun _ _ _ _ shared => .pure a shared⟩

theorem bind {rule rule' : Rule α} {next next' : α → Rule β} (h : Alike rule rule')
    (h' : ∀ a, Alike (next a) (next' a)) :
  Alike (rule >>= next) (rule' >>= next')
  := by
  refine ⟨.bind h.built fun a => (h' a).built, fun v v' site u shared => ?_⟩
  apply Agree.bind (h.agree v v' site u shared)
  · exact fun a s shared' _ => (h' a).agree v v' site s shared'
  · exact fun a rest gone => gone.leaves (h' a).built site

/-- A rule that looks at nothing but the next word. -/
theorem look (f : Option Kind → α) :
  Alike (look fun ks => f ks.head?) (look fun ks => f ks.head?)
  := by
  refine ⟨.look _, fun v v' site u shared => ?_⟩
  have reads := Reads.look (fun ks => f ks.head?) site
  rcases u with _ | ⟨w, u⟩
  · obtain ⟨rfl, rfl⟩ := shared rfl
    exact .inr (.inl ⟨_, [], shared, reads [], reads []⟩)
  · exact .inr (.inl ⟨_, w :: u, shared, reads (w :: u ++ v), reads (w :: u ++ v')⟩)

theorem peek : Alike peek peek := by
  have alike := look id
  rw [Rule.peek, lookahead_eq_look]
  simpa [List.head?_eq_getElem?] using alike

theorem sees (k : Kind) : Alike (sees k) (sees k) := by
  rw [sees_eq_look]
  apply look fun k' => k'.any fun k' => k' = k

theorem take : Alike take take := by
  refine ⟨.take, fun v v' site u shared => ?_⟩
  rcases u with _ | ⟨w, u⟩
  · obtain ⟨rfl, rfl⟩ := shared rfl
    have reads : Reads Rule.take site [] "" [] := ⟨[], rfl, nofun⟩
    exact .inr (.inl ⟨"", [], shared, reads, reads⟩)
  · have reads := fun v => Reads.take_cons site w (u ++ v)
    rcases shared_or_gone v v' u with shared' | ⟨rfl, gone⟩
    · exact .inr (.inl ⟨_, u, shared', reads v, reads v'⟩)
    · exact .inr (.inr (.reads (reads v) gone))

theorem advance : Alike advance advance := by
  refine ⟨.advance, fun v v' site u shared => ?_⟩
  rcases u with _ | ⟨w, u⟩
  · obtain ⟨rfl, rfl⟩ := shared rfl
    have reads : Reads Rule.advance site [] () [] := ⟨[], rfl, nofun⟩
    exact .inr (.inl ⟨(), [], shared, reads, reads⟩)
  · have reads := fun v => Reads.advance_cons site w (u ++ v)
    rcases shared_or_gone v v' u with shared' | ⟨rfl, gone⟩
    · exact .inr (.inl ⟨_, u, shared', reads v, reads v'⟩)
    · exact .inr (.inr (.reads (reads v) gone))

/-- Nothing is asked of a rule that is compared with one that always breaks. -/
theorem breaks {rule rule' : Rule α} (built : Built rule)
    (h : ∀ site ahead, ∃ cause stop, Breaks rule' site ahead cause stop) :
  Alike rule rule'
  := ⟨built, fun _ _ site _ _ => .inl (h site _)⟩

theorem fail {cause : Cause} (real : cause ≠ .unreadable) :
  Alike (fail cause : Rule α) (fail cause)
  := breaks (.fail real) fun site ahead => ⟨cause, ahead, .fail real site ahead⟩

theorem report {cause : Cause} (real : cause ≠ .unreadable) :
  Alike (report cause) (report cause)
  := breaks (.report real) fun site ahead => ⟨cause, ahead, .report real site ahead⟩

/-- Nothing is asked of a rule that is compared with one that has no level left. -/
theorem tooDeep (rule' : Rule α) :
  Alike (Rule.fail .tooDeep) rule'
  := by
  refine ⟨.fail (by simp), fun v v' site u _ => .inr (.inr ?_)⟩
  exact .fail (by simp) (.inl rfl)

theorem ite {rule rule' other other' : Rule α} {p : Prop} [Decidable p] (h : Alike rule rule')
    (h' : Alike other other') :
  Alike (if p then rule else other) (if p then rule' else other')
  := by
  split
  · apply h
  · apply h'

theorem expect (k : Kind) (others : KindSet) :
  Alike (expect k others) (expect k others)
  := bind (sees k) fun _ => ite take (fail (by simp))

theorem deeper {rule rule' : Rule α} (h : Alike rule rule') :
  Alike (deeper rule) (deeper rule')
  := ⟨.deeper h.built, fun v v' site u shared => h.agree v v' ⟨site.finish, site.depth + 1⟩ u shared⟩

theorem many {round round' : Rule (Round α)} (h : Alike round round') (advances : Advances round)
    (advances' : Advances round') :
  Alike (many round) (many round')
  := by
  have built : Built (Rule.many round) := .many h.built advances
  refine ⟨built, fun v v' site u shared => ?_⟩
  apply Agree.many advances advances' (Q := Gone v v') _ _ shared
  · intro u shared
    apply (h.agree v v' site u shared).mono
    rintro (a | _ | _) rest gone
    · apply gone
    · apply gone
    · apply gone
  · exact fun rest gone => gone.leaves built site

theorem following {item item' : Rule α} (divider : Kind) (h : Alike item item')
    (built' : Built item') :
  Alike (following divider item) (following divider item')
  := by
  apply many _ (Parse.following_advances h.built divider) (Parse.following_advances built' divider)
  apply bind (sees divider) fun _ => ite (bind advance fun _ => bind h fun _ => pure _) (pure _)

end Alike

end PlanetServer.Rule

namespace PlanetServer.Parse

open Rule

/-! ### Expressions -/

section

variable {operand operand' : Rule Expr} (h : Alike operand operand') (built' : Built operand')

include h built'

theorem layer_alike (n : Nat) :
  Alike (layer operand n) (layer operand' n)
  := by
  induction n with
  | zero => apply h
  | succ n ih =>
    rw [layer_succ, layer_succ]
    apply Alike.bind ih
    intro lhs
    apply Alike.bind _ fun _ => .pure _
    apply Alike.many _ (tail_advances ih.built _) (tail_advances (layer_built built' n) _)
    apply Alike.bind .peek
    intro k
    split
    · exact .ite (.bind .advance fun _ => .bind ih fun _ => .pure _) (.pure _)
    · exact .pure _

theorem exprOf_alike :
  Alike (exprOf operand) (exprOf operand')
  := layer_alike h built' 6

theorem arguments_alike :
  Alike (arguments operand) (arguments operand')
  := by
  have inner := exprOf_alike h built'
  apply Alike.bind (.sees _)
  intro closed
  apply Alike.ite
  · exact .bind .advance fun _ => .pure _
  · apply Alike.bind inner
    intro head
    apply Alike.bind (.following _ inner (exprOf_built built'))
    intro tail
    exact .bind (.expect _ _) fun _ => .pure _

theorem primary_alike :
  Alike (primary operand) (primary operand')
  := by
  have inner := exprOf_alike h built'
  apply Alike.bind .peek
  intro k
  split
  · exact .bind .take fun _ => .pure _
  · exact .bind .take fun _ => .pure _
  · exact .bind .take fun _ => .pure _
  · exact .bind .advance fun _ => .pure _
  · exact .bind .advance fun _ => .pure _
  · exact .bind .advance fun _ => .bind inner fun _ => .bind (.expect _ _) fun _ => .pure _
  · exact .fail (by simp)

theorem suffixed_alike :
  Alike (suffixed operand) (suffixed operand')
  := by
  apply Alike.bind (primary_alike h built')
  intro head
  apply Alike.bind _ fun _ => .pure _
  apply Alike.many _ (suffix_advances h.built) (suffix_advances built')
  apply Alike.bind .peek
  intro k
  split
  · exact .bind .advance fun _ => .bind (arguments_alike h built') fun _ => .pure _
  · exact .bind .advance fun _ => .bind (.expect _ _) fun _ => .pure _
  · exact .pure _

end

theorem unary_alike (m n : Nat) :
  Alike (unary m) (unary n)
  := by
  induction m generalizing n with
  | zero => exact .tooDeep _
  | succ m ih =>
    cases n with
    | zero => exact .breaks (unary_built _) fun site ahead => ⟨_, ahead, .fail (by simp) site ahead⟩
    | succ n =>
      apply Alike.deeper
      apply Alike.bind .peek
      intro k
      split
      · exact .bind .advance fun _ => .bind (ih n) fun _ => .pure _
      · exact .bind .advance fun _ => .bind (ih n) fun _ => .pure _
      · apply suffixed_alike (ih n) (unary_built n)

theorem expr_alike (m n : Nat) :
  Alike (expr m) (expr n)
  := exprOf_alike (unary_alike m n) (unary_built n)

/-! ### Statements without statements inside -/

theorem terminator_alike (others : KindSet) :
  Alike (terminator others) (terminator others)
  := by
  apply Alike.bind .peek
  intro k
  split
  · exact .advance
  · exact .advance
  · exact .pure _
  · exact .pure _
  · exact .fail (by simp)

theorem ended_alike (others : KindSet) (s : Stmt) :
  Alike (do
    terminator others
    return s) (do
    terminator others
    return s)
  := .bind (terminator_alike others) fun _ => .pure _

section

variable {expr expr' : Rule Expr} (h : Alike expr expr')

include h

theorem exprEnded_alike (others : KindSet) (s : Expr → Stmt) :
  Alike (do
    let e ← expr
    terminator others
    return s e) (do
    let e ← expr'
    terminator others
    return s e)
  := .bind h fun _ => ended_alike _ _

theorem varDecl_alike :
  Alike (varDecl expr) (varDecl expr')
  := by
  apply Alike.bind .advance
  intro _
  apply Alike.bind (.expect _ _)
  intro name
  apply Alike.bind (.sees _)
  intro assigns
  apply Alike.ite
  · exact .bind .advance fun _ => exprEnded_alike h _ _
  · apply ended_alike _ _

theorem returnStmt_alike :
  Alike (returnStmt expr) (returnStmt expr')
  := by
  apply Alike.bind .advance
  intro _
  apply Alike.bind .peek
  intro k
  exact .ite (exprEnded_alike h _ _) (ended_alike _ _)

end

theorem importStmt_alike :
  Alike importStmt importStmt
  := by
  apply Alike.bind .advance
  intro _
  apply Alike.bind (.expect _ _)
  intro head
  apply Alike.bind (.following _ (.expect _ _) (.expect _ _))
  intro tail
  apply ended_alike _ _

theorem parameters_alike :
  Alike parameters parameters
  := by
  apply Alike.bind (.sees _)
  intro named
  apply Alike.ite
  · apply Alike.bind .take
    intro head
    apply Alike.bind (.following _ (.expect _ _) (.expect _ _))
    intro tail
    exact .bind (.expect _ _) fun _ => .pure _
  · exact .bind (.expect _ _) fun _ => .pure _

/-! ### Blocks -/

section

variable {statement statement' : Rule Stmt} (h : AlikeLoosely statement statement')

/-- What may be left after a round of statements that got past the common words: line ends if it was
not the last one. -/
def LooseRound (v v' : List Word) : Round Stmt → List Word → Prop
  | .stop => Gone v v'
  | _ => Loose v v'

theorem LooseRound.of_gone (v v' : List Word) (r : Round Stmt) (rest : List Word)
    (h : Gone v v' rest) :
  LooseRound v v' r rest
  := by
  rcases r with s | _ | _
  · apply h.loose
  · apply h.loose
  · apply h

include h in
theorem recovered_alike :
  AlikeUpTo LooseRound (recovered statement) (recovered statement')
  := by
  refine ⟨recovered_built h.built, fun v v' site u shared => ?_⟩
  rcases h.agree v v' site u shared with ⟨cause, stop, broke⟩ | ⟨s, rest, shared', reads, reads'⟩
    | ⟨s, rest, reads, loose⟩ | ⟨cause, stop, broke, gone⟩
  · exact .inl ⟨cause, stop, .bind (.attempt broke)⟩
  · exact .inr (.inl ⟨.item s, rest, shared', .bind (.attempt reads) (.pure _ _ _),
      .bind (.attempt reads') (.pure _ _ _)⟩)
  · exact .inr (.inr (.reads (.bind (.attempt reads) (.pure _ _ _)) loose))
  · exact .inr (.inr (.inr ⟨cause, stop, .bind (.attempt broke), gone⟩))

/-- A repetition of statements. Line ends that a statement has left are skipped, so that the
repetition gets past all common words where one of its rounds does. -/
theorem loop_alike {round round' : Rule (Round Stmt)} (h : AlikeUpTo LooseRound round round')
    (advances : Advances round) (advances' : Advances round')
    (line : ∀ site (w : Word) ahead, w.token.kind = .newline →
      Reads round site (w :: ahead) .skip ahead) :
  Alike (many round) (many round')
  := by
  have built : Built (Rule.many round) := .many h.built advances
  refine ⟨built, fun v v' site u shared => ?_⟩
  apply Agree.many advances advances' (Q := Loose v v') _ _ shared
  · intro u shared
    apply (h.agree v v' site u shared).mono
    rintro (a | _ | _) rest settled
    · apply settled
    · apply settled
    · apply settled
  · rintro _ ⟨lines, rest, rfl, blank, gone⟩
    induction lines with
    | nil => apply gone.leaves built site
    | cons w lines ih =>
      have tail := ih fun v member => blank v (by simp [member])
      rw [many_eq advances]
      apply Outcome.bind (J := fun r rest' => r = .skip ∧ rest' = lines ++ rest)
        (.reads (line site w (lines ++ rest) (blank w (by simp))) ⟨rfl, rfl⟩)
      rintro _ _ ⟨rfl, rfl⟩
      apply tail

include h in
theorem blockRound_alike :
  AlikeUpTo LooseRound (blockRound statement) (blockRound statement')
  := by
  apply Alike.peek.bind_upTo LooseRound.of_gone
  intro k
  split
  · apply (Alike.bind .advance fun _ => .pure _).upTo LooseRound.of_gone
  · apply (Alike.bind .advance fun _ => .pure _).upTo LooseRound.of_gone
  · apply (Alike.fail (by simp)).upTo LooseRound.of_gone
  · apply recovered_alike h

include h in
theorem programRound_alike :
  AlikeUpTo LooseRound (programRound statement) (programRound statement')
  := by
  apply Alike.peek.bind_upTo LooseRound.of_gone
  intro k
  split
  · apply (Alike.bind .advance fun _ => .pure _).upTo LooseRound.of_gone
  · apply (Alike.bind (.report (by simp)) fun _ => .bind .advance fun _ => .pure _).upTo
      LooseRound.of_gone
  · apply (Alike.pure _).upTo LooseRound.of_gone
  · apply recovered_alike h

variable (consumes : ∀ site ahead, ConsumesAt statement site ahead) (built' : Built statement')
  (consumes' : ∀ site ahead, ConsumesAt statement' site ahead)

include h built' consumes consumes'

theorem block_alike (others : KindSet) :
  Alike (block statement others) (block statement' others)
  := by
  apply Alike.bind (.expect _ _)
  intro _
  apply loop_alike (blockRound_alike h) (blockRound_advances h.built consumes)
    (blockRound_advances built' consumes') (blockRound_line statement)

theorem defDecl_alike :
  Alike (defDecl statement) (defDecl statement')
  := by
  apply Alike.bind .advance
  intro _
  apply Alike.bind (.expect _ _)
  intro name
  apply Alike.bind (.expect _ _)
  intro _
  apply Alike.bind parameters_alike
  intro params
  exact .bind (block_alike h consumes built' consumes' _) fun _ => .pure _

theorem whileStmt_alike {expr expr' : Rule Expr} (hexpr : Alike expr expr') :
  Alike (whileStmt expr statement) (whileStmt expr' statement')
  := by
  apply Alike.bind .advance
  intro _
  apply Alike.bind hexpr
  intro condition
  exact .bind (block_alike h consumes built' consumes' _) fun _ => .pure _

/-- The rest of an else branch, after the line ends before it. -/
theorem elseRest_alike :
  AlikeLoosely (do
    advance
    if ← sees .kwIf then
      return some [← statement]
    else
      return some (← block statement (.ofList [.kwIf]))) (do
    advance
    if ← sees .kwIf then
      return some [← statement']
    else
      return some (← block statement' (.ofList [.kwIf])))
  := by
  apply Alike.bind_loosely .advance
  intro _
  apply Alike.bind_loosely (.sees _)
  intro again
  split
  · apply AlikeLoosely.map h fun s => some [s]
  · apply (Alike.bind (block_alike h consumes built' consumes' _) fun _ => .pure _).loosely

theorem elseBranch_alike :
  AlikeLoosely (elseBranch statement) (elseBranch statement')
  := by
  have found : AlikeLoosely (do
      let _ ← many skipNewline
      advance
      if ← sees .kwIf then
        return some [← statement]
      else
        return some (← block statement (.ofList [.kwIf]))) (do
      let _ ← many skipNewline
      advance
      if ← sees .kwIf then
        return some [← statement']
      else
        return some (← block statement' (.ofList [.kwIf]))) := by
    apply Alike.bind_loosely _ fun _ => elseRest_alike h consumes built' consumes'
    apply Alike.many _ skipNewline_advances skipNewline_advances
    exact .bind (.sees _) fun _ => .ite (.bind .advance fun _ => .pure _) (.pure _)
  refine ⟨elseBranch_built h.built consumes, fun v v' site u shared => ?_⟩
  have same : hasElse (u ++ v) = hasElse (u ++ v') →
      Agree (fun _ => Loose v v') v v' (elseBranch statement) (elseBranch statement') site u := by
    intro decided
    cases ahead : hasElse (u ++ v) with
    | true =>
      apply Agree.congr _ _ (found.agree v v' site u shared)
      · apply elseAhead_run_true ahead
      · apply elseAhead_run_true (decided ▸ ahead)
    | false =>
      apply Agree.congr _ _ (Agree.pure none shared)
      · apply elseAhead_run_false ahead
      · apply elseAhead_run_false (decided ▸ ahead)
  by_cases both : v = [] ∧ v' = []
  · obtain ⟨rfl, rfl⟩ := both
    apply same rfl
  by_cases other : ∃ w ∈ u, w.token.kind ≠ .newline
  · apply same
    rw [hasElse_append other, hasElse_append other]
  have blank : ∀ w ∈ u, w.token.kind = .newline := by simpa using other
  refine .inr (.inr ?_)
  cases ahead : hasElse (u ++ v) with
  | false =>
    apply Outcome.congr (elseAhead_run_false ahead)
    exact .pure ⟨u, v, rfl, blank, List.suffix_refl v, both⟩
  | true =>
    apply Outcome.congr (elseAhead_run_true ahead)
    obtain ⟨lines, e, rest, split, blank', else'⟩ := (hasElse_iff _).mp ahead
    have gone := gone_of_blank both blank split (by simp [else'])
    rw [split]
    apply Outcome.bind (J := fun _ rest' => rest' = e :: rest)
      (.reads (skipNewlines_reads blank' (by simp [else'])) rfl)
    rintro _ _ rfl
    have left := gone.leaves (elseRest_alike h consumes built' consumes').built site
    apply left.loose

section

variable {expr expr' : Rule Expr} (hexpr : Alike expr expr')

include hexpr

theorem ifStmt_alike :
  AlikeLoosely (ifStmt expr statement) (ifStmt expr' statement')
  := by
  apply Alike.bind_loosely .advance
  intro _
  apply Alike.bind_loosely hexpr
  intro condition
  apply Alike.bind_loosely (block_alike h consumes built' consumes' _)
  intro thenBranch
  apply AlikeLoosely.map (elseBranch_alike h consumes built' consumes') _

/-- Whether a name is the target of an assignment is seen from the word after it. If that word is not
common to both inputs, the run gets past the name, because an expression that starts with a name uses
it up. -/
theorem statementOf_alike
    (name : ∀ v v' site (w : Word) ahead, w.token.kind = .identifier → Gone v v' ahead →
      Leaves (fun _ => Gone v v') v v' expr site (w :: ahead)) :
  AlikeLoosely (statementOf expr statement) (statementOf expr' statement')
  := by
  have assigns : Alike (assignment expr) (assignment expr') :=
    .bind .take fun _ => .bind .advance fun _ => exprEnded_alike hexpr _ _
  have plain : Alike (exprStmt expr) (exprStmt expr') := exprEnded_alike hexpr _ _
  refine ⟨statementOf_built hexpr.built h.built consumes, fun v v' site u shared => ?_⟩
  rcases u with _ | ⟨w, u⟩
  · obtain ⟨rfl, rfl⟩ := shared rfl
    exact .inl ⟨_, [], .fail (by simp) site []⟩
  apply Agree.peek_cons
  split
  · apply (varDecl_alike hexpr).loosely.agree v v' site _ shared
  · apply (defDecl_alike h consumes built' consumes').loosely.agree v v' site _ shared
  · apply (ifStmt_alike h consumes built' consumes' hexpr).agree v v' site _ shared
  · apply (whileStmt_alike h consumes built' consumes' hexpr).loosely.agree v v' site _ shared
  · apply (returnStmt_alike hexpr).loosely.agree v v' site _ shared
  · apply importStmt_alike.loosely.agree v v' site _ shared
  · apply (Alike.bind .advance fun _ => exprEnded_alike hexpr _ _).loosely.agree v v' site _ shared
  · cases Option.some.inj ‹some w.token.kind = _›
    apply Agree.lookahead_bind
    have others : Alike (if exprStart.contains w.token.kind then exprStmt expr else fail .noViable)
        (if exprStart.contains w.token.kind then exprStmt expr' else fail .noViable) :=
      .ite plain (.fail (by simp))
    rcases shared_or_gone v v' u with shared' | ⟨rfl, gone⟩
    · have same : (w :: u ++ v)[1]? = (w :: u ++ v')[1]? := by
        rcases u with _ | ⟨w', u⟩
        · obtain ⟨rfl, rfl⟩ := shared' rfl
          rfl
        · rfl
      rw [same]
      apply (Alike.ite assigns others).loosely.agree v v' site _ shared
    · by_cases ident : w.token.kind = .identifier
      · refine .inr (.inr (Leaves.loose ?_))
        split
        · apply Outcome.take_bind
          apply gone.leaves (.bind .advance fun _ => (exprEnded_alike hexpr _ _).built) site
        · rw [if_pos (by rw [ident]; decide)]
          apply (name v v' site w v ident gone).bind fun _ => (ended_alike _ _).built
      · simp only [ident, false_and, if_false]
        apply others.loosely.agree v v' site _ shared
  · apply (Alike.fail (by simp)).loosely.agree v v' site _ shared

end

end

/-- An expression that starts with a name uses it up. -/
theorem expr_leaves {v v' : List Word} {site : Site} {w : Word} {ahead : List Word} (n : Nat)
    (ident : w.token.kind = .identifier) (gone : Gone v v' ahead) :
  Leaves (fun _ => Gone v v') v v' (expr n) site (w :: ahead)
  := by
  have operand : Leaves (fun _ => Gone v v') v v' (unary n) site (w :: ahead) := by
    cases n with
    | zero => exact .fail (by simp) (.inl rfl)
    | succ n =>
      apply Outcome.deeper
      apply Outcome.peek_cons
      simp only [ident]
      apply Leaves.bind
      · apply Outcome.peek_cons
        simp only [ident]
        exact .take_bind (.pure gone)
      · exact fun _ => .bind (suffixes_built (unary_built n)) fun _ => .pure _
  have layers : ∀ m, Leaves (fun _ => Gone v v') v v' (layer (unary n) m) site (w :: ahead) := by
    intro m
    induction m with
    | zero => apply operand
    | succ m ih =>
      rw [layer_succ]
      apply ih.bind fun _ => .bind (tails_built (layer_built (unary_built n) m) _) fun _ => .pure _
  apply layers 6

theorem statement_alike (m n : Nat) :
  AlikeLoosely (statement m) (statement n)
  := by
  induction m generalizing n with
  | zero => apply (Alike.tooDeep _).loosely
  | succ m ih =>
    cases n with
    | zero =>
      have broken : Alike (statement (m + 1)) (statement 0) :=
        .breaks (statement_built _) fun site ahead => ⟨_, ahead, .fail (by simp) site ahead⟩
      apply broken.loosely
    | succ n =>
      have inner := statementOf_alike (ih n) (statement_consumes m) (statement_built n)
        (statement_consumes n) (expr_alike m n) fun v v' site w ahead => expr_leaves m
      refine ⟨statement_built _, fun v v' site u shared => ?_⟩
      apply inner.agree v v' ⟨site.finish, site.depth + 1⟩ u shared

/-- Documents that begin in the same way are read in the same way, whatever numbers of levels may be
entered. -/
theorem program_alike (m n : Nat) :
  Alike (program m) (program n)
  := loop_alike (programRound_alike (statement_alike m n)) (programRound_advances m)
    (programRound_advances n) (programRound_line (statement m))

end PlanetServer.Parse
