import PlanetServer.Proofs.Rule.Pieces

/-!
# Documents that go on

Lines that are appended to a document do not change what was reported for the lines before them. The
document may end inside a statement or block, and the new lines may go on with it, so the two runs may
part; but before they do, the run on the document alone has come to its end, and from there on it
reports nothing that names a token.

* `Rule.Sequel` is the end of the last line of a document, and what may come after it.
* `Rule.Lasts` compares a reply on the document alone with one on the document that goes on. Either
  both rules are still at the same word, and all that was reported is the same, or the first one is
  done with the document and all it has reported, except for the end of the document, is a part of
  what the second one reports.
* A conditional statement looks past line ends for an `else`. If only the longer document has one, the
  line ends are left by the first rule. `Rule.LastingUpTo` says after which answers line ends may
  be left.
-/

namespace PlanetServer.Rule

variable {α β : Type}

/-! ### Failures that name a token -/

/-- The failures that name a token: all but those at the end of the document. -/
def located (fs : List Failure) : List Failure :=
  fs.filter fun f => f.offending.isSome

theorem located_append (fs gs : List Failure) :
  located (fs ++ gs) = located fs ++ located gs
  := List.filter_append ..

theorem located_eq_self {fs : List Failure} (real : ∀ f ∈ fs, f.offending.isSome) :
  located fs = fs
  := List.filter_eq_self.mpr real

theorem isSome_of_mem_unreadable {f : Failure} {ts : List Token} (member : f ∈ unreadable ts) :
  f.offending.isSome
  := by
  obtain ⟨t, -, rfl⟩ := List.mem_map.mp member
  rfl

theorem isSome_of_mem_lexical {f : Failure} {ws : List Word} (member : f ∈ lexical ws) :
  f.offending.isSome
  := by
  obtain ⟨w, -, inside⟩ := List.mem_flatMap.mp member
  apply isSome_of_mem_unreadable inside

/-- At the end of the document no failure names a token. -/
theorem Built.located_nil {rule : Rule α} (built : Built rule) (site : Site) :
  located (rule site []).failures = []
  := by
  induction built generalizing site with
  | pure | look | take | advance | report | fail => rfl
  | attempt _ ih => apply ih
  | deeper _ ih => apply ih
  | @bind α β rule next first _ ih ih' =>
    have rest : (rule site []).rest = [] := List.suffix_nil.mp (first.suffix site [])
    rw [bind_run]
    split
    · apply ih
    · rw [located_append, ih, rest, ih']
      rfl
  | @many α round built advances ih =>
    have rest : (round site []).rest = [] := List.suffix_nil.mp (built.suffix site [])
    have last := advances site []
    rw [many_eq advances, bind_run]
    split
    · apply ih
    · rename_i r found
      rw [AdvancesAt, found, rest] at last
      obtain rfl : r = .stop := by simpa using last
      rw [located_append, ih]
      rfl

/-! ### Two documents -/

/-- The end of the last line of a document, and what may come after it. -/
structure Sequel where
  /-- The end of the last line. -/
  line : Token
  /-- It ends a line. -/
  ends : line.kind = .newline
  /-- The hidden tokens at the start of what comes after it. -/
  lead : List Token
  /-- The words of what comes after it. -/
  words : List Word

namespace Sequel

variable (q : Sequel)

/-- The words `s` and the end of the line, with nothing after them. -/
def short (s : List Word) : List Word :=
  s ++ [⟨q.line, []⟩]

/-- The words `s` and the end of the line, with what comes after them. -/
def long (s : List Word) : List Word :=
  s ++ ⟨q.line, q.lead⟩ :: q.words

theorem failureAt_short (cause : Cause) (finish finish' : Mark) (depth : Nat) (s : List Word) :
  failureAt cause ⟨finish, depth⟩ (q.short s) = failureAt cause ⟨finish', depth⟩ (q.long s)
  := by
  cases s
  · rfl
  · rfl

theorem isSome_failureAt (cause : Cause) (site : Site) (s : List Word) :
  (failureAt cause site (q.short s)).offending.isSome
  := by
  cases s
  · rfl
  · rfl

/-- The next word is of the same kind in both documents. -/
theorem head?_kinds (s : List Word) :
  ((q.long s).map fun w => w.token.kind).head? = ((q.short s).map fun w => w.token.kind).head?
  := by
  cases s
  · rfl
  · rfl

end Sequel

/-- What a rule leaves and reports when nothing but line ends are ahead. It reads all of them, or
leaves some of them and answers with one of the answers in `loose`. -/
structure Ends (loose : α → Prop) (reply : Reply α) (lines : List Word) : Prop where
  /-- All line ends were read, or the answer allows that some are left. -/
  done : reply.rest = [] ∨ ∃ a, reply.value = some a ∧ loose a
  /-- What is left are line ends. -/
  blank : ∀ w ∈ reply.rest, w.token.kind = .newline
  /-- Only the unreadable tokens behind line ends are reported. -/
  reported : located reply.failures ++ lexical reply.rest = lexical lines

/-- A reply on a document alone and one on the document that goes on. -/
inductive Lasts (q : Sequel) (loose : α → Prop) (reply reply' : Reply α) : Prop
  /-- Both are the same, and leave the same of the shorter document. -/
  | kept (value : Option α) (s : List Word) (failures : List Failure)
    (run : reply = ⟨value, q.short s, failures⟩) (run' : reply' = ⟨value, q.long s, failures⟩)
    (real : ∀ f ∈ failures, f.offending.isSome)
  /-- The first one leaves nothing but line ends, and what it reports is reported by the second one,
  with the unreadable tokens behind these line ends. -/
  | finished (done : reply.rest = [] ∨ ∃ a, reply.value = some a ∧ loose a)
    (blank : ∀ w ∈ reply.rest, w.token.kind = .newline)
    (reported : located reply.failures ++ lexical reply.rest <+: reply'.failures)

/-- The replies of a rule where the words `s` and the end of the line are left of the document. -/
def LastsAt (q : Sequel) (loose : α → Prop) (rule : Rule α) (s : List Word) : Prop :=
  ∀ finish finish' depth,
    Lasts q loose (rule ⟨finish, depth⟩ (q.short s)) (rule ⟨finish', depth⟩ (q.long s))

/-- The reports of a rule on a document stay when the document goes on. Line ends may be left unread
after the answers in `loose`. -/
structure LastingUpTo (q : Sequel) (loose : α → Prop) (rule : Rule α) : Prop where
  /-- The rule is built from the combinators. -/
  built : Built rule
  /-- The replies on both documents. -/
  lasts : ∀ s, LastsAt q loose rule s

/-- The reports of a rule on a document stay when the document goes on, and the rule reads the whole
document where it comes to its end. -/
def Lasting (q : Sequel) (rule : Rule α) : Prop :=
  LastingUpTo q (fun _ => False) rule

variable {q : Sequel}

theorem Built.ends {rule : Rule α} (built : Built rule) (loose : α → Prop) (site : Site) :
  Ends loose (rule site []) []
  := by
  have rest : (rule site []).rest = [] := List.suffix_nil.mp (built.suffix site [])
  constructor
  · left
    apply rest
  · simp [rest]
  · rw [built.located_nil, rest]
    rfl

theorem Ends.pure {a : α} {loose : α → Prop} (allowed : loose a) (site : Site) {lines : List Word}
    (blank : ∀ w ∈ lines, w.token.kind = .newline) :
  Ends loose ((pure a : Rule α) site lines) lines
  := ⟨.inr ⟨a, rfl, allowed⟩, blank, rfl⟩

theorem failures_prefix_bind (rule : Rule α) (next : α → Rule β) (site : Site) (ahead : List Word) :
  (rule site ahead).failures <+: ((rule >>= next) site ahead).failures
  := by
  rw [bind_run]
  split
  · apply List.prefix_refl
  · apply List.prefix_append

namespace Lasts

/-- A reply that has read the whole document and reports nothing. -/
theorem silent {loose : α → Prop} (a : α) (reply' : Reply α) :
  Lasts q loose ⟨some a, [], []⟩ reply'
  := by
  apply finished
  · left
    rfl
  · simp
  · apply List.nil_prefix

/-- Replies that report a failure of the next word. -/
theorem failureAt {loose : α → Prop} (value : Option α) (cause : Cause) (s : List Word)
    (finish finish' : Mark) (depth : Nat) :
  Lasts q loose ⟨value, q.short s, [failureAt cause ⟨finish, depth⟩ (q.short s)]⟩
    ⟨value, q.long s, [Rule.failureAt cause ⟨finish', depth⟩ (q.long s)]⟩
  := by
  rw [← q.failureAt_short cause finish finish']
  apply kept value s _ rfl rfl
  intro f member
  obtain rfl := List.mem_singleton.mp member
  apply q.isSome_failureAt

theorem mono {loose loose' : α → Prop} {reply reply' : Reply α} (h : Lasts q loose reply reply')
    (weaker : ∀ a, loose a → loose' a) :
  Lasts q loose' reply reply'
  := by
  cases h with
  | kept value s failures run run' real => exact .kept value s failures run run' real
  | finished done blank reported =>
    apply finished _ blank reported
    rcases done with rest | ⟨a, found, allowed⟩
    · left
      apply rest
    · right
      exact ⟨a, found, weaker a allowed⟩

end Lasts

namespace LastsAt

variable {loose : α → Prop} {loose' : β → Prop} {w : Word} {s : List Word}

/-- One rule after the other. Where the first one has left nothing but line ends, the second one has
to be done with them. -/
theorem bind {rule : Rule α} {next : α → Rule β} (h : LastsAt q loose rule s)
    (h' : ∀ a s' site, (rule site (q.short s)).value = some a →
      (rule site (q.short s)).rest = q.short s' → LastsAt q loose' (next a) s')
    (built : ∀ a, Built (next a))
    (ends : ∀ a, loose a → ∀ site lines, (∀ w ∈ lines, w.token.kind = .newline) →
      Ends loose' (next a site lines) lines) :
  LastsAt q loose' (rule >>= next) s
  := by
  intro finish finish' depth
  have more := failures_prefix_bind rule next ⟨finish', depth⟩ (q.long s)
  cases h finish finish' depth with
  | kept value s' failures run run' real =>
    rcases value with _ | a
    · rw [bind_of_none (by rw [run]), bind_of_none (by rw [run']), run, run']
      exact .kept none s' failures rfl rfl real
    · have second := h' a s' ⟨finish, depth⟩ (by rw [run]) (by rw [run])
      rw [bind_of_some (by rw [run]), bind_of_some (by rw [run']), run, run']
      cases second finish finish' depth with
      | kept value s'' failures' run run' real' =>
        simp only [run, run']
        apply Lasts.kept value s'' (failures ++ failures') rfl rfl
        intro f member
        rcases List.mem_append.mp member with member | member
        · apply real f member
        · apply real' f member
      | finished done blank reported =>
        apply Lasts.finished
        · apply done
        · apply blank
        · rw [located_append, located_eq_self real, List.append_assoc]
          apply (List.prefix_append_right_inj failures).mpr reported
  | finished done blank reported =>
    rcases found : (rule ⟨finish, depth⟩ (q.short s)).value with _ | a
    · have rest : (rule ⟨finish, depth⟩ (q.short s)).rest = [] := by simpa [found] using done
      rw [bind_of_none found]
      apply Lasts.finished
      · left
        apply rest
      · apply blank
      · apply reported.trans more
    · have second : Ends loose' (next a ⟨finish, depth⟩ (rule ⟨finish, depth⟩ (q.short s)).rest)
          (rule ⟨finish, depth⟩ (q.short s)).rest := by
        rcases done with rest | ⟨a', found', allowed⟩
        · rw [rest]
          apply (built a).ends
        · obtain rfl : a = a' := Option.some.inj (found.symm.trans found')
          apply ends a allowed _ _ blank
      rw [bind_of_some found]
      apply Lasts.finished
      · apply second.done
      · apply second.blank
      · rw [located_append, List.append_assoc, second.reported]
        apply reported.trans more

theorem congr {rule rule' : Rule α} (run : ∀ site, rule site (q.short s) = rule' site (q.short s))
    (run' : ∀ site, rule site (q.long s) = rule' site (q.long s)) (h : LastsAt q loose rule' s) :
  LastsAt q loose rule s
  := by
  intro finish finish' depth
  rw [run, run']
  apply h

theorem peek_nil {next : Option Kind → Rule α} (h : LastsAt q loose (next (some .newline)) []) :
  LastsAt q loose (peek >>= next) []
  := by
  apply congr _ _ h
  · intro site
    rw [Sequel.short, List.nil_append, peek_bind_cons, q.ends]
  · intro site
    rw [Sequel.long, List.nil_append, peek_bind_cons, q.ends]

theorem peek_cons {next : Option Kind → Rule α}
    (h : LastsAt q loose (next (some w.token.kind)) (w :: s)) :
  LastsAt q loose (peek >>= next) (w :: s)
  := h

/-- The word after the next one is of the same kind in both documents, unless the next one is the last
one of the shorter document. -/
theorem lookahead_bind {next : Option Kind → Rule α} (h : ∀ k, LastsAt q loose (next k) (w :: s)) :
  LastsAt q loose (lookahead 1 >>= next) (w :: s)
  := by
  rcases s with _ | ⟨w', s⟩
  · apply h (some q.line.kind)
  · apply h (some w'.token.kind)

end LastsAt

namespace LastingUpTo

variable {loose : α → Prop} {loose' : β → Prop}

theorem mono {loose' : α → Prop} {rule : Rule α} (h : LastingUpTo q loose rule)
    (weaker : ∀ a, loose a → loose' a) :
  LastingUpTo q loose' rule
  := ⟨h.built, fun s finish finish' depth => (h.lasts s finish finish' depth).mono weaker⟩

theorem bind {rule : Rule α} {next : α → Rule β} (h : LastingUpTo q loose rule)
    (h' : ∀ a, LastingUpTo q loose' (next a))
    (ends : ∀ a, loose a → ∀ site lines, (∀ w ∈ lines, w.token.kind = .newline) →
      Ends loose' (next a site lines) lines) :
  LastingUpTo q loose' (rule >>= next)
  where
  built := .bind h.built fun a => (h' a).built
  lasts s := by
    apply LastsAt.bind (h.lasts s) _ (fun a => (h' a).built) ends
    intro a s' _ _ _
    apply (h' a).lasts

theorem deeper {rule : Rule α} (h : LastingUpTo q loose rule) :
  LastingUpTo q loose (deeper rule)
  := ⟨.deeper h.built, fun s finish finish' depth => h.lasts s finish finish' (depth + 1)⟩

theorem attempt {rule : Rule α} (h : LastingUpTo q loose rule) :
  LastingUpTo q (fun a => ∃ b, a = some b ∧ loose b) (attempt rule)
  where
  built := .attempt h.built
  lasts s finish finish' depth := by
    unfold Rule.attempt
    cases h.lasts s finish finish' depth with
    | kept value s' failures run run' real =>
      rw [run, run']
      exact .kept (some value) s' failures rfl rfl real
    | finished done blank reported =>
      apply Lasts.finished
      · rcases done with rest | ⟨a, found, allowed⟩
        · left
          apply rest
        · right
          exact ⟨some a, congrArg some found, a, rfl, allowed⟩
      · apply blank
      · apply reported

end LastingUpTo

namespace Lasting

theorem upTo {rule : Rule α} (h : Lasting q rule) (loose : α → Prop) :
  LastingUpTo q loose rule
  := h.mono fun _ => False.elim

/-- One rule after the other. -/
theorem bind_upTo {loose : β → Prop} {rule : Rule α} {next : α → Rule β} (h : Lasting q rule)
    (h' : ∀ a, LastingUpTo q loose (next a)) :
  LastingUpTo q loose (rule >>= next)
  := LastingUpTo.bind h h' fun _ => False.elim

theorem bind {rule : Rule α} {next : α → Rule β} (h : Lasting q rule)
    (h' : ∀ a, Lasting q (next a)) :
  Lasting q (rule >>= next)
  := h.bind_upTo h'

theorem pure (a : α) :
  Lasting q (pure a)
  := ⟨.pure a, fun s _ _ _ => .kept (some a) s [] rfl rfl (by simp)⟩

/-- A rule that looks at nothing but the next word. -/
theorem look (f : Option Kind → α) :
  Lasting q (look fun ks => f ks.head?)
  where
  built := .look _
  lasts s finish finish' depth := by
    unfold Rule.look
    dsimp only
    rw [q.head?_kinds]
    exact .kept _ s [] rfl rfl (by simp)

theorem peek : Lasting q peek := by
  have lasting : Lasting q _ := look id
  rw [Rule.peek, lookahead_eq_look]
  simpa [List.head?_eq_getElem?] using lasting

theorem sees (k : Kind) : Lasting q (sees k) := by
  rw [sees_eq_look]
  apply look fun k' => k'.any fun k' => k' = k

theorem take : Lasting q take where
  built := .take
  lasts s finish finish' depth := by
    rcases s with _ | ⟨w, s⟩
    · exact .silent _ _
    · exact .kept (some w.token.text) s _ rfl rfl fun _ => isSome_of_mem_unreadable

theorem advance : Lasting q advance where
  built := .advance
  lasts s finish finish' depth := by
    rcases s with _ | ⟨w, s⟩
    · exact .silent _ _
    · exact .kept (some ()) s _ rfl rfl fun _ => isSome_of_mem_unreadable

theorem report {cause : Cause} (real : cause ≠ .unreadable) :
  Lasting q (report cause)
  where
  built := .report real
  lasts s finish finish' depth := .failureAt (some ()) cause s finish finish' depth

theorem fail {cause : Cause} (real : cause ≠ .unreadable) :
  Lasting q (fail cause : Rule α)
  where
  built := .fail real
  lasts s finish finish' depth := .failureAt none cause s finish finish' depth

theorem ite {rule rule' : Rule α} {p : Prop} [Decidable p] (h : Lasting q rule)
    (h' : Lasting q rule') :
  Lasting q (if p then rule else rule')
  := by
  split
  · apply h
  · apply h'

theorem expect (k : Kind) (others : KindSet) :
  Lasting q (expect k others)
  := bind (sees k) fun _ => ite take (fail (by simp))

/-- A repetition. If a round leaves line ends, the repetition has to read them. The induction is on
the words that are left. -/
theorem many_upTo {loose : Round α → Prop} {round : Rule (Round α)} (h : LastingUpTo q loose round)
    (advances : Advances round)
    (ends : ∀ r, loose r → r ≠ .stop ∧ ∀ site lines, (∀ w ∈ lines, w.token.kind = .newline) →
      Ends (fun _ => False) (many round site lines) lines) :
  Lasting q (many round)
  where
  built := .many h.built advances
  lasts s := by
    have built : Built (Rule.many round) := .many h.built advances
    induction length : s.length using Nat.strongRecOn generalizing s with
    | _ length' ih =>
      subst length
      rw [many_eq advances]
      apply LastsAt.bind (h.lasts s)
      · intro r s' site found rest
        have shorter := advances site (q.short s)
        rw [AdvancesAt, found, rest] at shorter
        rcases r with a | _ | _
        · have tail := ih s'.length (by simpa [Sequel.short] using shorter) s' rfl
          apply LastsAt.bind tail _ (fun _ => .pure _) fun _ => False.elim
          intro as s'' _ _ _
          apply (pure (a :: as)).lasts
        · apply ih s'.length (by simpa [Sequel.short] using shorter) s' rfl
        · apply (pure []).lasts
      · exact built.many_next
      · intro r allowed site lines blank
        obtain ⟨more, tail⟩ := ends r allowed
        have tail := tail site lines blank
        rcases r with a | _ | _
        · simp only [bind_pure_run]
          constructor
          · left
            simpa using tail.done
          · apply tail.blank
          · apply tail.reported
        · apply tail
        · apply absurd rfl more

theorem many {round : Rule (Round α)} (h : Lasting q round) (advances : Advances round) :
  Lasting q (many round)
  := many_upTo h advances fun _ => False.elim

theorem following {item : Rule α} (divider : Kind) (h : Lasting q item) :
  Lasting q (following divider item)
  := by
  apply many _ (Parse.following_advances h.built divider)
  apply bind (sees divider) fun _ => ite (bind advance fun _ => bind h fun _ => pure _) (pure _)

end Lasting

end PlanetServer.Rule

namespace PlanetServer.Parse

open Rule

variable {q : Sequel}

/-! ### Expressions -/

section

variable {operand : Rule Expr} (h : Lasting q operand)

include h

theorem layer_lasting (n : Nat) :
  Lasting q (layer operand n)
  := by
  induction n with
  | zero => apply h
  | succ n ih =>
    rw [layer_succ]
    apply Lasting.bind ih
    intro lhs
    apply Lasting.bind _ fun _ => .pure _
    apply Lasting.many _ (tail_advances ih.built _)
    apply Lasting.bind .peek
    intro k
    split
    · exact .ite (.bind .advance fun _ => .bind ih fun _ => .pure _) (.pure _)
    · exact .pure _

theorem exprOf_lasting :
  Lasting q (exprOf operand)
  := layer_lasting h 6

theorem arguments_lasting :
  Lasting q (arguments operand)
  := by
  apply Lasting.bind (.sees _)
  intro closed
  apply Lasting.ite
  · exact .bind .advance fun _ => .pure _
  · apply Lasting.bind (exprOf_lasting h)
    intro head
    apply Lasting.bind (.following _ (exprOf_lasting h))
    intro tail
    exact .bind (.expect _ _) fun _ => .pure _

theorem primary_lasting :
  Lasting q (primary operand)
  := by
  apply Lasting.bind .peek
  intro k
  split
  · exact .bind .take fun _ => .pure _
  · exact .bind .take fun _ => .pure _
  · exact .bind .take fun _ => .pure _
  · exact .bind .advance fun _ => .pure _
  · exact .bind .advance fun _ => .pure _
  · apply Lasting.bind .advance
    intro _
    apply Lasting.bind (exprOf_lasting h)
    intro inner
    exact .bind (.expect _ _) fun _ => .pure _
  · exact .fail (by simp)

theorem suffixed_lasting :
  Lasting q (suffixed operand)
  := by
  apply Lasting.bind (primary_lasting h)
  intro head
  apply Lasting.bind _ fun _ => .pure _
  apply Lasting.many _ (suffix_advances h.built)
  apply Lasting.bind .peek
  intro k
  split
  · exact .bind .advance fun _ => .bind (arguments_lasting h) fun _ => .pure _
  · exact .bind .advance fun _ => .bind (.expect _ _) fun _ => .pure _
  · exact .pure _

end

theorem unary_lasting (n : Nat) :
  Lasting q (unary n)
  := by
  induction n with
  | zero => exact .fail (by simp)
  | succ n ih =>
    apply LastingUpTo.deeper
    apply Lasting.bind .peek
    intro k
    split
    · exact .bind .advance fun _ => .bind ih fun _ => .pure _
    · exact .bind .advance fun _ => .bind ih fun _ => .pure _
    · apply suffixed_lasting ih

theorem expr_lasting (n : Nat) :
  Lasting q (expr n)
  := exprOf_lasting (unary_lasting n)

/-! ### Statements without statements inside -/

theorem terminator_lasting (others : KindSet) :
  Lasting q (terminator others)
  := by
  apply Lasting.bind .peek
  intro k
  split
  · exact .advance
  · exact .advance
  · exact .pure _
  · exact .pure _
  · exact .fail (by simp)

theorem ended_lasting (others : KindSet) (s : Stmt) :
  Lasting q (do
    terminator others
    return s)
  := .bind (terminator_lasting others) fun _ => .pure _

theorem synchronize_lasting :
  Lasting q synchronize
  := by
  apply Lasting.bind
  · apply Lasting.many _ skipWord_advances
    apply Lasting.bind .peek
    intro k
    split
    · exact .pure _
    · exact .pure _
    · exact .pure _
    · exact .pure _
    · exact .bind .advance fun _ => .pure _
  · intro _
    apply Lasting.bind .peek
    intro k
    split
    · exact .advance
    · exact .advance
    · exact .pure _

section

variable {expr : Rule Expr} (h : Lasting q expr)

include h

theorem exprEnded_lasting (others : KindSet) (s : Expr → Stmt) :
  Lasting q (do
    let e ← expr
    terminator others
    return s e)
  := .bind h fun _ => ended_lasting _ _

theorem varDecl_lasting :
  Lasting q (varDecl expr)
  := by
  apply Lasting.bind .advance
  intro _
  apply Lasting.bind (.expect _ _)
  intro name
  apply Lasting.bind (.sees _)
  intro assigns
  apply Lasting.ite
  · exact .bind .advance fun _ => exprEnded_lasting h _ _
  · apply ended_lasting

theorem returnStmt_lasting :
  Lasting q (returnStmt expr)
  := by
  apply Lasting.bind .advance
  intro _
  apply Lasting.bind .peek
  intro k
  exact .ite (exprEnded_lasting h _ _) (ended_lasting _ _)

end

theorem importStmt_lasting :
  Lasting q importStmt
  := by
  apply Lasting.bind .advance
  intro _
  apply Lasting.bind (.expect _ _)
  intro head
  apply Lasting.bind (.following _ (.expect _ _))
  intro tail
  apply ended_lasting

theorem parameters_lasting :
  Lasting q parameters
  := by
  apply Lasting.bind (.sees _)
  intro named
  apply Lasting.ite
  · apply Lasting.bind .take
    intro head
    apply Lasting.bind (.following _ (.expect _ _))
    intro tail
    exact .bind (.expect _ _) fun _ => .pure _
  · exact .bind (.expect _ _) fun _ => .pure _

/-! ### Blocks -/

/-- What is read where an `else` is ahead. -/
def elseFound (statement : Rule Stmt) : Rule (Option (List Stmt)) := do
  let _ ← many skipNewline
  advance
  if ← sees .kwIf then
    return some [← statement]
  else
    return some (← block statement (.ofList [.kwIf]))

section

variable {statement : Rule Stmt} (h : LastingUpTo q (fun _ => True) statement)

include h

theorem recovered_lasting :
  LastingUpTo q (fun r => r ≠ .stop) (recovered statement)
  := by
  apply LastingUpTo.bind h.attempt
  · rintro (_ | s)
    · apply Lasting.upTo
      exact .bind synchronize_lasting fun _ => .pure _
    · apply (Lasting.pure _).upTo
  · rintro _ ⟨s, rfl, -⟩ site lines blank
    apply Ends.pure nofun site blank

omit h in
/-- A repetition of statements reads the line ends that a statement has left. -/
theorem loop_lasting {round : Rule (Round Stmt)} (h : LastingUpTo q (fun r => r ≠ .stop) round)
    (advances : Advances round)
    (line : ∀ site (w : Word) ahead, w.token.kind = .newline →
      Reads round site (w :: ahead) .skip ahead) :
  Lasting q (many round)
  := by
  have built : Built (many round) := .many h.built advances
  apply Lasting.many_upTo h advances
  intro r more
  use more
  intro site lines blank
  induction lines with
  | nil => apply built.ends
  | cons w lines ih =>
    have tail := ih fun v member => blank v (List.mem_cons_of_mem w member)
    have split : w :: lines = [w] ++ lines := rfl
    have run := (line site w lines (blank w (List.mem_cons_self ..))).run_eq h.built split
    rw [many_of_skip advances run]
    constructor
    · left
      simpa using tail.done
    · apply tail.blank
    · rw [located_append, located_eq_self fun _ => isSome_of_mem_lexical, List.append_assoc,
        tail.reported, ← lexical_append]
      rfl

theorem blockRound_lasting :
  LastingUpTo q (fun r => r ≠ .stop) (blockRound statement)
  := by
  apply Lasting.bind_upTo .peek
  intro k
  split
  · apply (Lasting.bind .advance fun _ => .pure _).upTo
  · apply (Lasting.bind .advance fun _ => .pure _).upTo
  · apply (Lasting.fail (by simp)).upTo
  · apply recovered_lasting h

theorem programRound_lasting :
  LastingUpTo q (fun r => r ≠ .stop) (programRound statement)
  := by
  apply Lasting.bind_upTo .peek
  intro k
  split
  · apply (Lasting.bind .advance fun _ => .pure _).upTo
  · apply (Lasting.bind (.report (by simp)) fun _ => .bind .advance fun _ => .pure _).upTo
  · apply (Lasting.pure _).upTo
  · apply recovered_lasting h

variable (consumes : ∀ site ahead, ConsumesAt statement site ahead)

include consumes

theorem block_lasting (others : KindSet) :
  Lasting q (block statement others)
  := by
  apply Lasting.bind (.expect _ _)
  intro _
  apply loop_lasting (blockRound_lasting h) (blockRound_advances h.built consumes)
    (blockRound_line statement)

theorem defDecl_lasting :
  Lasting q (defDecl statement)
  := by
  apply Lasting.bind .advance
  intro _
  apply Lasting.bind (.expect _ _)
  intro name
  apply Lasting.bind (.expect _ _)
  intro _
  apply Lasting.bind parameters_lasting
  intro params
  exact .bind (block_lasting h consumes _) fun _ => .pure _

theorem whileStmt_lasting {expr : Rule Expr} (hexpr : Lasting q expr) :
  Lasting q (whileStmt expr statement)
  := by
  apply Lasting.bind .advance
  intro _
  apply Lasting.bind hexpr
  intro condition
  exact .bind (block_lasting h consumes _) fun _ => .pure _

theorem elseFound_lasting :
  LastingUpTo q (fun _ => True) (elseFound statement)
  := by
  have newlines : Lasting q (many skipNewline) := by
    apply Lasting.many _ skipNewline_advances
    exact .bind (.sees _) fun _ => .ite (.bind .advance fun _ => .pure _) (.pure _)
  apply newlines.bind_upTo
  intro _
  apply Lasting.bind_upTo .advance
  intro _
  apply Lasting.bind_upTo (.sees _)
  intro again
  split
  · apply LastingUpTo.bind h fun s => (Lasting.pure _).upTo _
    intro s _ site lines blank
    apply Ends.pure trivial site blank
  · apply (Lasting.bind (block_lasting h consumes _) fun _ => .pure _).upTo

omit h consumes in
/-- The unreadable tokens behind the line ends before an `else` are reported first. -/
theorem elseFound_reports (statement : Rule Stmt) {s : List Word}
    (blank : ∀ w ∈ s, w.token.kind = .newline) (found : hasElse (q.long s) = true) (site : Site) :
  lexical (q.short s) <+: (elseFound statement site (q.long s)).failures
  := by
  have later : hasElse q.words = true := by
    rwa [Sequel.long, hasElse_lines blank, hasElse_newline q.ends] at found
  obtain ⟨lines, e, rest, words, blank', else'⟩ := (hasElse_iff _).mp later
  have split : q.long s = (s ++ ⟨q.line, q.lead⟩ :: lines) ++ e :: rest := by
    simp [Sequel.long, words]
  have newlines : many skipNewline site (q.long s)
      = ⟨some [], e :: rest, lexical (s ++ ⟨q.line, q.lead⟩ :: lines)⟩ := by
    rw [split]
    apply (skipNewlines_reads _ _).run_eq skipNewlines_built rfl
    · intro w member
      rcases List.mem_append.mp member with before | after
      · apply blank w before
      · rcases List.mem_cons.mp after with rfl | after
        · apply q.ends
        · apply blank' w after
    · simp [else']
  apply List.IsPrefix.trans _ (failures_prefix_bind (many skipNewline) _ site (q.long s))
  have bare : lexical (q.short s) = lexical s := by
    rw [Sequel.short, lexical_append]
    apply List.append_nil
  rw [newlines, bare, lexical_append]
  apply List.prefix_append

/-- Where the rest of the document is nothing but line ends, and only the longer document has an
`else` after them, the run on the shorter one leaves the line ends, and the other one reports what is
behind them. -/
theorem elseBranch_lasting :
  LastingUpTo q (fun _ => True) (elseBranch statement)
  where
  built := elseBranch_built h.built consumes
  lasts s := by
    have same : hasElse (q.short s) = hasElse (q.long s) →
        LastsAt q (fun _ => True) (elseBranch statement) s := by
      intro decided
      cases ahead : hasElse (q.short s) with
      | true =>
        apply LastsAt.congr _ _ ((elseFound_lasting h consumes).lasts s)
        · exact fun site => elseAhead_run_true ahead
        · exact fun site => elseAhead_run_true (decided ▸ ahead)
      | false =>
        apply LastsAt.congr _ _ (((Lasting.pure none).upTo _).lasts s)
        · exact fun site => elseAhead_run_false ahead
        · exact fun site => elseAhead_run_false (decided ▸ ahead)
    by_cases other : ∃ w ∈ s, w.token.kind ≠ .newline
    · apply same
      rw [Sequel.short, Sequel.long, hasElse_append other, hasElse_append other]
    have blank : ∀ w ∈ s, w.token.kind = .newline := by simpa using other
    have none : hasElse (q.short s) = false := by
      rw [Sequel.short, hasElse_lines blank, hasElse_newline q.ends]
      rfl
    cases ahead : hasElse (q.long s) with
    | false => apply same (none.trans ahead.symm)
    | true =>
      intro finish finish' depth
      have reported := elseFound_reports statement blank ahead ⟨finish', depth⟩
      rw [elseBranch, elseAhead_run_false none, elseAhead_run_true ahead]
      apply Lasts.finished
      · right
        exact ⟨_, rfl, trivial⟩
      · simpa [Pure.pure, Rule.pure, Sequel.short, or_imp, forall_and, q.ends] using blank
      · apply reported

theorem ifStmt_lasting {expr : Rule Expr} (hexpr : Lasting q expr) :
  LastingUpTo q (fun _ => True) (ifStmt expr statement)
  := by
  apply Lasting.bind_upTo .advance
  intro _
  apply Lasting.bind_upTo hexpr
  intro condition
  apply Lasting.bind_upTo (block_lasting h consumes _)
  intro thenBranch
  apply LastingUpTo.bind (elseBranch_lasting h consumes) fun _ => (Lasting.pure _).upTo _
  intro branch _ site lines blank
  apply Ends.pure trivial site blank

/-- Whether a name is the target of an assignment is seen from the word after it, which is of the same
kind in both documents. -/
theorem statementOf_lasting {expr : Rule Expr} (hexpr : Lasting q expr) :
  LastingUpTo q (fun _ => True) (statementOf expr statement)
  where
  built := statementOf_built hexpr.built h.built consumes
  lasts s := by
    rcases s with _ | ⟨w, s⟩
    · apply LastsAt.peek_nil
      apply ((Lasting.fail (by simp)).upTo _).lasts []
    · apply LastsAt.peek_cons
      split
      · apply ((varDecl_lasting hexpr).upTo _).lasts
      · apply ((defDecl_lasting h consumes).upTo _).lasts
      · apply (ifStmt_lasting h consumes hexpr).lasts
      · apply ((whileStmt_lasting h consumes hexpr).upTo _).lasts
      · apply ((returnStmt_lasting hexpr).upTo _).lasts
      · apply (importStmt_lasting.upTo _).lasts
      · apply ((Lasting.bind .advance fun _ => exprEnded_lasting hexpr _ _).upTo _).lasts
      · apply LastsAt.lookahead_bind
        intro k
        have assigns : Lasting q (assignment expr) :=
          .bind .take fun _ => .bind .advance fun _ => exprEnded_lasting hexpr _ _
        have plain : Lasting q (exprStmt expr) := exprEnded_lasting hexpr _ _
        apply ((Lasting.ite assigns (.ite plain (.fail (by simp)))).upTo _).lasts
      · apply ((Lasting.fail (by simp)).upTo _).lasts

end

theorem statement_lasting (n : Nat) :
  LastingUpTo q (fun _ => True) (statement n)
  := by
  induction n with
  | zero => apply (Lasting.fail (by simp)).upTo
  | succ n ih =>
    apply LastingUpTo.deeper
    apply statementOf_lasting ih (statement_consumes n) (expr_lasting n)

/-! ### Documents -/

theorem program_lasting (n : Nat) :
  Lasting q (program n)
  := loop_lasting (programRound_lasting (statement_lasting n)) (programRound_advances n)
    (programRound_line (statement n))

end PlanetServer.Parse

namespace PlanetServer.Program

open Rule

/-- A stream that ends with the end of a line, and one that goes on after it. -/
theorem ofStreamWithin_failures_stay (levels : Nat) {t : Token} (line : t.kind = .newline)
    (ts us : List Token) (finish finish' : Mark) :
  located (ofStreamWithin levels ⟨ts ++ [t], finish⟩).failures
    <+: (ofStreamWithin levels ⟨ts ++ t :: us, finish'⟩).failures
  := by
  have shown : t.isHidden = false := by
    rw [Token.isHidden, line]
    rfl
  obtain ⟨lead, s, gathered⟩ := Word.gather_append shown ts
  let q : Sequel := ⟨t, line, (Word.gather us).1, (Word.gather us).2⟩
  have short : (ofStreamWithin levels ⟨ts ++ [t], finish⟩).failures
      = unreadable lead ++ (Parse.program levels ⟨finish, 0⟩ (q.short s)).failures := by
    rw [ofStreamWithin, gathered]
    rfl
  have long : (ofStreamWithin levels ⟨ts ++ t :: us, finish'⟩).failures
      = unreadable lead ++ (Parse.program levels ⟨finish', 0⟩ (q.long s)).failures := by
    rw [ofStreamWithin, gathered]
    rfl
  rw [short, long, located_append, located_eq_self fun _ => isSome_of_mem_unreadable]
  apply (List.prefix_append_right_inj _).mpr
  cases (Parse.program_lasting levels).lasts s finish finish' 0 with
  | kept value s' failures run run' real =>
    have all := located_eq_self real
    rw [run, run']
    use []
    rw [all, List.append_nil]
  | finished done blank reported =>
    apply List.IsPrefix.trans _ reported
    apply List.prefix_append

/-- Lines that are appended to a document do not change what was reported for the lines before them:
the failures of the document that name a token come first in the longer document, as they were. The
document may end inside a statement or block, and the new lines may go on with it. -/
theorem failures_stay (a b : String) (ends : a.toList.getLast? = some '\n') :
  (ofText a).failures.filter (fun f => f.offending.isSome) <+: (ofText (a ++ b)).failures
  := by
  obtain ⟨ts, t, split, line⟩ := Stream.ofText_ends ends
  have short : Stream.ofText a = ⟨ts ++ [t], (Stream.ofText a).finish⟩ := by rw [← split]
  have long : Stream.ofText (a ++ b) = ⟨ts ++ t :: (Stream.ofText b).tokens.map
      (Token.shift (Stream.ofText a).tokens.length (Lexeme.lineEnds a.toList)),
      (Stream.ofText (a ++ b)).finish⟩ := by
    rw [Stream.ofText_append ends]
    nth_rewrite 1 [split]
    rw [List.append_assoc]
    rfl
  rw [ofText, ofText, ofStream, ofStream, short, long]
  apply ofStreamWithin_failures_stay _ line

/-- A broken statement in a conditional statement and unreadable input behind it, before and after an
`else` is appended. -/
theorem failures_stay_else :
  "if x \x7b\nvar 1\n\x7d\n$\n".toList.getLast? = some '\n'
    ∧ (ofText "if x \x7b\nvar 1\n\x7d\n$\n").failures.length = 2
    ∧ (ofText "if x \x7b\nvar 1\n\x7d\n$\n").failures
      <+: (ofText ("if x \x7b\nvar 1\n\x7d\n$\n" ++ "else )")).failures
  := by
  have ends : "if x \x7b\nvar 1\n\x7d\n$\n".toList.getLast? = some '\n' := by decide +kernel
  have all : (ofText "if x \x7b\nvar 1\n\x7d\n$\n").failures.filter (fun f => f.offending.isSome)
      = (ofText "if x \x7b\nvar 1\n\x7d\n$\n").failures := by decide +kernel
  have stay := failures_stay _ "else )" ends
  rw [all] at stay
  exact ⟨ends, by decide +kernel, stay⟩

end PlanetServer.Program
