import PlanetServer.Proofs.Rule.Recovery

/-!
# Precedence climbing

The rules for expressions are layered, with a repetition for the operators of each rank. Precedence
climbing has one repetition for the operators from a rank on, and the right operand of each of them takes
the operators that are tighter. Both do the same on all words, failures included.

* `Parse.climb` is precedence climbing.
* `Parse.ascents_eq` splits its repetition: first come the operators that are tighter than the rank, and
  then those of the rank.
* `Parse.expr_eq_climb` says that expressions are read by precedence climbing.
-/

namespace PlanetServer

open Rule

theorem Kind.rank?_bounds {k : Kind} {r : Nat} (found : k.rank? = some r) :
  1 ≤ r ∧ r ≤ 6
  := by
  have all : ∀ k : Kind, ∀ r ∈ k.rank?, 1 ≤ r ∧ r ≤ 6 := by decide
  apply all k r found

namespace Parse

/-- Expressions in which no operator outside parentheses is looser than a rank. The right operand of an
operator takes the operators that are tighter. -/
def climb (operand : Rule Expr) (least : Nat) : Rule Expr := do
  let lhs ← operand
  let tails ← many do
    match ← peek with
    | some op =>
      match found : op.rank? with
      | some r =>
        if h : least ≤ r then
          advance
          return .item (op, ← climb operand (r + 1))
        else
          return .stop
      | none => return .stop
    | none => return .stop
  return tails.foldl joinOperand lhs
termination_by 7 - least
decreasing_by
  have bounds := Kind.rank?_bounds found
  omega

/-- One round of the operators from a rank on and their right operands. -/
def ascent (operand : Rule Expr) (least : Nat) : Rule (Round (Kind × Expr)) := do
  match ← peek with
  | some op =>
    match op.rank? with
    | some r =>
      if least ≤ r then
        advance
        return .item (op, ← climb operand (r + 1))
      else
        return .stop
    | none => return .stop
  | none => return .stop

/-- A step of precedence climbing, with its round named. -/
theorem climb_eq (operand : Rule Expr) (least : Nat) :
  climb operand least = (do
    let lhs ← operand
    let tails ← many (ascent operand least)
    return tails.foldl joinOperand lhs)
  := by
  rw [climb, ascent]
  congr 1
  funext lhs
  congr 3
  funext k
  cases k with
  | none => rfl
  | some op =>
    dsimp only
    split
    · next r found => simp only [found, dite_eq_ite]
    · next found => simp only [found]

/-! ### One round -/

/-- What is read from an operator and its right operand. -/
def operatorReply (op : Word) (right : Reply Expr) : Reply (Round (Kind × Expr)) :=
  ⟨right.value.map fun e => .item (op.token.kind, e), right.rest, unreadable op.trail ++ right.failures⟩

variable {operand : Rule Expr} {site : Site} {ahead : List Word} {w : Word} {least r : Nat}

theorem operator_run (op : Kind) (operand : Rule Expr) (found : w.token.kind = op) :
  (advance >>= fun _ => do return Round.item (op, ← operand)) site (w :: ahead)
    = operatorReply w (operand site ahead)
  := by
  rw [bind_of_some rfl]
  dsimp only [advance]
  rw [bind_pure_run, operatorReply, found]

/-- No operator from a rank on is next. -/
def Below (least : Nat) (ahead : List Word) : Prop :=
  ∀ w ∈ ahead.head?, ∀ r ∈ w.token.kind.rank?, r < least

/-- The next word is such an operator or not. -/
theorem below_or_operator (least : Nat) (ahead : List Word) :
  Below least ahead ∨ ∃ w rest r, ahead = w :: rest ∧ w.token.kind.rank? = some r ∧ least ≤ r
  := by
  rcases ahead with _ | ⟨w, ahead⟩
  · left
    rintro _ ⟨⟩
  · cases found : w.token.kind.rank? with
    | none =>
      left
      rintro _ ⟨⟩ r known
      rw [found] at known
      cases known
    | some r =>
      rcases Nat.lt_or_ge r least with below | tight
      · left
        rintro _ ⟨⟩ r' known
        rw [found] at known
        cases known
        exact below
      · exact .inr ⟨w, ahead, r, rfl, found, tight⟩

theorem ascent_of_below (below : Below least ahead) :
  ascent operand least site ahead = ⟨some .stop, ahead, []⟩
  := by
  cases ahead with
  | nil => rfl
  | cons w ahead =>
    rw [ascent, peek_bind_cons]
    cases found : w.token.kind.rank? with
    | none =>
      simp only [found]
      rfl
    | some r =>
      simp only [found, if_neg (Nat.not_le_of_lt (below w rfl r found))]
      rfl

theorem ascent_operator (found : w.token.kind.rank? = some r) (tight : least ≤ r) :
  ascent operand least site (w :: ahead) = operatorReply w (climb operand (r + 1) site ahead)
  := by
  rw [ascent, peek_bind_cons]
  simp only [found, if_pos tight]
  apply operator_run _ _ rfl

theorem tail_of_below (below : Below r ahead) :
  tail r operand site ahead = ⟨some .stop, ahead, []⟩
  := by
  cases ahead with
  | nil => rfl
  | cons w ahead =>
    have other : w.token.kind.rank? ≠ some r := fun found => Nat.lt_irrefl r (below w rfl r found)
    rw [tail, peek_bind_cons]
    simp only [if_neg other]
    rfl

theorem tail_operator (found : w.token.kind.rank? = some r) :
  tail r operand site (w :: ahead) = operatorReply w (operand site ahead)
  := by
  rw [tail, peek_bind_cons]
  simp only [if_pos found]
  apply operator_run _ _ rfl

/-! ### What climbing is built from -/

section

variable (right : ∀ k r, Kind.rank? k = some r → least ≤ r → Built (climb operand (r + 1)))

include right

theorem ascent_built :
  Built (ascent operand least)
  := by
  apply Built.bind .peek
  rintro (_ | op)
  · apply Built.pure
  · cases found : op.rank? with
    | none =>
      simp only [found]
      apply Built.pure
    | some r =>
      simp only [found]
      split
      · exact .bind .advance fun _ => .bind (right op r found ‹_›) fun _ => .pure _
      · apply Built.pure

theorem ascent_advances :
  Advances (ascent operand least)
  := by
  intro site ahead
  rcases below_or_operator least ahead with below | ⟨w, ahead, r, rfl, found, tight⟩
  · rw [AdvancesAt, ascent_of_below below]
    exact .inr (.inl rfl)
  · rw [AdvancesAt, ascent_operator found tight]
    exact .inr (.inr (Nat.lt_succ_of_le ((right _ r found tight).suffix site ahead).length_le))

end

theorem climb_built (built : Built operand) (least : Nat) :
  Built (climb operand least)
  := by
  induction least using climb.induct with
  | case1 least ih =>
    rw [climb_eq]
    exact .bind built fun _ => .bind (.many (ascent_built ih) (ascent_advances ih)) fun _ => .pure _

theorem climb_advances (built : Built operand) (least : Nat) :
  Advances (ascent operand least)
  := ascent_advances fun _ _ _ _ => climb_built built _

/-! ### One rank after the other -/

/-- Behind an expression there is no operator that it could have gone on with. -/
theorem below_of_climb (built : Built operand) {e : Expr}
    (answer : (climb operand least site ahead).value = some e) :
  Below least (climb operand least site ahead).rest
  := by
  rw [climb_eq] at answer ⊢
  cases first : (operand site ahead).value with
  | none =>
    rw [bind_of_none first] at answer
    cases answer
  | some lhs =>
    rw [bind_of_some first] at answer ⊢
    simp only [bind_pure_run] at answer ⊢
    obtain ⟨tails, found, -⟩ := Option.map_eq_some_iff.mp answer
    obtain ⟨before, last, rest⟩ := many_ends (climb_advances built least) site _ tails found
    rcases below_or_operator least before with below | ⟨w, before, r, rfl, rank, tight⟩
    · rw [ascent_of_below below] at rest
      rwa [← rest]
    · rw [ascent_operator rank tight] at last
      obtain ⟨e, -, none⟩ := Option.map_eq_some_iff.mp last
      cases none

/-- The operators from a rank on with their right operands in two stages: first those that are tighter,
and then those of the rank, with the tighter ones on their right. -/
def stages (operand : Rule Expr) (rank : Nat) : Rule (List (Kind × Expr)) := do
  let tighter ← many (ascent operand (rank + 1))
  let others ← many (tail rank (climb operand (rank + 1)))
  return tighter ++ others

/-- Where the tighter operators end, those of the rank are left. -/
theorem stages_of_below (built : Built operand) (below : Below (r + 1) ahead) :
  stages operand r site ahead = many (tail r (climb operand (r + 1))) site ahead
  := by
  have none : many (ascent operand (r + 1)) site ahead = _ :=
    many_of_stop (climb_advances built (r + 1)) (ascent_of_below below)
  rw [stages, bind_of_some (congrArg Reply.value none), none]
  simp only [List.nil_append, bind_pure]

theorem stages_of_item (built : Built operand) {x : Kind × Expr} {rest : List Word}
    {failures : List Failure}
    (run : ascent operand (r + 1) site ahead = ⟨some (.item x), rest, failures⟩) :
  stages operand r site ahead
    = ⟨(stages operand r site rest).value.map (x :: ·), (stages operand r site rest).rest,
        failures ++ (stages operand r site rest).failures⟩
  := by
  have first := many_of_item (climb_advances built (r + 1)) run
  unfold stages
  cases found : (many (ascent operand (r + 1)) site rest).value with
  | none =>
    rw [found] at first
    rw [bind_of_none (congrArg Reply.value first), bind_of_none found, first]
    rfl
  | some tighter =>
    rw [found] at first
    rw [bind_of_some (congrArg Reply.value first), bind_of_some found, first]
    simp only [bind_pure_run, List.cons_append, Option.map_map, List.append_assoc]
    rfl

/-- The operators from a rank on are read in the two stages. The induction is on the words that are left:
a tighter operator belongs to the first stage, and an operator of the rank ends it. -/
theorem ascents_eq (built : Built operand) (m : Nat) :
  many (ascent operand m) = stages operand m
  := by
  have advances := climb_advances built m
  have advances' := climb_advances built (m + 1)
  have advances'' := tail_advances (climb_built built (m + 1)) m
  funext site ahead
  induction length : ahead.length using Nat.strongRecOn generalizing ahead with
  | _ length' ih =>
    subst length
    rcases below_or_operator m ahead with below | ⟨w, ahead, r, rfl, found, tight⟩
    · have below' : Below (m + 1) ahead := fun w next r found => Nat.lt_succ_of_lt (below w next r found)
      rw [stages_of_below built below', many_of_stop advances (ascent_of_below below),
        many_of_stop advances'' (tail_of_below below)]
    have one : ascent operand m site (w :: ahead) = _ := ascent_operator found tight
    have shorter := ((climb_built built (r + 1)).suffix site ahead).length_le
    rcases Nat.eq_or_lt_of_le tight with rfl | tighter
    · -- An operator of the rank. Behind its right operand there is no tighter one.
      have two : tail m (climb operand (m + 1)) site (w :: ahead) = _ := tail_operator found
      have last : Below (m + 1) (w :: ahead) := by
        rintro _ ⟨⟩ r known
        rw [found] at known
        cases known
        exact Nat.lt_succ_self m
      rw [stages_of_below built last]
      cases answer : (climb operand (m + 1) site ahead).value with
      | none =>
        rw [operatorReply, answer] at one two
        rw [many_of_none advances one, many_of_none advances'' two]
      | some e =>
        rw [operatorReply, answer] at one two
        rw [many_of_item advances one, many_of_item advances'' two, ih _ (Nat.lt_succ_of_le shorter) _ rfl,
          stages_of_below built (below_of_climb built answer)]
    · have two : ascent operand (m + 1) site (w :: ahead) = _ := ascent_operator found tighter
      cases answer : (climb operand (r + 1) site ahead).value with
      | none =>
        rw [operatorReply, answer] at one two
        have gives := many_of_none advances' two
        rw [many_of_none advances one, stages, bind_of_none (congrArg Reply.value gives), gives]
      | some e =>
        rw [operatorReply, answer] at one two
        rw [many_of_item advances one, ih _ (Nat.lt_succ_of_le shorter) _ rfl, stages_of_item built two]

/-- Climbing from a rank is a chain of operators of the rank, between what climbing from the next one
reads. -/
theorem climb_succ (built : Built operand) (m : Nat) :
  climb operand m = (do
    let lhs ← climb operand (m + 1)
    let tails ← many (tail m (climb operand (m + 1)))
    return tails.foldl joinOperand lhs)
  := by
  rw [climb_eq operand m, ascents_eq built m]
  unfold stages
  generalize many (tail m (climb operand (m + 1))) = others
  rw [climb_eq operand (m + 1)]
  simp only [bind_assoc, pure_bind, List.foldl_append]

/-- There are no operators above the tightest rank. -/
theorem climb_of_gt (built : Built operand) (gt : 6 < least) :
  climb operand least = operand
  := by
  have below : ∀ ahead, Below least ahead := fun ahead w _ r found =>
    Nat.lt_of_le_of_lt (Kind.rank?_bounds found).2 gt
  have nothing : many (ascent operand least) = pure [] := by
    funext site ahead
    apply many_of_stop (climb_advances built least) (ascent_of_below (below ahead))
  rw [climb_eq, nothing]
  simp only [pure_bind, List.foldl_nil, bind_pure]

/-- The `n` tightest ranks are the ranks from `7 - n` on. -/
theorem layer_eq_climb (built : Built operand) {n : Nat} (ranks : n + least = 7) :
  layer operand n = climb operand least
  := by
  induction n generalizing least with
  | zero => exact (climb_of_gt built (by omega)).symm
  | succ n ih =>
    have rank : 6 - n = least := by omega
    rw [layer_succ, ih (show n + (least + 1) = 7 by omega), rank, ← climb_succ built least]

/-- Expressions are read by precedence climbing from the loosest rank. -/
theorem expr_eq_climb (n : Nat) :
  expr n = climb (unary n) 1
  := layer_eq_climb (unary_built n) rfl

end Parse

end PlanetServer
