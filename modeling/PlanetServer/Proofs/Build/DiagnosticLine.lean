import Mathlib.Data.List.TakeWhile
import PlanetServer.Proofs.Build.Pattern
import PlanetServer.Proofs.Text.Blank

/-!
# The pattern of a diagnostic

The lines of an output that report a problem are those that match `diagnosticLine`. The reader of
lines goes through a line once, without the alternatives of the pattern, and finds the same.

* `Pattern.lead?` follows the ways in which a pattern matches up to the first that leads somewhere.
* `diagnosticLine_reads` says that the pattern and the reader agree on every line.
-/

namespace PlanetServer.Build

namespace Pattern

/-- At least one character of a class, and as many as possible. -/
def longest (accepts : Char → Bool) : Pattern :=
  seq (one accepts) (many accepts)

/-- At least one character of a class, and as few as possible. -/
def shortest (accepts : Char → Bool) : Pattern :=
  seq (one accepts) (few accepts)

/-- Patterns one after the other. -/
def all : List Pattern → Pattern
  | [] => nothing
  | [p] => p
  | p :: ps => seq p (all ps)

end Pattern

/-- Whether a character can stand within a line. -/
def isInLine (c : Char) : Bool :=
  c != '\n'

/-- The end of the pattern: the message. -/
def messagePattern : Pattern :=
  .all [.many isGap, .group "msg" (.longest isInLine), .lineEnd]

/-- The part of the pattern from the severity on. -/
def severityPattern : Pattern :=
  .all [.group "sev" (.either (.word "error".toList) (.word "warning".toList)), .word [':'],
    messagePattern]

/-- The part of the pattern after the path. -/
def tailPattern : Pattern :=
  .all [.word [':'], .group "line" (.longest Text.isDecimal), .word [':'],
    .group "col" (.longest Text.isDecimal), .word [':'], .many isGap, severityPattern]

/-- The pattern of a line that reports a problem. -/
def diagnosticLine : Pattern :=
  .all [.lineStart, .group "file" (.shortest isInLine), tailPattern]

/-- The problem that the parts of a match report, none if a number is too large. -/
def Finding.ofGroups? (groups : Groups) : Option Finding := do
  let line ← coordinate? (← groups.lookup "line")
  let column ← coordinate? (← groups.lookup "col")
  let severity := if (← groups.lookup "sev") = "error".toList then .error else .warning
  let message := String.ofList (Text.trim (← groups.lookup "msg"))
  let range := Range.singleColumn ⟨line - 1, column - 1⟩
  return ⟨String.ofList (← groups.lookup "file"), ⟨severity, message, range, .build⟩⟩

/-! ### The pattern matches whole lines -/

namespace Pattern

theorem ends_seq {p q : Pattern} (ends : ∀ s, ∀ m ∈ q.ways s, m.finish.atEnd = true) :
  ∀ s, ∀ m ∈ (seq p q).ways s, m.finish.atEnd = true
  := by
  intro s m member
  obtain ⟨n, -, later⟩ := List.mem_flatMap.mp member
  obtain ⟨n', second, rfl⟩ := List.mem_map.mp later
  apply ends _ _ second

theorem ends_lineEnd (s : Spot) :
  ∀ m ∈ lineEnd.ways s, m.finish.atEnd = true
  := by
  intro m member
  rw [ways, List.mem_ite_nil_right] at member
  obtain ⟨ends, member⟩ := member
  obtain rfl := List.mem_singleton.mp member
  apply ends

/-- A match of two patterns covers some characters if one of its parts does. -/
theorem holds_seq {p q : Pattern}
    (holds : (∀ s, ∀ m ∈ p.ways s, m.text ≠ []) ∨ ∀ s, ∀ m ∈ q.ways s, m.text ≠ []) :
  ∀ s, ∀ m ∈ (seq p q).ways s, m.text ≠ []
  := by
  intro s m member empty
  obtain ⟨n, first, later⟩ := List.mem_flatMap.mp member
  obtain ⟨n', second, rfl⟩ := List.mem_map.mp later
  obtain ⟨none, none'⟩ := List.append_eq_nil_iff.mp empty
  rcases holds with holds | holds
  · apply holds _ _ first none
  · apply holds _ _ second none'

theorem holds_one (accepts : Char → Bool) (s : Spot) :
  ∀ m ∈ (one accepts).ways s, m.text ≠ []
  := by
  intro m member
  obtain ⟨atStart, _ | ⟨c, cs⟩⟩ := s
  · cases member
  · rw [ways, List.mem_ite_nil_right] at member
    obtain ⟨-, member⟩ := member
    obtain rfl := List.mem_singleton.mp member
    apply List.cons_ne_nil

end Pattern

/-- The pattern of a diagnostic matches whole lines. -/
theorem diagnosticLine_lineBound : diagnosticLine.LineBound where
  within := by decide
  starts rest := rfl
  ends {s m} := by
    have ends : ∀ s, ∀ m ∈ diagnosticLine.ways s, m.finish.atEnd = true := by
      iterate 12 apply Pattern.ends_seq
      apply Pattern.ends_lineEnd
    apply ends s m
  holds {s m} := by
    -- the colon after the path is a character that every match covers
    have colon : ∀ s, ∀ m ∈ tailPattern.ways s, m.text ≠ [] :=
      Pattern.holds_seq (.inl (Pattern.holds_seq (.inl (Pattern.holds_one _))))
    apply Pattern.holds_seq (.inr (Pattern.holds_seq (.inr colon))) s m

/-! ### The first way that leads somewhere -/

namespace Pattern

variable {β : Type}

/-- The result of the first way in which a pattern matches at a spot and that has one. -/
def lead? (p : Pattern) (s : Spot) (result? : Match → Option β) : Option β :=
  (p.ways s).findSome? result?

theorem match?_map (p : Pattern) (s : Spot) (f : Match → β) :
  (p.match? s).map f = p.lead? s fun m => some (f m)
  := by
  unfold match? lead?
  cases p.ways s <;> rfl

theorem lead?_seq (p q : Pattern) (s : Spot) (result? : Match → Option β) :
  (seq p q).lead? s result?
    = p.lead? s fun m => q.lead? m.finish fun n => result? (m.append n)
  := by
  simp only [lead?, ways]
  induction p.ways s with
  | nil => rfl
  | cons m ms ih =>
    rw [List.flatMap_cons, List.findSome?_append, ih, List.findSome?_map, List.findSome?_cons]
    cases found : List.findSome? (result? ∘ m.append) (q.ways m.finish) with
    | none =>
      have fails : List.findSome? (fun n => result? (m.append n)) (q.ways m.finish) = none := found
      rw [fails]
      rfl
    | some b =>
      have leads : List.findSome? (fun n => result? (m.append n)) (q.ways m.finish) = some b := found
      rw [leads]
      rfl

theorem lead?_group (name : String) (p : Pattern) (s : Spot) (result? : Match → Option β) :
  (group name p).lead? s result? = p.lead? s fun m => result? (m.named name)
  := List.findSome?_map

theorem lead?_either (p q : Pattern) (s : Spot) (result? : Match → Option β) :
  (either p q).lead? s result? = (p.lead? s result?).or (q.lead? s result?)
  := List.findSome?_append

theorem lead?_one (accepts : Char → Bool) (atStart : Bool) (c : Char) (cs : List Char)
    (result? : Match → Option β) :
  (one accepts).lead? ⟨atStart, c :: cs⟩ result?
    = if accepts c then result? ⟨[c], [], ⟨c == '\n', cs⟩⟩ else none
  := by
  simp only [lead?, ways]
  split
  · simp
  · rfl

/-- The longest run of characters of a class leads on, if nothing that starts with a character of the
class does. -/
theorem lead?_many (accepts : Char → Bool) (result? : Match → Option β)
    (fails : ∀ m c cs, accepts c = true → m.finish.rest = c :: cs → result? m = none)
    (atStart : Bool) (cs : List Char) :
  ∃ atStart', (many accepts).lead? ⟨atStart, cs⟩ result?
    = result? ⟨cs.takeWhile accepts, [], ⟨atStart', cs.dropWhile accepts⟩⟩
  := by
  simp only [lead?, ways]
  induction cs generalizing atStart result? with
  | nil =>
    use atStart
    simp [runs, Match.empty]
  | cons c cs ih =>
    by_cases accepted : accepts c = true
    · have fails' : ∀ m d ds, accepts d = true → m.finish.rest = d :: ds →
          (result? ∘ Match.precede c) m = none := by
        intro m d ds
        apply fails (m.precede c) d ds
      obtain ⟨atStart', longest⟩ := ih _ fails' (c == '\n')
      use atStart'
      simp only [runs, accepted, ↓reduceIte, List.reverse_cons, ← List.map_reverse,
        List.findSome?_append, List.findSome?_map, longest, List.takeWhile_cons, List.dropWhile_cons,
        List.findSome?_singleton]
      rw [fails (.empty ⟨atStart, c :: cs⟩) c cs accepted rfl, Option.or_none]
      rfl
    · use atStart
      simp [runs, accepted, Match.empty]

/-- The longest run leads on, as with `lead?_many`, unless it is empty. -/
theorem lead?_longest (accepts : Char → Bool) (result? : Match → Option β)
    (fails : ∀ m c cs, accepts c = true → m.finish.rest = c :: cs → result? m = none)
    (atStart : Bool) (cs : List Char) :
  ∃ atStart', (longest accepts).lead? ⟨atStart, cs⟩ result?
    = if cs.takeWhile accepts = [] then none
      else result? ⟨cs.takeWhile accepts, [], ⟨atStart', cs.dropWhile accepts⟩⟩
  := by
  rcases cs with _ | ⟨c, cs⟩
  · use atStart
    rfl
  · rw [longest, lead?_seq, lead?_one]
    by_cases accepted : accepts c = true
    · have fails' : ∀ m d ds, accepts d = true → m.finish.rest = d :: ds →
          result? (Match.append ⟨[c], [], ⟨c == '\n', cs⟩⟩ m) = none := by
        intro m
        apply fails (Match.append _ m)
      obtain ⟨atStart', longest⟩ := lead?_many _ _ fails' (c == '\n') cs
      use atStart'
      rw [if_pos accepted, longest]
      simp [accepted, Match.append]
    · use atStart
      simp [accepted]

theorem ways_word {cs : List Char} (inside : '\n' ∉ cs) (s : Spot) :
  (word cs).ways s
    = ((afterWord? cs s.rest).map fun rest =>
        (⟨cs, [], ⟨s.atStart && cs.isEmpty, rest⟩⟩ : Match)).toList
  := by
  induction cs generalizing s with
  | nil => simp [word, ways, afterWord?, Match.empty]
  | cons c cs ih =>
    obtain ⟨next, later⟩ := inside_of_cons inside
    obtain ⟨atStart, _ | ⟨d, ds⟩⟩ := s
    · simp [word, ways, afterWord?]
    · by_cases same : d = c
      · subst same
        simp only [word, ways, beq_self_eq_true, ↓reduceIte, List.flatMap_singleton, ih later, next]
        by_cases found : cs.isPrefixOf ds = true
        · simp [afterWord?, found, Match.append]
        · simp [afterWord?, found]
      · simp [word, ways, afterWord?, same, Ne.symm same]

/-- A word leads on if the text goes on with it. -/
theorem lead?_word {cs : List Char} (inside : '\n' ∉ cs) (s : Spot) (result? : Match → Option β) :
  (word cs).lead? s result?
    = (afterWord? cs s.rest).bind fun rest => result? ⟨cs, [], ⟨s.atStart && cs.isEmpty, rest⟩⟩
  := by
  rw [lead?, ways_word inside]
  cases afterWord? cs s.rest with
  | none => rfl
  | some rest => simp

end Pattern

/-! ### The message -/

theorem isBlank_of_isGap {c : Char} (gap : isGap c = true) :
  Text.isBlank c = true
  := by
  simp only [isGap, Bool.or_eq_true, beq_iff_eq] at gap
  rcases gap with rfl | rfl <;> decide

theorem runs_text {accepts : Char → Bool} {atStart : Bool} {cs : List Char} {m : Match}
    (member : m ∈ Pattern.runs accepts atStart cs) :
  (∀ c ∈ m.text, accepts c = true) ∧ m.groups = []
  := by
  induction cs generalizing atStart m with
  | nil =>
    obtain rfl := List.mem_singleton.mp member
    simp [Match.empty]
  | cons c cs ih =>
    rcases List.mem_cons.mp member with rfl | later
    · simp [Match.empty]
    · split at later
      · obtain ⟨n, known, rfl⟩ := List.mem_map.mp later
        obtain ⟨text, groups⟩ := ih known
        constructor
        · apply List.forall_mem_cons.mpr ⟨‹_›, text⟩
        · apply groups
      · cases later

theorem empty_mem_runs (accepts : Char → Bool) (s : Spot) :
  .empty s ∈ Pattern.runs accepts s.atStart s.rest
  := by
  obtain ⟨atStart, _ | ⟨c, cs⟩⟩ := s
  · apply List.mem_singleton.mpr rfl
  · apply List.mem_cons_self

theorem findSome?_eq_some_of_forall {α β : Type} {l : List α} {f : α → Option β} {b : β}
    (only : ∀ a ∈ l, f a = none ∨ f a = some b) {a : α} (member : a ∈ l) (leads : f a = some b) :
  l.findSome? f = some b
  := by
  cases found : l.findSome? f with
  | none =>
    have fails := List.findSome?_eq_none_iff.mp found a member
    simp [leads] at fails
  | some b' =>
    obtain ⟨a', member', leads'⟩ := List.exists_of_findSome?_eq_some found
    rcases only a' member' with fails | same
    · simp [fails] at leads'
    · rw [← leads', same]

section

variable {β : Type}

/-- The message takes all that is left of the line. -/
theorem lead?_rest {cs : List Char} (inside : '\n' ∉ cs) (atStart : Bool) (f : Groups → β) :
  (Pattern.seq (.group "msg" (.longest isInLine)) .lineEnd).lead? ⟨atStart, cs⟩
      (fun m => some (f m.groups))
    = if cs = [] then none else some (f [("msg", cs)])
  := by
  rw [Pattern.lead?_seq, Pattern.lead?_group]
  have whole : ∀ c ∈ cs, isInLine c = true := by
    rintro c member
    simp only [isInLine, bne_iff_ne]
    rintro rfl
    apply inside member
  obtain ⟨atStart', longest⟩ := Pattern.lead?_longest isInLine
    (fun m => Pattern.lead? .lineEnd (m.named "msg").finish
      fun n => some (f ((m.named "msg").append n).groups))
    (by
      intro m c ds other rest
      have goesOn : (m.named "msg").finish.atEnd = false := by
        simpa [Spot.atEnd, Match.named, rest, isInLine] using other
      simp [Pattern.lead?, Pattern.ways, goesOn])
    atStart cs
  rw [longest, List.takeWhile_eq_self_iff.mpr whole, List.dropWhile_eq_nil_iff.mpr whole]
  rfl

/-- The message, up to the blanks around it. -/
theorem lead?_message {cs : List Char} (inside : '\n' ∉ cs) (atStart : Bool) {f : Groups → β}
    (same : ∀ cs ds, Text.trim cs = Text.trim ds → f [("msg", cs)] = f [("msg", ds)]) :
  messagePattern.lead? ⟨atStart, cs⟩ (fun m => some (f m.groups))
    = if cs = [] then none else some (f [("msg", cs)])
  := by
  change (Pattern.seq (.many isGap) (.seq (.group "msg" (.longest isInLine)) .lineEnd)).lead? _ _ = _
  rw [Pattern.lead?_seq, Pattern.lead?, Pattern.ways]
  -- wherever the message starts among the blanks, it reads the same
  have ways : ∀ m ∈ (Pattern.runs isGap atStart cs).reverse,
      (Pattern.seq (.group "msg" (.longest isInLine)) .lineEnd).lead? m.finish
          (fun n => some (f (m.append n).groups))
        = if m.finish.rest = [] then none else some (f [("msg", cs)]) := by
    intro m member
    obtain ⟨blank, groups⟩ := runs_text (List.mem_reverse.mp member)
    have whole := Pattern.runs_append (List.mem_reverse.mp member)
    have later : '\n' ∉ m.finish.rest := by
      intro member
      apply inside
      rw [← whole]
      apply List.mem_append_right _ member
    have trimmed := same cs m.finish.rest (by
      rw [← whole]
      apply Text.trim_of_blank_append fun c held => isBlank_of_isGap (blank c held))
    simp only [Match.append, groups, List.nil_append]
    rw [lead?_rest later, trimmed]
  split
  · rename_i empty
    subst empty
    apply List.findSome?_eq_none_iff.mpr
    intro m member
    obtain ⟨-, rest⟩ := List.append_eq_nil_iff.mp (Pattern.runs_append (List.mem_reverse.mp member))
    rw [ways m member, if_pos rest]
  · rename_i holds
    have start := List.mem_reverse.mpr (empty_mem_runs isGap ⟨atStart, cs⟩)
    apply findSome?_eq_some_of_forall _ start
    · rw [ways _ start]
      apply if_neg holds
    · intro m member
      rw [ways m member]
      split
      · apply Or.inl rfl
      · apply Or.inr rfl

/-! ### The severity -/

theorem afterWord?_eq_some {word cs rest : List Char} (found : afterWord? word cs = some rest) :
  cs = word ++ rest
  := by
  rw [afterWord?, Option.ite_none_right_eq_some] at found
  obtain ⟨starts, rest⟩ := found
  rw [← Option.some.inj rest, List.prefix_iff_eq_append.mp (List.isPrefixOf_iff_prefix.mp starts)]

theorem afterWord?_append (word more cs : List Char) :
  afterWord? (word ++ more) cs = (afterWord? word cs).bind (afterWord? more)
  := by
  induction word generalizing cs with
  | nil => simp [afterWord?]
  | cons c word ih =>
    rcases cs with _ | ⟨d, cs⟩
    · rfl
    · by_cases same : c = d
      · have later := ih cs
        simp only [afterWord?] at later ⊢
        simpa [same] using later
      · simp [afterWord?, same]

/-- The word for a severity. -/
def severityWord : Severity → List Char
  | .error => "error".toList
  | _ => "warning".toList

/-- What follows the word for a severity: a colon and a message. -/
theorem lead?_afterSeverity {cs : List Char} (inside : '\n' ∉ cs) (atStart : Bool) {f : Groups → β}
    (same : ∀ cs ds, Text.trim cs = Text.trim ds → f [("msg", cs)] = f [("msg", ds)]) :
  (Pattern.seq (.word [':']) messagePattern).lead? ⟨atStart, cs⟩ (fun m => some (f m.groups))
    = (afterWord? [':'] cs).bind fun rest =>
        if rest = [] then none else some (f [("msg", rest)])
  := by
  rw [Pattern.lead?_seq, Pattern.lead?_word (by decide)]
  cases found : afterWord? [':'] cs with
  | none => rfl
  | some rest =>
    have later : '\n' ∉ rest := by
      rw [afterWord?_eq_some found] at inside
      apply mt (List.mem_append_right _) inside
    simp only [Option.bind_some, Match.append, List.nil_append]
    rw [lead?_message later _ same]

theorem lead?_severity {cs : List Char} (inside : '\n' ∉ cs) (atStart : Bool) {f : Groups → β}
    (same : ∀ word cs ds, Text.trim cs = Text.trim ds →
      f [("sev", word), ("msg", cs)] = f [("sev", word), ("msg", ds)]) :
  severityPattern.lead? ⟨atStart, cs⟩ (fun m => some (f m.groups))
    = (severity? cs).map fun (severity, message) =>
        f [("sev", severityWord severity), ("msg", message)]
  := by
  have after (word : List Char) :
      ((afterWord? word cs).bind fun rest =>
          (Pattern.seq (.word [':']) messagePattern).lead? ⟨atStart && word.isEmpty, rest⟩
            fun n => some (f (("sev", word) :: n.groups)))
        = (afterWord? (word ++ [':']) cs).bind fun rest =>
            if rest = [] then none else some (f [("sev", word), ("msg", rest)]) := by
    rw [afterWord?_append]
    cases found : afterWord? word cs with
    | none => rfl
    | some rest =>
      have later : '\n' ∉ rest := by
        rw [afterWord?_eq_some found] at inside
        apply mt (List.mem_append_right _) inside
      simp only [Option.bind_some]
      apply lead?_afterSeverity later _ (f := fun groups => f (("sev", word) :: groups)) (same word)
  change (Pattern.seq (.group "sev" (.either (.word "error".toList) (.word "warning".toList)))
    (.seq (.word [':']) messagePattern)).lead? _ _ = _
  rw [Pattern.lead?_seq, Pattern.lead?_group, Pattern.lead?_either, Pattern.lead?_word (by decide),
    Pattern.lead?_word (by decide)]
  simp only [Match.named, Match.append, List.nil_append, List.cons_append]
  rw [after, after, severity?, show "error".toList ++ [':'] = "error:".toList by decide,
    show "warning".toList ++ [':'] = "warning:".toList by decide]
  rcases afterWord? "error:".toList cs with _ | _ | ⟨c, rest⟩
  · rcases afterWord? "warning:".toList cs with _ | _ | ⟨c, rest⟩ <;> rfl
  · rcases afterWord? "warning:".toList cs with _ | _ | ⟨c, rest⟩ <;> rfl
  · rfl

/-- No word for a severity starts with a blank. -/
theorem lead?_severity_of_gap (atStart : Bool) {c : Char} (gap : isGap c = true) (cs : List Char)
    (result? : Match → Option β) :
  severityPattern.lead? ⟨atStart, c :: cs⟩ result? = none
  := by
  have fails {d : Char} {word tail : List Char} (starts : word = d :: tail)
      (other : isGap d = false) : afterWord? word (c :: cs) = none := by
    have differs : d ≠ c := by
      rintro rfl
      simp [gap] at other
    simp [starts, afterWord?, differs]
  have error : afterWord? "error".toList (c :: cs) = none :=
    fails (show _ = ['e', 'r', 'r', 'o', 'r'] by decide) (by decide)
  have warning : afterWord? "warning".toList (c :: cs) = none :=
    fails (show _ = ['w', 'a', 'r', 'n', 'i', 'n', 'g'] by decide) (by decide)
  change (Pattern.seq (.group "sev" (.either (.word "error".toList) (.word "warning".toList)))
    (.seq (.word [':']) messagePattern)).lead? _ _ = _
  rw [Pattern.lead?_seq, Pattern.lead?_group, Pattern.lead?_either, Pattern.lead?_word (by decide),
    Pattern.lead?_word (by decide)]
  rw [error, warning, Option.bind_none, Option.bind_none]
  rfl

/-! ### The numbers -/

/-- A colon leads to what follows it. -/
theorem lead?_colon (q : Pattern) (atStart : Bool) (rest : List Char) (f : Groups → β) :
  (Pattern.seq (.word [':']) q).lead? ⟨atStart, ':' :: rest⟩ (fun m => some (f m.groups))
    = q.lead? ⟨false, rest⟩ fun n => some (f n.groups)
  := by
  rw [Pattern.lead?_seq, Pattern.lead?_word (by decide)]
  simp [afterWord?, Match.append]

theorem lead?_colon_of_ne (q : Pattern) (atStart : Bool) {cs : List Char}
    (other : ∀ rest, cs ≠ ':' :: rest) (result? : Match → Option β) :
  (Pattern.seq (.word [':']) q).lead? ⟨atStart, cs⟩ result? = none
  := by
  have none : afterWord? [':'] cs = none := by
    rw [Option.eq_none_iff_forall_ne_some]
    intro rest found
    apply other rest (afterWord?_eq_some found)
  rw [Pattern.lead?_seq, Pattern.lead?_word (by decide)]
  simp [none]

/-- A colon and a number lead to what can follow the number, which starts with no digit. -/
theorem lead?_number {q : Pattern} (name : String)
    (fails : ∀ atStart c cs, Text.isDecimal c = true → ∀ result? : Match → Option β,
      q.lead? ⟨atStart, c :: cs⟩ result? = none)
    (atStart : Bool) (cs : List Char) (f : Groups → β) :
  ∃ atStart', (Pattern.seq (.word [':']) (.seq (.group name (.longest Text.isDecimal)) q)).lead?
        ⟨atStart, cs⟩ (fun m => some (f m.groups))
      = (number? cs).bind fun (digits, rest) =>
          q.lead? ⟨atStart', rest⟩ fun n => some (f ((name, digits) :: n.groups))
  := by
  by_cases colon : ∃ rest, cs = ':' :: rest
  · obtain ⟨rest, rfl⟩ := colon
    rw [lead?_colon, Pattern.lead?_seq, Pattern.lead?_group, number?]
    obtain ⟨atStart', longest⟩ := Pattern.lead?_longest Text.isDecimal
      (fun m => q.lead? (m.named name).finish
        fun n => some (f ((m.named name).append n).groups))
      (by
        rintro ⟨text, groups, atStart, _⟩ c cs digit rfl
        apply fails _ _ _ digit)
      false rest
    use atStart'
    rw [longest]
    cases digits : rest.takeWhile Text.isDecimal with
    | nil => rfl
    | cons d ds => rfl
  · have other := not_exists.mp colon
    use atStart
    rw [lead?_colon_of_ne _ _ other, number?]
    · rfl
    · apply other

/-- What can follow a number starts with a colon. -/
theorem lead?_colon_of_isDecimal (q : Pattern) (atStart : Bool) (c : Char) (cs : List Char)
    (digit : Text.isDecimal c = true) (result? : Match → Option β) :
  (Pattern.seq (.word [':']) q).lead? ⟨atStart, c :: cs⟩ result? = none
  := by
  apply lead?_colon_of_ne
  rintro rest same
  obtain ⟨rfl, -⟩ := List.cons.inj same
  apply absurd digit
  decide

theorem not_mem_of_number? {c : Char} {cs digits rest : List Char} (inside : c ∉ cs)
    (found : number? cs = some (digits, rest)) :
  c ∉ rest
  := by
  unfold number? at found
  split at found
  · split at found
    · cases found
    · obtain ⟨-, rfl⟩ := Prod.mk.inj (Option.some.inj found)
      intro member
      apply inside
      apply List.mem_cons_of_mem _ ((List.dropWhile_suffix _).subset member)
  · cases found

/-- Blanks before the severity are skipped. -/
theorem lead?_gap {cs : List Char} (inside : '\n' ∉ cs) (atStart : Bool) {f : Groups → β}
    (same : ∀ word cs ds, Text.trim cs = Text.trim ds →
      f [("sev", word), ("msg", cs)] = f [("sev", word), ("msg", ds)]) :
  (Pattern.seq (.many isGap) severityPattern).lead? ⟨atStart, cs⟩ (fun m => some (f m.groups))
    = (severity? (cs.dropWhile isGap)).map fun (severity, message) =>
        f [("sev", severityWord severity), ("msg", message)]
  := by
  rw [Pattern.lead?_seq]
  obtain ⟨atStart', many⟩ := Pattern.lead?_many isGap
    (fun m => severityPattern.lead? m.finish fun n => some (f (m.append n).groups))
    (by
      rintro ⟨text, groups, atStart, _⟩ c cs gap rfl
      apply lead?_severity_of_gap _ gap)
    atStart cs
  rw [many]
  apply lead?_severity _ _ same
  intro member
  apply inside ((List.dropWhile_suffix _).subset member)

/-! ### Whole lines -/

/-- The parts of a match after the path. -/
def Tail.groups (t : Tail) : Groups :=
  [("line", t.line), ("col", t.column), ("sev", severityWord t.severity), ("msg", t.message)]

theorem lead?_tail {cs : List Char} (inside : '\n' ∉ cs) (atStart : Bool) {f : Groups → β}
    (same : ∀ line column word cs ds, Text.trim cs = Text.trim ds →
      f [("line", line), ("col", column), ("sev", word), ("msg", cs)]
        = f [("line", line), ("col", column), ("sev", word), ("msg", ds)]) :
  tailPattern.lead? ⟨atStart, cs⟩ (fun m => some (f m.groups)) = (tail? cs).map (f ·.groups)
  := by
  change (Pattern.seq (.word [':']) (.seq (.group "line" (.longest Text.isDecimal))
    (.seq (.word [':']) (.seq (.group "col" (.longest Text.isDecimal))
      (.seq (.word [':']) (.seq (.many isGap) severityPattern)))))).lead? _ _ = _
  obtain ⟨atStart₁, first⟩ := lead?_number "line" (lead?_colon_of_isDecimal _) atStart cs f
  rw [first, tail?]
  cases found : number? cs with
  | none => rfl
  | some number =>
    obtain ⟨line, rest⟩ := number
    have inside := not_mem_of_number? inside found
    obtain ⟨atStart₂, second⟩ := lead?_number "col" (lead?_colon_of_isDecimal _) atStart₁ rest
      fun groups => f (("line", line) :: groups)
    simp only [Option.bind_some, Option.bind_eq_bind]
    rw [second]
    cases found : number? rest with
    | none => rfl
    | some number =>
      obtain ⟨column, rest⟩ := number
      have inside := not_mem_of_number? inside found
      simp only [Option.bind_some]
      by_cases colon : ∃ later, rest = ':' :: later
      · obtain ⟨rest, rfl⟩ := colon
        rw [lead?_colon _ _ _ fun groups => f (("line", line) :: ("col", column) :: groups),
          lead?_gap (mt (List.mem_cons_of_mem _) inside) _
          (f := fun groups => f (("line", line) :: ("col", column) :: groups)) (same line column)]
        cases found : severity? (rest.dropWhile isGap) with
        | none => simp [found]
        | some report => simp [found, Tail.groups]
      · rw [lead?_colon_of_ne _ _ (not_exists.mp colon)]
        split
        · apply absurd ⟨_, rfl⟩ colon
        · rfl

/-- The path is the shortest after which the rest of the line can be read. -/
theorem lead?_path {cs : List Char} (inside : '\n' ∉ cs) (atStart : Bool) (before : List Char)
    {f : List Char → Groups → β}
    (same : ∀ path line column word cs ds, Text.trim cs = Text.trim ds →
      f path [("line", line), ("col", column), ("sev", word), ("msg", cs)]
        = f path [("line", line), ("col", column), ("sev", word), ("msg", ds)]) (c : Char) :
  (Pattern.runs isInLine atStart cs).findSome? (fun m =>
      tailPattern.lead? m.finish fun n => some (f (before ++ c :: m.text) (m.groups ++ n.groups)))
    = (pathAndTail? (c :: cs)).map fun (path, tail) => f (before ++ path) tail.groups
  := by
  induction cs generalizing atStart before c with
  | nil =>
    simp only [Pattern.runs, List.findSome?_singleton, Match.empty, pathAndTail?, List.nil_append]
    rw [lead?_tail inside _ (same _)]
    cases tail? [] with
    | none => rfl
    | some tail => rfl
  | cons d cs ih =>
    obtain ⟨other, later⟩ := Pattern.inside_of_cons inside
    have accepted : isInLine d = true := by simpa [isInLine] using other
    have longer := ih later (d == '\n') (before ++ [c]) d
    simp only [List.append_assoc, List.singleton_append] at longer
    rw [Pattern.runs, if_pos accepted, List.findSome?_cons, List.findSome?_map, pathAndTail?]
    simp only [Match.empty, List.nil_append]
    rw [lead?_tail inside _ (same _)]
    cases tail? (d :: cs) with
    | none =>
      simp only [Option.map_none, Option.map_map]
      apply longer
    | some tail => rfl

end

/-- The pattern matches a line as the reader divides it. -/
theorem diagnosticLine_divides {β : Type} {line : List Char} (inside : '\n' ∉ line)
    {f : Groups → β}
    (same : ∀ path line column word cs ds, Text.trim cs = Text.trim ds →
      f [("file", path), ("line", line), ("col", column), ("sev", word), ("msg", cs)]
        = f [("file", path), ("line", line), ("col", column), ("sev", word), ("msg", ds)]) :
  (diagnosticLine.groups? line).map f
    = (pathAndTail? line).map fun (path, tail) => f (("file", path) :: tail.groups)
  := by
  rw [Pattern.groups?, Option.map_map, Pattern.match?_map]
  change (Pattern.seq .lineStart (.seq (.group "file" (.seq (.one isInLine) (.few isInLine)))
    tailPattern)).lead? _ _ = _
  simp only [Pattern.lead?_seq, Pattern.lead?_group]
  rcases line with _ | ⟨c, cs⟩
  · rfl
  · obtain ⟨other, later⟩ := Pattern.inside_of_cons inside
    have accepted : isInLine c = true := by simpa [isInLine] using other
    have start (result? : Match → Option β) :
        Pattern.lead? .lineStart ⟨true, c :: cs⟩ result? = result? (.empty ⟨true, c :: cs⟩) := by
      simp [Pattern.lead?, Pattern.ways]
    simp only [start, Match.empty, Pattern.lead?_one, accepted, ↓reduceIte, Match.append,
      Match.named, Function.comp_apply, List.nil_append, List.cons_append]
    apply lead?_path later (c == '\n') [] (f := fun path groups => f (("file", path) :: groups)) same

theorem severity?_cases {cs message : List Char} {severity : Severity}
    (found : severity? cs = some (severity, message)) :
  severity = .error ∨ severity = .warning
  := by
  unfold severity? at found
  split at found
  · cases found
    apply Or.inl rfl
  · cases found
    apply Or.inr rfl
  · cases found

theorem tail?_cases {cs : List Char} {tail : Tail} (found : tail? cs = some tail) :
  tail.severity = .error ∨ tail.severity = .warning
  := by
  obtain ⟨⟨line, rest⟩, -, found⟩ := Option.bind_eq_some_iff.mp found
  obtain ⟨⟨column, rest⟩, -, found⟩ := Option.bind_eq_some_iff.mp found
  dsimp only at found
  split at found
  · obtain ⟨⟨severity, message⟩, known, found⟩ := Option.bind_eq_some_iff.mp found
    obtain rfl := Option.some.inj found
    apply severity?_cases known
  · cases found

theorem pathAndTail?_cases {cs path : List Char} {tail : Tail}
    (found : pathAndTail? cs = some (path, tail)) :
  tail.severity = .error ∨ tail.severity = .warning
  := by
  induction cs generalizing path with
  | nil => cases found
  | cons c cs ih =>
    rw [pathAndTail?] at found
    split at found
    · cases found
      apply tail?_cases ‹_›
    · obtain ⟨⟨path, tail⟩, later, same⟩ := Option.map_eq_some_iff.mp found
      cases same
      apply ih later

/-- The problem that the parts of a match report, from each of the parts. -/
theorem Finding.ofGroups?_parts (path line column word message : List Char) :
  Finding.ofGroups?
      [("file", path), ("line", line), ("col", column), ("sev", word), ("msg", message)]
    = (coordinate? line).bind fun line => (coordinate? column).map fun column =>
        ⟨String.ofList path, ⟨if word = "error".toList then .error else .warning,
          String.ofList (Text.trim message), .singleColumn ⟨line - 1, column - 1⟩, .build⟩⟩
  := by
  simp only [Option.map_eq_bind]
  rfl

/-- The pattern of a diagnostic and the reader of lines find the same in a line. -/
theorem diagnosticLine_reads {line : List Char} (inside : '\n' ∉ line) :
  (diagnosticLine.groups? line).bind Finding.ofGroups? = Finding.ofLine? line
  := by
  have divided := diagnosticLine_divides inside (f := Finding.ofGroups?) (by
    intro path line column word cs ds same
    simp only [Finding.ofGroups?_parts, same])
  rw [← Function.id_comp Finding.ofGroups?, ← Option.bind_map, divided, Finding.ofLine?]
  cases found : pathAndTail? line with
  | none => rfl
  | some parts =>
    obtain ⟨path, tail⟩ := parts
    have severity : (if severityWord tail.severity = "error".toList then Severity.error else .warning)
        = tail.severity := by
      rcases pathAndTail?_cases found with known | known
      · rw [known]
        decide
      · rw [known]
        decide
    simp only [Option.map_some, Option.bind_some, id, Tail.groups, Finding.ofGroups?_parts, severity]
    simp only [Option.map_eq_bind, Option.bind_eq_bind, Option.bind_some]
    rfl

end PlanetServer.Build
