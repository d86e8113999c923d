import Mathlib.Data.List.Basic
import PlanetServer.Build.Report

/-!
# Patterns

A pattern says how a part of a text may look. At a spot of a text it may match in several ways, of
which the first in the order of preference counts: the first of two alternatives goes before the
second, and a run of characters is taken as long or as short as possible.

* `Pattern.ways` lists the ways in which a pattern matches at a spot, in the order of preference.
* `Pattern.scan` searches a text from left to right, and goes on where the last match ended.
* `Pattern.LineBound` holds of a pattern that matches whole lines only. `Pattern.scan_lines` says
  that to search a text for such a pattern is to match each of its lines.
-/

namespace PlanetServer.Build

/-- A spot in a text. -/
structure Spot where
  /-- Whether a line starts here. -/
  atStart : Bool
  /-- The text from here on. -/
  rest : List Char

/-- Whether a line ends here. -/
def Spot.atEnd (s : Spot) : Bool :=
  s.rest.head?.all (· == '\n')

/-- The texts of named parts of a match. -/
abbrev Groups := List (String × List Char)

/-- A match of a pattern. -/
structure Match where
  /-- The characters that the pattern covers. -/
  text : List Char
  /-- The texts of its named parts. -/
  groups : Groups
  /-- The spot just past the match. -/
  finish : Spot

namespace Match

/-- The match that covers nothing. -/
def empty (s : Spot) : Match :=
  ⟨[], [], s⟩

/-- A match with one more character in front. -/
def precede (c : Char) (m : Match) : Match :=
  { m with text := c :: m.text }

/-- A match followed by another one. -/
def append (m n : Match) : Match :=
  ⟨m.text ++ n.text, m.groups ++ n.groups, n.finish⟩

/-- A match with a name. -/
def named (name : String) (m : Match) : Match :=
  { m with groups := (name, m.text) :: m.groups }

/-- The same match in a text that goes on with further lines. -/
def before (more : List Char) (m : Match) : Match :=
  { m with finish := ⟨m.finish.atStart, m.finish.rest ++ '\n' :: more⟩ }

end Match

/-- A description of a part of a text. -/
inductive Pattern where
  /-- Nothing. -/
  | nothing
  /-- Nothing, where a line starts. -/
  | lineStart
  /-- Nothing, where a line ends. -/
  | lineEnd
  /-- One character of a class. -/
  | one (accepts : Char → Bool)
  /-- As many characters of a class as possible. -/
  | many (accepts : Char → Bool)
  /-- As few characters of a class as possible. -/
  | few (accepts : Char → Bool)
  /-- One of two patterns, better the first. -/
  | either (first second : Pattern)
  /-- A pattern with a name for what it covers. -/
  | group (name : String) (inner : Pattern)
  /-- One pattern after the other. -/
  | seq (first second : Pattern)

namespace Pattern

/-- The characters of a word, one after the other. -/
def word : List Char → Pattern
  | [] => nothing
  | c :: cs => seq (one (· == c)) (word cs)

/-- The runs of characters of a class, the shortest in front, where a line starts or not. -/
def runs (accepts : Char → Bool) : Bool → List Char → List Match
  | atStart, [] => [.empty ⟨atStart, []⟩]
  | atStart, c :: cs =>
    .empty ⟨atStart, c :: cs⟩
      :: if accepts c then (runs accepts (c == '\n') cs).map (.precede c) else []

/-- The ways in which a pattern matches at a spot, in the order of preference. -/
def ways : Pattern → Spot → List Match
  | nothing, s => [.empty s]
  | lineStart, s => if s.atStart then [.empty s] else []
  | lineEnd, s => if s.atEnd then [.empty s] else []
  | one _, ⟨_, []⟩ => []
  | one accepts, ⟨_, c :: cs⟩ => if accepts c then [⟨[c], [], ⟨c == '\n', cs⟩⟩] else []
  | many accepts, s => (runs accepts s.atStart s.rest).reverse
  | few accepts, s => runs accepts s.atStart s.rest
  | either p q, s => p.ways s ++ q.ways s
  | group name p, s => (p.ways s).map (.named name)
  | seq p q, s => (p.ways s).flatMap fun m => (q.ways m.finish).map m.append

/-- The match of a pattern at a spot: the way that it prefers. -/
def match? (p : Pattern) (s : Spot) : Option Match :=
  (p.ways s).head?

/-- The named parts of the match of a pattern at the start of a text. -/
def groups? (p : Pattern) (text : List Char) : Option Groups :=
  (p.match? ⟨true, text⟩).map Match.groups

/-- The named parts of the matches from a spot on. Where the pattern does not match, or covers nothing,
the search goes on one character later, and past a match it goes on where the match ends. -/
def search (p : Pattern) (s : Spot) : List Groups :=
  match s with
  | ⟨atStart, []⟩ => ((p.match? ⟨atStart, []⟩).map Match.groups).toList
  | ⟨atStart, c :: cs⟩ =>
    match p.match? ⟨atStart, c :: cs⟩ with
    | none => search p ⟨c == '\n', cs⟩
    | some m =>
      if m.finish.rest.length ≤ cs.length then m.groups :: search p m.finish
      else m.groups :: search p ⟨c == '\n', cs⟩
termination_by s.rest.length

/-- The named parts of the matches in a text, from left to right. -/
def scan (p : Pattern) (text : List Char) : List Groups :=
  p.search ⟨true, text⟩

/-! ### What a match covers -/

theorem runs_append {accepts : Char → Bool} {atStart : Bool} {cs : List Char} {m : Match}
    (member : m ∈ runs accepts atStart cs) :
  m.text ++ m.finish.rest = cs
  := by
  induction cs generalizing atStart m with
  | nil =>
    obtain rfl := List.mem_singleton.mp member
    rfl
  | cons c cs ih =>
    rcases List.mem_cons.mp member with rfl | later
    · rfl
    · split at later
      · obtain ⟨n, known, rfl⟩ := List.mem_map.mp later
        rw [Match.precede, List.cons_append, ih known]
      · cases later

/-- A match and what follows it make up the text from the spot on. -/
theorem ways_append {p : Pattern} {s : Spot} {m : Match} (member : m ∈ p.ways s) :
  m.text ++ m.finish.rest = s.rest
  := by
  induction p generalizing s m with
  | nothing =>
    obtain rfl := List.mem_singleton.mp member
    rfl
  | lineStart | lineEnd =>
    rw [ways, List.mem_ite_nil_right] at member
    obtain ⟨-, member⟩ := member
    obtain rfl := List.mem_singleton.mp member
    rfl
  | one accepts =>
    obtain ⟨atStart, _ | ⟨c, cs⟩⟩ := s
    · cases member
    · rw [ways, List.mem_ite_nil_right] at member
      obtain ⟨-, member⟩ := member
      obtain rfl := List.mem_singleton.mp member
      rfl
  | many => apply runs_append (List.mem_reverse.mp member)
  | few => apply runs_append member
  | either p q ihp ihq =>
    rcases List.mem_append.mp member with first | second
    · apply ihp first
    · apply ihq second
  | group name p ih =>
    obtain ⟨n, known, rfl⟩ := List.mem_map.mp member
    apply ih known
  | seq p q ihp ihq =>
    obtain ⟨n, first, later⟩ := List.mem_flatMap.mp member
    obtain ⟨n', second, rfl⟩ := List.mem_map.mp later
    rw [Match.append, List.append_assoc, ihq second, ihp first]

/-! ### Patterns within a line -/

/-- Whether no class of the pattern holds the line feed. -/
def isWithinLine : Pattern → Bool
  | nothing | lineStart | lineEnd => true
  | one accepts | many accepts | few accepts => !accepts '\n'
  | either p q | seq p q => p.isWithinLine && q.isWithinLine
  | group _ p => p.isWithinLine

theorem runs_before {accepts : Char → Bool} (feed : accepts '\n' = false) (atStart : Bool)
    (cs more : List Char) :
  runs accepts atStart (cs ++ '\n' :: more) = (runs accepts atStart cs).map (.before more)
  := by
  induction cs generalizing atStart with
  | nil => simp [runs, feed, Match.before, Match.empty]
  | cons c cs ih =>
    simp only [List.cons_append, runs, ih, List.map_cons]
    congr 1
    split
    · simp only [List.map_map]
      rfl
    · rfl

/-- Further lines do not change how a pattern matches within a line. -/
theorem ways_before {p : Pattern} (within : p.isWithinLine = true) (atStart : Bool)
    (cs more : List Char) :
  p.ways ⟨atStart, cs ++ '\n' :: more⟩ = (p.ways ⟨atStart, cs⟩).map (.before more)
  := by
  induction p generalizing atStart cs with
  | nothing => rfl
  | lineStart =>
    cases atStart with
    | true => rfl
    | false => rfl
  | lineEnd =>
    have ends : Spot.atEnd ⟨atStart, cs ++ '\n' :: more⟩ = Spot.atEnd ⟨atStart, cs⟩ := by
      cases cs with
      | nil => rfl
      | cons c cs => rfl
    simp only [ways, ends]
    split
    · rfl
    · rfl
  | one accepts =>
    cases cs with
    | nil =>
      have feed : accepts '\n' = false := by simpa [isWithinLine] using within
      simp [ways, feed]
    | cons c cs =>
      simp only [List.cons_append, ways]
      split
      · rfl
      · rfl
  | many accepts =>
    have feed : accepts '\n' = false := by simpa [isWithinLine] using within
    simp only [ways, runs_before feed, List.map_reverse]
  | few accepts =>
    apply runs_before
    simpa [isWithinLine] using within
  | either p q ihp ihq =>
    obtain ⟨first, second⟩ := Bool.and_eq_true_iff.mp within
    simp only [ways, ihp first, ihq second, List.map_append]
  | group name p ih =>
    simp only [ways, ih within, List.map_map]
    rfl
  | seq p q ihp ihq =>
    obtain ⟨first, second⟩ := Bool.and_eq_true_iff.mp within
    simp only [ways, ihp first, List.flatMap_map, List.map_flatMap]
    congr 1
    funext m
    simp only [Match.before, ihq second, List.map_map]
    rfl

theorem inside_of_cons {c : Char} {line : List Char} (inside : '\n' ∉ c :: line) :
  (c == '\n') = false ∧ '\n' ∉ line
  := by
  obtain ⟨other, later⟩ := not_or.mp (mt List.mem_cons.mpr inside)
  constructor
  · simpa using Ne.symm other
  · apply later

/-- A pattern that matches whole lines only, and no empty one. -/
structure LineBound (p : Pattern) : Prop where
  /-- It stays within a line. -/
  within : p.isWithinLine = true
  /-- It matches only where a line starts. -/
  starts (rest : List Char) : p.ways ⟨false, rest⟩ = []
  /-- It ends only where a line ends. -/
  ends {s : Spot} {m : Match} (member : m ∈ p.ways s) : m.finish.atEnd = true
  /-- It covers some characters. -/
  holds {s : Spot} {m : Match} (member : m ∈ p.ways s) : m.text ≠ []

namespace LineBound

variable {p : Pattern} (bound : p.LineBound)

include bound

theorem ways_nil (atStart : Bool) :
  p.ways ⟨atStart, []⟩ = []
  := by
  apply List.eq_nil_iff_forall_not_mem.mpr
  intro m member
  obtain ⟨empty, -⟩ := List.append_eq_nil_iff.mp (ways_append member)
  apply bound.holds member empty

theorem match?_feed (atStart : Bool) (more : List Char) :
  p.match? ⟨atStart, '\n' :: more⟩ = none
  := by
  have none := ways_before bound.within atStart [] more
  rw [bound.ways_nil] at none
  rw [match?, ← List.nil_append ('\n' :: more), none]
  rfl

/-- No match lies between a spot within a line and the next line. -/
theorem search_rest {line : List Char} (inside : '\n' ∉ line) (more : List Char) :
  p.search ⟨false, line ++ '\n' :: more⟩ = p.search ⟨true, more⟩
  := by
  induction line with
  | nil => rw [List.nil_append, search, bound.match?_feed, beq_self_eq_true]
  | cons c line ih =>
    obtain ⟨next, later⟩ := inside_of_cons inside
    rw [List.cons_append, search, match?, bound.starts, next]
    apply ih later

/-- No match lies between a spot within the last line and the end of the text. -/
theorem search_rest_last {line : List Char} (inside : '\n' ∉ line) :
  p.search ⟨false, line⟩ = []
  := by
  induction line with
  | nil => simp [search, match?, bound.starts]
  | cons c line ih =>
    obtain ⟨next, later⟩ := inside_of_cons inside
    rw [search, match?, bound.starts, next]
    apply ih later

/-- A match in a line leaves nothing of it. -/
theorem finish_rest {line : List Char} (inside : '\n' ∉ line) {atStart : Bool} {m : Match}
    (member : m ∈ p.ways ⟨atStart, line⟩) :
  m.finish.rest = []
  := by
  have whole : m.text ++ m.finish.rest = line := ways_append member
  have ends := bound.ends member
  rcases rest : m.finish.rest with _ | ⟨c, cs⟩
  · rfl
  · obtain rfl : c = '\n' := by simpa [Spot.atEnd, rest] using ends
    apply absurd _ inside
    rw [← whole, rest]
    simp

/-- The match in a line, and what is found in the lines after it. -/
theorem search_line {line : List Char} (inside : '\n' ∉ line) (more : List Char) :
  p.search ⟨true, line ++ '\n' :: more⟩ = (p.groups? line).toList ++ p.search ⟨true, more⟩
  := by
  have ways := ways_before bound.within true line more
  rcases line with _ | ⟨c, line⟩
  · rw [List.nil_append, search, bound.match?_feed, groups?, match?, bound.ways_nil,
      beq_self_eq_true]
    rfl
  · rw [List.cons_append] at ways ⊢
    rw [search, match?, ways, List.head?_map, groups?, match?]
    cases found : (p.ways ⟨true, c :: line⟩).head? with
    | none =>
      obtain ⟨next, later⟩ := inside_of_cons inside
      simp only [Option.map_none, next, bound.search_rest later]
      rfl
    | some m =>
      have rest := bound.finish_rest inside (List.mem_of_head? found)
      simp only [Option.map_some, Match.before, rest, List.nil_append, List.length_cons,
        List.length_append]
      rw [if_pos (by omega), search, bound.match?_feed, beq_self_eq_true]
      rfl

/-- The match in the last line. -/
theorem search_last {line : List Char} (inside : '\n' ∉ line) :
  p.search ⟨true, line⟩ = (p.groups? line).toList
  := by
  rcases line with _ | ⟨c, line⟩
  · rw [search]
    rfl
  · rw [search, groups?, match?]
    cases found : (p.ways ⟨true, c :: line⟩).head? with
    | none =>
      obtain ⟨next, later⟩ := inside_of_cons inside
      simp only [next, bound.search_rest_last later]
      rfl
    | some m =>
      obtain ⟨text, groups, atStart, rest⟩ := m
      obtain rfl : rest = [] := bound.finish_rest inside (List.mem_of_head? found)
      simp only [List.length_nil, Nat.zero_le, ↓reduceIte]
      rw [search, match?, bound.ways_nil]
      rfl

end LineBound

end Pattern

/-! ### Lines -/

theorem lines_ne_nil (cs : List Char) :
  lines cs ≠ []
  := by
  fun_cases lines cs <;> simp

theorem lines_of_inside {line : List Char} (inside : '\n' ∉ line) :
  lines line = [line]
  := by
  induction line with
  | nil => rfl
  | cons c line ih =>
    obtain ⟨other, later⟩ := Pattern.inside_of_cons inside
    rw [lines, if_neg (by simpa using other), ih later]

/-- A line feed divides the lines before it from those after it. -/
theorem lines_append (cs ds : List Char) :
  lines (cs ++ '\n' :: ds) = lines cs ++ lines ds
  := by
  induction cs with
  | nil => simp [lines]
  | cons c cs ih =>
    simp only [List.cons_append, lines, ih]
    split
    · rfl
    · obtain ⟨line, rest, divided⟩ := List.exists_cons_of_ne_nil (lines_ne_nil cs)
      rw [divided]
      rfl

/-- To search a text for a pattern that matches whole lines is to match each of its lines. -/
theorem Pattern.LineBound.scan_lines {p : Pattern} (bound : p.LineBound) (text : List Char) :
  p.scan text = (lines text).filterMap p.groups?
  := by
  by_cases feed : '\n' ∈ text
  · obtain ⟨line, more, rfl, inside⟩ := List.eq_append_cons_of_mem feed
    have later := bound.scan_lines more
    rw [scan] at later
    rw [scan, bound.search_line inside, lines_append, lines_of_inside inside, List.filterMap_append,
      later]
    rfl
  · rw [scan, bound.search_last feed, lines_of_inside feed]
    rfl
termination_by text.length
decreasing_by
  subst_vars
  simp only [List.length_append, List.length_cons]
  omega

end PlanetServer.Build
