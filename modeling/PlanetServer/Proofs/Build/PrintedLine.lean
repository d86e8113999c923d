import PlanetServer.Proofs.Build.DiagnosticLine

/-!
# Printed lines read back

A line as the compiler prints it is read as the problem that was printed.

* `IsLead` describes what stands between a path and a message, up to the word for the severity.
* `isLead_of_tail?` says that the rest of a line cannot be read within a path in which no lead stands.
* `Printed.text` prints a problem. Blanks may follow the two colons around the severity, and a carriage
  return may end the line.
* `extract_text` reads the line back, provided that no lead stands within the path. The message may be
  anything, since a path ends where the first lead starts.
-/

namespace PlanetServer.Build

/-! ### The lead of a message -/

/-- Digits of any script, at least one. -/
def IsNumber (digits : List Char) : Prop :=
  digits ≠ [] ∧ ∀ c ∈ digits, Text.isDecimal c = true

/-- A colon and a number, the same once more, and after another colon and blanks the word for a severity. -/
def IsLead (cs : List Char) : Prop :=
  ∃ line column gap severity, IsNumber line ∧ IsNumber column ∧ (∀ c ∈ gap, isGap c = true)
    ∧ cs = ':' :: line ++ ':' :: column ++ ':' :: gap ++ severityWord severity

theorem isDecimal_colon :
  Text.isDecimal ':' = false
  := by
  decide

theorem number?_eq_some_iff {cs digits rest : List Char} :
  number? cs = some (digits, rest)
    ↔ digits ≠ [] ∧ ∃ after, cs = ':' :: after
      ∧ after.takeWhile Text.isDecimal = digits ∧ after.dropWhile Text.isDecimal = rest
  := by
  unfold number?
  split
  · rename_i after
    cases taken : after.takeWhile Text.isDecimal with
    | nil => aesop
    | cons d ds => aesop
  · rename_i other
    constructor
    · nofun
    · rintro ⟨-, after, rfl, -⟩
      cases other after rfl

/-- A number ends before a colon. -/
theorem number?_of_isNumber {digits : List Char} (number : IsNumber digits) (rest : List Char) :
  number? (':' :: digits ++ ':' :: rest) = some (digits, ':' :: rest)
  := by
  obtain ⟨holds, decimal⟩ := number
  apply number?_eq_some_iff.mpr
  refine ⟨holds, digits ++ ':' :: rest, rfl, ?_, ?_⟩
  · rw [Text.takeWhile_append_cons isDecimal_colon]
    exact List.takeWhile_eq_self_iff.mpr decimal
  · rw [Text.dropWhile_append_cons isDecimal_colon, List.dropWhile_eq_nil_iff.mpr decimal, List.nil_append]

/-- A number that starts before a colon ends there at the latest. -/
theorem number?_append_colon {cs more digits rest : List Char} (holds : cs ≠ [])
    (found : number? (cs ++ ':' :: more) = some (digits, rest)) :
  IsNumber digits ∧ ∃ left, cs = ':' :: digits ++ left ∧ rest = left ++ ':' :: more
  := by
  obtain ⟨other, after, whole, rfl, rfl⟩ := number?_eq_some_iff.mp found
  obtain ⟨c, cs, rfl⟩ := List.exists_cons_of_ne_nil holds
  rw [List.cons_append] at whole
  obtain ⟨rfl, rfl⟩ := List.cons.inj whole
  rw [Text.takeWhile_append_cons isDecimal_colon] at other ⊢
  rw [Text.dropWhile_append_cons isDecimal_colon]
  constructor
  · exact ⟨other, fun c member => List.mem_takeWhile_imp member⟩
  · use cs.dropWhile Text.isDecimal
    rw [List.cons_append, List.takeWhile_append_dropWhile]
    exact ⟨rfl, rfl⟩

/-! ### The severity -/

theorem severity?_eq_some {cs message : List Char} {severity : Severity}
    (found : severity? cs = some (severity, message)) :
  cs = severityWord severity ++ ':' :: message
  := by
  unfold severity? at found
  split at found
  · obtain ⟨rfl, rfl⟩ := Prod.mk.inj (Option.some.inj found)
    apply afterWord?_eq_some ‹afterWord? "error:".toList cs = _›
  · obtain ⟨rfl, rfl⟩ := Prod.mk.inj (Option.some.inj found)
    apply afterWord?_eq_some ‹afterWord? "warning:".toList cs = _›
  · cases found

theorem severity?_word {severity : Severity} (known : severity = .error ∨ severity = .warning)
    {message : List Char} (holds : message ≠ []) :
  severity? (severityWord severity ++ ':' :: message) = some (severity, message)
  := by
  obtain ⟨c, cs, rfl⟩ := List.exists_cons_of_ne_nil holds
  rcases known with rfl | rfl
  · rfl
  · rfl

theorem colon_not_mem_severityWord (severity : Severity) :
  ':' ∉ severityWord severity
  := by
  cases severity <;> decide

/-- No word for a severity starts with a digit. -/
theorem severity?_of_isDecimal {c : Char} (decimal : Text.isDecimal c = true) (cs : List Char) :
  severity? (c :: cs) = none
  := by
  rw [Option.eq_none_iff_forall_ne_some]
  rintro ⟨severity, message⟩ found
  have whole := severity?_eq_some found
  have first : c = 'e' ∨ c = 'w' := by
    cases severity
    · exact .inl (List.cons.inj whole).1
    all_goals exact .inr (List.cons.inj whole).1
  rcases first with rfl | rfl
  · cases decimal
  · cases decimal

/-- Where blanks before a severity are skipped, no number can stand. -/
theorem severity?_of_isNumber {digits : List Char} (number : IsNumber digits) (more : List Char) :
  severity? ((digits ++ more).dropWhile isGap) = none
  := by
  obtain ⟨d, ds, rfl⟩ := List.exists_cons_of_ne_nil number.1
  have decimal := number.2 d List.mem_cons_self
  have solid : isGap d = false := by
    cases gap : isGap d with
    | false => rfl
    | true =>
      simp only [isGap, Bool.or_eq_true, beq_iff_eq] at gap
      rcases gap with rfl | rfl
      · cases decimal
      · cases decimal
  rw [List.cons_append, List.dropWhile_cons_of_neg (by simp [solid])]
  apply severity?_of_isDecimal decimal

/-! ### The rest of a line -/

/-- A colon and a number twice, and after a colon and blanks a severity, make up the rest of a line. -/
theorem tail?_eq_some_iff {cs : List Char} {tail : Tail} :
  tail? cs = some tail
    ↔ ∃ rest rest', number? cs = some (tail.line, rest) ∧ number? rest = some (tail.column, ':' :: rest')
      ∧ severity? (rest'.dropWhile isGap) = some (tail.severity, tail.message)
  := by
  constructor
  · intro found
    obtain ⟨⟨line, rest⟩, read, found⟩ := Option.bind_eq_some_iff.mp found
    obtain ⟨⟨column, rest'⟩, read', found⟩ := Option.bind_eq_some_iff.mp found
    dsimp only at found
    split at found
    · obtain ⟨⟨severity, message⟩, known, found⟩ := Option.bind_eq_some_iff.mp found
      obtain rfl := Option.some.inj found
      exact ⟨rest, _, read, read', known⟩
    · cases found
  · rintro ⟨rest, rest', read, read', known⟩
    simp [tail?, read, read', known]

/-- What a line says after the path, as it is printed with blanks before the severity. -/
def Tail.text (tail : Tail) (gap : List Char) : List Char :=
  ':' :: tail.line
    ++ ':' :: (tail.column ++ ':' :: (gap ++ (severityWord tail.severity ++ ':' :: tail.message)))

theorem tail?_text {tail : Tail} (line : IsNumber tail.line) (column : IsNumber tail.column)
    (known : tail.severity = .error ∨ tail.severity = .warning) (message : tail.message ≠ [])
    {gap : List Char} (blank : ∀ c ∈ gap, isGap c = true) :
  tail? (tail.text gap) = some tail
  := by
  have word : (severityWord tail.severity ++ ':' :: tail.message).dropWhile isGap
      = severityWord tail.severity ++ ':' :: tail.message := by
    rcases known with known | known
    · rw [known]
      rfl
    · rw [known]
      rfl
  apply tail?_eq_some_iff.mpr
  refine ⟨_, _, number?_of_isNumber line _, number?_of_isNumber column _, ?_⟩
  rw [List.dropWhile_append_of_pos blank, word]
  apply severity?_word known message

/-- A word without a colon that starts a text stands before the first colon of the text. -/
theorem prefix_of_append_colon {word cs more more' : List Char} (inside : ':' ∉ word)
    (same : cs ++ ':' :: more = word ++ ':' :: more') :
  word <+: cs
  := by
  rcases List.append_eq_append_iff.mp same with ⟨left, rfl, later⟩ | ⟨left, rfl, -⟩
  · rcases left with _ | ⟨c, left⟩
    · use []
      rw [List.append_nil, List.append_nil]
    · obtain ⟨rfl, -⟩ := List.cons.inj later
      apply absurd _ inside
      apply List.mem_append_right _ List.mem_cons_self
  · apply List.prefix_append

/-- Before the printed rest of a line, the rest of the line can be read only where another lead stands. -/
theorem isLead_of_tail? {cs : List Char} {tail tail' : Tail} (holds : cs ≠ []) (line : IsNumber tail.line)
    (column : IsNumber tail.column) {gap : List Char}
    (found : tail? (cs ++ tail.text gap) = some tail') :
  ∃ lead, IsLead lead ∧ lead <+: cs
  := by
  obtain ⟨rest, rest', read, read', known⟩ := tail?_eq_some_iff.mp found
  rw [Tail.text, List.cons_append] at read
  obtain ⟨line', left, rfl, rfl⟩ := number?_append_colon holds read
  by_cases empty : left = []
  · subst empty
    -- the number of the column would be the printed line
    have first := number?_of_isNumber line
      (tail.column ++ ':' :: (gap ++ (severityWord tail.severity ++ ':' :: tail.message)))
    rw [List.nil_append, ← List.cons_append, first] at read'
    obtain ⟨-, same⟩ := Prod.mk.inj (Option.some.inj read')
    obtain ⟨-, rfl⟩ := List.cons.inj same
    rw [severity?_of_isNumber column] at known
    cases known
  · obtain ⟨column', left', rfl, same⟩ := number?_append_colon empty read'
    cases left' with
    | nil =>
      -- the severity would be the printed line
      obtain ⟨-, rfl⟩ := List.cons.inj same
      rw [severity?_of_isNumber line] at known
      cases known
    | cons c left' =>
      rw [List.cons_append] at same
      obtain ⟨rfl, rfl⟩ := List.cons.inj same
      have solid : isGap ':' = false := by decide
      rw [Text.dropWhile_append_cons solid] at known
      obtain ⟨more, within⟩ :=
        prefix_of_append_colon (colon_not_mem_severityWord _) (severity?_eq_some known)
      refine ⟨_, ⟨tail'.line, tail'.column, left'.takeWhile isGap, tail'.severity, line', column',
        fun c member => List.mem_takeWhile_imp member, rfl⟩, more, ?_⟩
      rw [List.append_assoc, within]
      simp

/-! ### The path -/

/-- The path of a line is what stands before the rest, if the rest cannot start earlier. -/
theorem pathAndTail?_append {path rest : List Char} {tail : Tail} (holds : path ≠ [])
    (starts : tail? rest = some tail) (earlier : ∀ cs, cs ≠ [] → cs <:+ path → tail? (cs ++ rest) = none) :
  pathAndTail? (path ++ rest) = some (path, tail)
  := by
  induction path with
  | nil => cases holds rfl
  | cons c path ih =>
    rw [List.cons_append, pathAndTail?]
    by_cases last : path = []
    · rw [last, List.nil_append, starts]
    · have later := ih last fun cs holds within => earlier cs holds (within.trans (List.suffix_cons c path))
      rw [earlier path last (List.suffix_cons c path), later]
      rfl

/-! ### Coordinates -/

theorem isNumber_toDigits (n : Nat) :
  IsNumber (Nat.toDigits 10 n)
  := by
  constructor
  · apply Nat.toDigits_ne_nil
  · intro c member
    have digit := Nat.isDigit_of_mem_toDigits (by decide) (by decide) member
    simp only [Char.isDigit, Bool.and_eq_true, decide_eq_true_eq] at digit
    have least : 0x30 ≤ c.toNat := digit.1
    have most : c.toNat ≤ 0x39 := digit.2
    rw [Text.isDecimal, Text.decimalRanges, Text.covers, if_neg (Nat.not_lt_of_le least), if_pos most]

theorem coordinate?_toDigits {n : Nat} (fits : n ≤ maxCoordinate) :
  coordinate? (Nat.toDigits 10 n) = some n
  := by
  have digits : (Nat.toDigits 10 n).all isDigit = true :=
    List.all_eq_true.mpr fun c member => Nat.isDigit_of_mem_toDigits (by decide) (by decide) member
  have value := Nat.ofDigitChars_ten_toDigits (n := n)
  rw [Nat.ofDigitChars] at value
  rw [coordinate?, if_pos digits]
  dsimp only
  rw [value, if_pos fits]

/-! ### Printing -/

/-- A problem as the compiler prints it. -/
structure Printed where
  /-- The path of the file. -/
  path : String
  /-- The line, counted from one. -/
  line : Nat
  /-- The column, counted from one. -/
  column : Nat
  /-- How severe the problem is. -/
  severity : Severity
  /-- What is said about it. -/
  message : String

namespace Printed

/-- The line that is printed, with blanks before the severity and before the message, and with what ends
it. -/
def text (p : Printed) (gap gap' ending : List Char) : List Char :=
  p.path.toList ++ ':' :: Nat.toDigits 10 p.line ++ ':' :: Nat.toDigits 10 p.column ++ ':' :: gap
    ++ severityWord p.severity ++ ':' :: gap' ++ p.message.toList ++ ending

/-- The problem as it is shown to the user. -/
def diagnostic (p : Printed) : Diagnostic :=
  ⟨p.severity, p.message, ⟨⟨p.line - 1, p.column - 1⟩, ⟨p.line - 1, p.column⟩⟩, .build⟩

/-- What can be printed so that it can be read back. -/
structure Readable (p : Printed) : Prop where
  /-- There is a path. -/
  path_ne_nil : p.path.toList ≠ []
  /-- The path stands in one line. -/
  path_inLine : '\n' ∉ p.path.toList
  /-- No part of the path looks like what stands between a path and a message. -/
  path_plain : ∀ cs, cs <:+: p.path.toList → ¬ IsLead cs
  /-- Lines are counted from one. -/
  line_pos : 1 ≤ p.line
  /-- The line can be counted. -/
  line_le : p.line ≤ maxCoordinate
  /-- Columns are counted from one. -/
  column_pos : 1 ≤ p.column
  /-- The column can be counted. -/
  column_le : p.column ≤ maxCoordinate
  /-- There is a word for the severity. -/
  severity : p.severity = .error ∨ p.severity = .warning
  /-- There is a message. -/
  message_ne_nil : p.message.toList ≠ []
  /-- The message stands in one line. -/
  message_inLine : '\n' ∉ p.message.toList
  /-- No blank stands at either end of the message. -/
  message_trimmed : Text.Trimmed p.message.toList

/-- What the line says after the path. -/
def tail (p : Printed) (gap' ending : List Char) : Tail :=
  ⟨Nat.toDigits 10 p.line, Nat.toDigits 10 p.column, p.severity, gap' ++ p.message.toList ++ ending⟩

theorem text_eq (p : Printed) (gap gap' ending : List Char) :
  p.text gap gap' ending = p.path.toList ++ (p.tail gap' ending).text gap
  := by
  simp [text, tail, Tail.text]

section

variable {p : Printed} (readable : p.Readable) {gap gap' ending : List Char}
  (blank : ∀ c ∈ gap, isGap c = true) (blank' : ∀ c ∈ gap', isGap c = true)
  (ends : ending = [] ∨ ending = ['\r'])

include readable

include blank in
theorem pathAndTail?_text :
  pathAndTail? (p.text gap gap' ending) = some (p.path.toList, p.tail gap' ending)
  := by
  have line := isNumber_toDigits p.line
  have column := isNumber_toDigits p.column
  have message : (p.tail gap' ending).message ≠ [] := by simp [tail, readable.message_ne_nil]
  rw [text_eq]
  apply pathAndTail?_append readable.path_ne_nil (tail?_text line column readable.severity message blank)
  intro cs holds within
  rw [Option.eq_none_iff_forall_ne_some]
  intro tail' found
  obtain ⟨lead, isLead, starts⟩ := isLead_of_tail? holds line column found
  apply readable.path_plain lead (starts.isInfix.trans within.isInfix) isLead

include blank' ends in
/-- The blanks around the message are taken off again. -/
theorem trim_message :
  Text.trim (gap' ++ p.message.toList ++ ending) = p.message.toList
  := by
  apply readable.message_trimmed.trim_between fun c member => isBlank_of_isGap (blank' c member)
  rcases ends with rfl | rfl
  · nofun
  · exact List.forall_mem_singleton.mpr rfl

theorem singleColumn_of_readable :
  Range.singleColumn ⟨p.line - 1, p.column - 1⟩ = p.diagnostic.range
  := by
  have first := readable.column_pos
  have last := readable.column_le
  rw [Range.singleColumn, addCoordinate, Nat.sub_add_cancel first, Nat.min_eq_left last, diagnostic]

include blank blank' ends in
/-- A printed line reports the problem that was printed. -/
theorem ofLine?_text :
  Finding.ofLine? (p.text gap gap' ending) = some ⟨p.path, p.diagnostic⟩
  := by
  have line := coordinate?_toDigits readable.line_le
  have column := coordinate?_toDigits readable.column_le
  have divided : pathAndTail? (p.text gap gap' ending) = some (p.path.toList, p.tail gap' ending) :=
    pathAndTail?_text readable blank
  have message := trim_message readable blank' ends
  have range := singleColumn_of_readable readable
  simp only [Finding.ofLine?, divided, tail, line, column, message, range, String.ofList_toList,
    Option.bind_eq_bind, Option.bind_some]
  rfl

include blank blank' ends in
theorem text_inLine :
  '\n' ∉ p.text gap gap' ending
  := by
  have digits (n : Nat) : '\n' ∉ Nat.toDigits 10 n :=
    fun member => absurd (Nat.isDigit_of_mem_toDigits (by decide) (by decide) member) (by decide)
  have inGap : '\n' ∉ gap := fun member => absurd (blank _ member) (by decide)
  have inGap' : '\n' ∉ gap' := fun member => absurd (blank' _ member) (by decide)
  have word : '\n' ∉ severityWord p.severity := by cases p.severity <;> decide
  have last : '\n' ∉ ending := by rcases ends with rfl | rfl <;> decide
  simp [text, digits, inGap, inGap', word, last, readable.path_inLine, readable.message_inLine]

end

end Printed

/-- A printed line is read back as the one problem that was printed, in the one file that was named. -/
theorem extract_text {p : Printed} (readable : p.Readable) {gap gap' ending : List Char}
    (blank : ∀ c ∈ gap, isGap c = true) (blank' : ∀ c ∈ gap', isGap c = true)
    (ends : ending = [] ∨ ending = ['\r']) :
  extract (p.text gap gap' ending) = [⟨p.path, [p.diagnostic]⟩]
  := by
  have inLine := Printed.text_inLine readable blank blank' ends
  have found := Printed.ofLine?_text readable blank blank' ends
  rw [extract, findings, lines_of_inside inLine, List.filterMap_cons_some found]
  rfl

/-- A problem with colons and numbers in its path, a lead in its message, and the last line that can be
counted. -/
def crowded : Printed :=
  ⟨"C:\\x:1:2", 4294967295, 1, .warning, "a:1:2: error: b"⟩

theorem readable_crowded : crowded.Readable where
  path_ne_nil := by decide
  path_inLine := by decide
  path_plain := by
    -- both words for a severity have a letter that is not in the path
    rintro _ within ⟨line, column, gap, severity, -, -, -, rfl⟩
    have letter : 'r' ∈ severityWord severity := by cases severity <;> decide
    have held : 'r' ∈ crowded.path.toList := within.subset (List.mem_append_right _ letter)
    revert held
    decide
  line_pos := by decide
  line_le := by decide
  column_pos := by decide
  column_le := by decide
  severity := .inr rfl
  message_ne_nil := by decide
  message_inLine := by decide
  message_trimmed := by
    constructor
    · intro c first
      obtain rfl : 'a' = c := Option.some.inj first
      rfl
    · intro c last
      obtain rfl : 'b' = c := Option.some.inj last
      rfl

/-- Such a problem is read back, with blanks before the severity, none before the message, and a carriage
return at the end. -/
theorem extract_text_crowded :
  crowded.Readable
    ∧ crowded.text [' ', '\t'] [] ['\r'] = "C:\\x:1:2:4294967295:1: \twarning:a:1:2: error: b\r".toList
    ∧ extract (crowded.text [' ', '\t'] [] ['\r'])
      = [⟨"C:\\x:1:2", [⟨.warning, "a:1:2: error: b", ⟨⟨4294967294, 0⟩, ⟨4294967294, 1⟩⟩, .build⟩]⟩]
  := by
  refine ⟨readable_crowded, by decide +kernel, ?_⟩
  have blank : ∀ c ∈ [' ', '\t'], isGap c = true :=
    List.forall_mem_cons.mpr ⟨rfl, List.forall_mem_singleton.mpr rfl⟩
  exact extract_text readable_crowded blank nofun (.inr rfl)

end PlanetServer.Build
