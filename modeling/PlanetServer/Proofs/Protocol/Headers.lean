import PlanetServer.Proofs.Protocol.Frames

/-!
# Headers of frames

What the reader of headers accepts, in terms of the lines of a text.

* `GivesLength` and `IsLength` describe a header line with a length, and the texts that are lengths.
* `IsHeading` describes header lines and the blank line after them, and `Announces` which length counts.
* `headers_eq_ok_iff` says that the reader finds these lines at the start of the bytes, and nothing else.
-/

namespace PlanetServer.Frame

open Utf8 (Bytes)

/-! ### Lengths -/

/-- The text stands for the number: decimal digits, perhaps after a plus sign, and not too large. -/
def IsLength (text : List Char) (n : Nat) : Prop :=
  ∃ digits, (text = digits ∨ text = '+' :: digits) ∧ digits ≠ [] ∧ (∀ c ∈ digits, c.isDigit = true)
    ∧ Nat.ofDigitChars 10 digits 0 = n ∧ n ≤ maxLength

theorem digitsFrom_eq_ok_iff {digits : List Char} {value n : Nat} (fits : value ≤ maxLength) :
  digitsFrom value digits = .ok n
    ↔ (∀ c ∈ digits, c.isDigit = true) ∧ Nat.ofDigitChars 10 digits value = n ∧ n ≤ maxLength
  := by
  constructor
  · intro read
    induction digits generalizing value with
    | nil =>
      obtain rfl := Except.ok.inj read
      exact ⟨nofun, Nat.ofDigitChars_nil, fits⟩
    | cons c digits ih =>
      rw [digitsFrom] at read
      split at read
      · rename_i digit
        dsimp only at read
        split at read
        · cases read
        · rename_i within
          obtain ⟨later, same, fits⟩ := ih (Nat.le_of_not_lt within) read
          rw [Nat.ofDigitChars_cons]
          exact ⟨List.forall_mem_cons.mpr ⟨digit, later⟩, same, fits⟩
      · cases read
  · rintro ⟨decimal, rfl, fits⟩
    apply digitsFrom_of_fits decimal fits

theorem length?_eq_ok_iff {text : List Char} {n : Nat} :
  length? text = .ok n ↔ IsLength text n
  := by
  have plus : ¬ '+'.isDigit = true := by decide
  have start : 0 ≤ maxLength := Nat.zero_le _
  constructor
  · intro read
    unfold length? at read
    split at read
    · cases read
    · cases read
    · rename_i cs other
      obtain ⟨decimal, same, fits⟩ := (digitsFrom_eq_ok_iff start).mp read
      exact ⟨cs, .inr rfl, other, decimal, same, fits⟩
    · rename_i text empty _ _
      obtain ⟨decimal, same, fits⟩ := (digitsFrom_eq_ok_iff start).mp read
      exact ⟨_, .inl rfl, empty, decimal, same, fits⟩
  · rintro ⟨digits, text, holds, decimal, same, fits⟩
    have read := (digitsFrom_eq_ok_iff start).mpr ⟨decimal, same, fits⟩
    obtain ⟨c, cs, rfl⟩ := List.exists_cons_of_ne_nil holds
    have other : c ≠ '+' := by
      rintro rfl
      apply plus (decimal _ List.mem_cons_self)
    rcases text with rfl | rfl
    · simpa [length?, other] using read
    · exact read

/-! ### Lines with a length -/

/-- The line is a header that gives a length in these words: before its first colon stands the name of that
header, in letters of any case, and after it the words, and there may be blanks around both. -/
def GivesLength (line text : List Char) : Prop :=
  ∃ name value, line = name ++ ':' :: value ∧ ':' ∉ name
    ∧ (Text.trim name).map Char.toLower = lengthName ∧ text = Text.trim value

theorem lower_eq_toLower (c : Char) :
  lower c = c.toLower
  := by
  by_cases capital : 'A' ≤ c ∧ c ≤ 'Z'
  · have least : 65 ≤ c.toNat := capital.1
    have most : c.toNat ≤ 90 := capital.2
    have raised : c.toLower.val = c.val + ('a'.val - 'A'.val) := congrArg Char.val (dif_pos capital)
    rw [lower, if_pos capital]
    apply Char.ext
    apply UInt32.toNat_inj.mp
    rw [raised, UInt32.toNat_add]
    apply (Utf8.toNat_char (by omega)).trans
    have small : c.toNat + 32 < 2 ^ 32 := by omega
    exact (Nat.mod_eq_of_lt small).symm
  · have same : c.toLower = c := dif_neg capital
    rw [lower, if_neg capital, same]

theorem isBlank_colon :
  Text.isBlank ':' = false
  := by
  decide

theorem lengthValue?_append {name : List Char} (first : ':' ∉ name) (value : List Char) :
  lengthValue? (name ++ ':' :: value)
    = if (Text.trim name).map Char.toLower = lengthName then some (Text.trim value) else none
  := by
  have other : ∀ c ∈ name, decide (c ≠ ':') = true := by
    intro c member
    apply decide_eq_true
    rintro rfl
    apply first member
  have before : (name ++ ':' :: value).takeWhile (· ≠ ':') = name := by
    rw [Text.takeWhile_append_cons (by simp)]
    exact List.takeWhile_eq_self_iff.mpr other
  have after : (name ++ ':' :: value).dropWhile (· ≠ ':') = ':' :: value := by
    rw [Text.dropWhile_append_cons (by simp), List.dropWhile_eq_nil_iff.mpr other, List.nil_append]
  rw [lengthValue?, before, after, funext lower_eq_toLower]

theorem lengthValue?_of_not_mem {header : List Char} (none : ':' ∉ header) :
  lengthValue? header = .none
  := by
  have after : header.dropWhile (· ≠ ':') = [] := by
    apply List.dropWhile_eq_nil_iff.mpr
    intro c member
    apply decide_eq_true
    rintro rfl
    apply none member
  rw [lengthValue?, after]

/-- The reader finds the words of a length in a header without the blanks around it. -/
theorem lengthValue?_trim_eq_some_iff {line text : List Char} :
  lengthValue? (Text.trim line) = some text ↔ GivesLength line text
  := by
  have divided {name : List Char} (first : ':' ∉ name) (value : List Char) :
      lengthValue? (Text.trim (name ++ ':' :: value))
        = if (Text.trim name).map Char.toLower = lengthName then some (Text.trim value) else none := by
    have first' : ':' ∉ name.dropWhile Text.isBlank :=
      fun member => first ((List.dropWhile_suffix _).subset member)
    rw [Text.trim_append_cons isBlank_colon, lengthValue?_append first', Text.trim_dropWhile,
      Text.trim_trimEnd]
  constructor
  · intro found
    by_cases colon : ':' ∈ line
    · obtain ⟨name, value, rfl, first⟩ := List.eq_append_cons_of_mem colon
      rw [divided first, Option.ite_none_right_eq_some] at found
      exact ⟨name, value, rfl, first, found.1, (Option.some.inj found.2).symm⟩
    · rw [lengthValue?_of_not_mem (mt Text.mem_of_mem_trim colon)] at found
      cases found
  · rintro ⟨name, value, rfl, first, named, rfl⟩
    rw [divided first, if_pos named]

example : GivesLength " CONTENT-length\t: +2\r".toList "+2".toList :=
  lengthValue?_trim_eq_some_iff.mp (by decide +kernel)

/-! ### Which length counts -/

theorem IsLength.unique {text : List Char} {m n : Nat} (first : IsLength text m) (second : IsLength text n) :
  m = n
  := by
  rw [← length?_eq_ok_iff] at first second
  exact Except.ok.inj (first.symm.trans second)

theorem GivesLength.unique {line text text' : List Char} (first : GivesLength line text)
    (second : GivesLength line text') :
  text = text'
  := by
  rw [← lengthValue?_trim_eq_some_iff] at first second
  exact Option.some.inj (first.symm.trans second)

/-- The number is the length in the last of the lines that give one. -/
def LastLength (lines : List (List Char)) (n : Nat) : Prop :=
  ∃ before line after text, lines = before ++ line :: after ∧ GivesLength line text ∧ IsLength text n
    ∧ ∀ later ∈ after, ∀ text, ¬ GivesLength later text

/-- The number is the length that counts after the lines, given the one that counted before them. -/
def Announces (found : Option Nat) (lines : List (List Char)) (n : Nat) : Prop :=
  LastLength lines n ∨ found = some n ∧ ∀ line ∈ lines, ∀ text, ¬ GivesLength line text

section

variable {found : Option Nat} {line : List Char} {lines : List (List Char)} {n : Nat}

theorem announces_nil :
  Announces found [] n ↔ found = some n
  := by
  constructor
  · rintro (⟨before, _, _, _, empty, -⟩ | ⟨same, -⟩)
    · cases before <;> cases empty
    · exact same
  · intro same
    exact .inr ⟨same, nofun⟩

theorem lastLength_cons_iff :
  LastLength (line :: lines) n
    ↔ LastLength lines n ∨ ∃ text, GivesLength line text ∧ IsLength text n
        ∧ ∀ later ∈ lines, ∀ text, ¬ GivesLength later text
  := by
  constructor
  · rintro ⟨before, line', after, text, divided, given, value, last⟩
    rcases before with _ | ⟨first, before⟩
    · obtain ⟨rfl, rfl⟩ := List.cons.inj divided
      exact .inr ⟨text, given, value, last⟩
    · obtain ⟨rfl, rfl⟩ := List.cons.inj divided
      exact .inl ⟨before, line', after, text, rfl, given, value, last⟩
  · rintro (⟨before, line', after, text, rfl, given, value, last⟩ | ⟨text, given, value, last⟩)
    · exact ⟨line :: before, line', after, text, rfl, given, value, last⟩
    · exact ⟨[], line, lines, text, rfl, given, value, last⟩

/-- A line that gives no length changes nothing. -/
theorem announces_cons_of_other (other : ∀ text, ¬ GivesLength line text) :
  Announces found (line :: lines) n ↔ Announces found lines n
  := by
  have none : ¬ ∃ text, GivesLength line text ∧ IsLength text n
      ∧ ∀ later ∈ lines, ∀ text, ¬ GivesLength later text :=
    fun ⟨text, given, _⟩ => other text given
  rw [Announces, Announces, lastLength_cons_iff, or_iff_left none, List.forall_mem_cons,
    and_iff_right other]

/-- A line that gives a length makes it count from there on. -/
theorem announces_cons_of_length {text : List Char} {m : Nat} (given : GivesLength line text)
    (value : IsLength text m) :
  Announces found (line :: lines) n ↔ Announces (some m) lines n
  := by
  have here : ¬ ∀ line' ∈ line :: lines, ∀ text, ¬ GivesLength line' text :=
    fun none => none line List.mem_cons_self text given
  have counts : (∃ text, GivesLength line text ∧ IsLength text n
        ∧ ∀ later ∈ lines, ∀ text, ¬ GivesLength later text)
      ↔ some m = some n ∧ ∀ later ∈ lines, ∀ text, ¬ GivesLength later text := by
    constructor
    · rintro ⟨text', given', value', last⟩
      obtain rfl := given.unique given'
      exact ⟨congrArg some (value.unique value'), last⟩
    · rintro ⟨same, last⟩
      obtain rfl := Option.some.inj same
      exact ⟨text, given, value, last⟩
  rw [Announces, Announces, lastLength_cons_iff, or_iff_left (mt And.right here), counts]

end

/-! ### The lines of the headers -/

/-- The bytes of some lines, each with its line feed. -/
def encodeLines (lines : List (List Char)) : Bytes :=
  Utf8.encode (lines.flatMap fun line => line ++ ['\n'])

theorem encodeLines_cons (line : List Char) (lines : List (List Char)) :
  encodeLines (line :: lines) = Utf8.encode (line ++ ['\n']) ++ encodeLines lines
  := by
  simp only [encodeLines, Utf8.encode, List.flatMap_cons, List.flatMap_append]

/-- The lines are the headers of a frame, and the blank line after them. -/
structure IsHeading (lines : List (List Char)) (blank : List Char) : Prop where
  /-- Each header is one line. -/
  inLine : ∀ line ∈ lines, '\n' ∉ line
  /-- No header is blank. -/
  solid : ∀ line ∈ lines, ∃ c ∈ line, Text.isBlank c = false
  /-- Every header that gives a length gives it as a number. -/
  lengths : ∀ line ∈ lines, ∀ text, GivesLength line text → ∃ n, IsLength text n
  /-- What ends the headers is one line. -/
  blank_inLine : '\n' ∉ blank
  /-- It is blank. -/
  blank : ∀ c ∈ blank, Text.isBlank c = true

theorem IsHeading.nil {blank : List Char} (inLine : '\n' ∉ blank)
    (isBlank : ∀ c ∈ blank, Text.isBlank c = true) :
  IsHeading [] blank
  := ⟨nofun, nofun, nofun, inLine, isBlank⟩

theorem IsHeading.cons {line blank : List Char} {lines : List (List Char)} (heading : IsHeading lines blank)
    (inLine : '\n' ∉ line) (solid : ∃ c ∈ line, Text.isBlank c = false)
    (length : ∀ text, GivesLength line text → ∃ n, IsLength text n) :
  IsHeading (line :: lines) blank where
  inLine := List.forall_mem_cons.mpr ⟨inLine, heading.inLine⟩
  solid := List.forall_mem_cons.mpr ⟨solid, heading.solid⟩
  lengths := List.forall_mem_cons.mpr ⟨length, heading.lengths⟩
  blank_inLine := heading.blank_inLine
  blank := heading.blank

theorem trim_line (line : List Char) :
  Text.trim (line ++ ['\n']) = Text.trim line
  := Text.trim_append_of_blank (List.forall_mem_singleton.mpr rfl)

/-- What the reader of headers does with the line that ends them. -/
theorem headers_of_blank {line : List Char} (inside : '\n' ∉ line)
    (blank : ∀ c ∈ line, Text.isBlank c = true) (closed : Bool) (found : Option Nat) (rest : Bytes) :
  headers closed found (Utf8.encode (line ++ ['\n']) ++ rest)
    = match found with
      | some length => .ok (length, rest)
      | none => .error (.fault .noLength)
  := by
  rw [headers_line inside, trim_line]
  split
  · rfl
  case h_2 header => cases header (Text.trim_eq_nil_iff.mpr blank)

/-- What it does with any other line. -/
theorem headers_of_solid {line : List Char} (inside : '\n' ∉ line)
    (solid : ∃ c ∈ line, Text.isBlank c = false) (closed : Bool) (found : Option Nat) (rest : Bytes) :
  headers closed found (Utf8.encode (line ++ ['\n']) ++ rest)
    = match lengthValue? (Text.trim line) with
      | none => headers closed found rest
      | some value =>
        match length? value with
        | .ok length => headers closed (some length) rest
        | .error why => .error (.fault (.badLength why))
  := by
  have header := Text.trim_ne_nil_iff.mpr solid
  rw [headers_line inside, trim_line]
  split
  · cases header ‹_›
  · rfl

/-- The headers are read as far as their blank line. -/
theorem IsHeading.headers_eq {lines : List (List Char)} {blank : List Char} (heading : IsHeading lines blank)
    {found : Option Nat} {n : Nat} (announced : Announces found lines n) (closed : Bool) (rest : Bytes) :
  headers closed found (encodeLines (lines ++ [blank]) ++ rest) = .ok (n, rest)
  := by
  induction lines generalizing found with
  | nil =>
    rw [List.nil_append, encodeLines_cons, List.append_assoc,
      headers_of_blank heading.blank_inLine heading.blank, announces_nil.mp announced]
    rfl
  | cons line lines ih =>
    obtain ⟨inLine, inLines⟩ := List.forall_mem_cons.mp heading.inLine
    obtain ⟨solid, solids⟩ := List.forall_mem_cons.mp heading.solid
    obtain ⟨length, lengths⟩ := List.forall_mem_cons.mp heading.lengths
    have later : IsHeading lines blank := ⟨inLines, solids, lengths, heading.blank_inLine, heading.blank⟩
    rw [List.cons_append, encodeLines_cons, List.append_assoc, headers_of_solid inLine solid]
    cases given : lengthValue? (Text.trim line) with
    | none =>
      have other : ∀ text, ¬ GivesLength line text := by
        intro text gives
        rw [lengthValue?_trim_eq_some_iff.mpr gives] at given
        cases given
      apply ih later ((announces_cons_of_other other).mp announced)
    | some text =>
      have gives := lengthValue?_trim_eq_some_iff.mp given
      obtain ⟨m, value⟩ := length text gives
      simp only [length?_eq_ok_iff.mpr value]
      apply ih later ((announces_cons_of_length gives value).mp announced)

/-! ### Lines found in bytes -/

/-- The first line has its line feed if anything follows it. -/
theorem splitLine_of_ne_nil {bytes : Bytes} (more : (splitLine bytes).2 ≠ []) :
  ∃ line, (splitLine bytes).1 = line ++ [0x0A] ∧ 0x0A ∉ line
  := by
  induction bytes with
  | nil => cases more rfl
  | cons b bytes ih =>
    rw [splitLine] at more ⊢
    split
    · rename_i feed
      rw [feed]
      exact ⟨[], rfl, List.not_mem_nil⟩
    · rename_i other
      rw [if_neg other] at more
      obtain ⟨line, split, inside⟩ := ih more
      use b :: line
      constructor
      · simp only [split, List.cons_append]
      · simpa using ⟨Ne.symm other, inside⟩

theorem encodeChar_ne_nil {c : Char} :
  Utf8.encodeChar c ≠ []
  := by
  intro empty
  have first := Utf8.first_encodeChar c []
  rw [empty] at first
  cases first

/-- A text whose last byte is its only line feed is one line. -/
theorem line_of_encode {cs : List Char} {line : Bytes} (inside : 0x0A ∉ line)
    (bytes : Utf8.encode cs = line ++ [0x0A]) :
  ∃ text, '\n' ∉ text ∧ cs = text ++ ['\n']
  := by
  rcases cs.eq_nil_or_concat with rfl | ⟨text, c, rfl⟩
  · cases line <;> cases bytes
  rw [List.concat_eq_append] at bytes ⊢
  have parts : Utf8.encode text ++ Utf8.encodeChar c = line ++ [0x0A] := by
    rw [← bytes]
    simp only [Utf8.encode, List.flatMap_append, List.flatMap_singleton]
  by_cases feed : c = '\n'
  · subst feed
    have before : Utf8.encode text = line := List.append_cancel_right parts
    refine ⟨text, fun member => inside ?_, rfl⟩
    rw [← before]
    exact List.mem_flatMap.mpr ⟨_, member, List.mem_cons_self⟩
  · have last := congrArg List.getLast? parts
    rw [List.getLast?_append_of_ne_nil _ encodeChar_ne_nil, List.getLast?_concat] at last
    cases feed_not_mem_encodeChar feed (List.mem_of_getLast? last)

/-- The first line of some bytes as a text, if anything follows it. -/
theorem line_of_decode {bytes : Bytes} {cs : List Char} (decoded : Utf8.decode (splitLine bytes).1 = .ok cs)
    (more : (splitLine bytes).2 ≠ []) :
  ∃ line, '\n' ∉ line ∧ cs = line ++ ['\n'] ∧ bytes = Utf8.encode (line ++ ['\n']) ++ (splitLine bytes).2
  := by
  have encoded := Utf8.decode_eq_ok_iff.mp decoded
  obtain ⟨front, split, inside⟩ := splitLine_of_ne_nil more
  obtain ⟨line, inLine, rfl⟩ := line_of_encode inside (encoded.symm.trans split)
  refine ⟨line, inLine, rfl, ?_⟩
  rw [← encoded, splitLine_append]

theorem ne_nil_of_headers {closed : Bool} {found : Option Nat} {bytes rest : Bytes} {n : Nat}
    (read : headers closed found bytes = .ok (n, rest)) :
  bytes ≠ []
  := by
  rintro rfl
  rw [headers] at read
  cases read

/-- What the reader of headers takes off the bytes are headers, if anything follows them. -/
theorem isHeading_of_headers {closed : Bool} {found : Option Nat} {bytes rest : Bytes} {n : Nat}
    (read : headers closed found bytes = .ok (n, rest)) (more : rest ≠ []) :
  ∃ lines blank, IsHeading lines blank ∧ Announces found lines n
    ∧ bytes = encodeLines (lines ++ [blank]) ++ rest
  := by
  fun_induction headers closed found bytes with
  | case1 => cases read
  | case2 => cases read
  | case3 => cases read
  | case4 b bytes after _ line decoded empty =>
    obtain ⟨rfl, rfl⟩ := Prod.mk.inj (Except.ok.inj read)
    obtain ⟨line, inLine, rfl, whole⟩ := line_of_decode decoded more
    rw [trim_line] at empty
    refine ⟨[], line, .nil inLine (Text.trim_eq_nil_iff.mp empty), announces_nil.mpr rfl, whole.trans ?_⟩
    rw [List.nil_append, encodeLines_cons, List.append_assoc]
    rfl
  | case5 => cases read
  | case6 found b bytes after _ line decoded header none ih =>
    obtain ⟨line, inLine, rfl, whole⟩ := line_of_decode decoded (ne_nil_of_headers read)
    obtain ⟨lines, blank, heading, announced, later⟩ := ih read
    rw [trim_line] at header none
    have other : ∀ text, ¬ GivesLength line text := by
      intro text given
      rw [lengthValue?_trim_eq_some_iff.mpr given] at none
      cases none
    have solid := Text.trim_ne_nil_iff.mp header
    refine ⟨line :: lines, blank, heading.cons inLine solid fun text given => absurd given (other text),
      (announces_cons_of_other other).mpr announced, whole.trans ?_⟩
    rw [List.cons_append, encodeLines_cons, List.append_assoc, ← later]
  | case7 found b bytes after _ line decoded text n value header given ih =>
    obtain ⟨line, inLine, rfl, whole⟩ := line_of_decode decoded (ne_nil_of_headers read)
    obtain ⟨lines, blank, heading, announced, later⟩ := ih read
    rw [trim_line] at header given
    have gives := lengthValue?_trim_eq_some_iff.mp given
    have number := length?_eq_ok_iff.mp value
    have solid := Text.trim_ne_nil_iff.mp header
    have length : ∀ text, GivesLength line text → ∃ n, IsLength text n :=
      fun text' given' => ⟨_, gives.unique given' ▸ number⟩
    refine ⟨line :: lines, blank, heading.cons inLine solid length,
      (announces_cons_of_length gives number).mpr announced, whole.trans ?_⟩
    rw [List.cons_append, encodeLines_cons, List.append_assoc, ← later]
  | case8 => cases read

/-- The reader of headers takes headers and the blank line after them off the bytes, and the length is the
one that they announce. -/
theorem headers_eq_ok_iff {closed : Bool} {found : Option Nat} {bytes rest : Bytes} {n : Nat}
    (more : rest ≠ []) :
  headers closed found bytes = .ok (n, rest)
    ↔ ∃ lines blank, IsHeading lines blank ∧ Announces found lines n
      ∧ bytes = encodeLines (lines ++ [blank]) ++ rest
  := by
  constructor
  · intro read
    apply isHeading_of_headers read more
  · rintro ⟨lines, blank, heading, announced, rfl⟩
    apply heading.headers_eq announced

end PlanetServer.Frame
