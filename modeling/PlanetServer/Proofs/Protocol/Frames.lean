import PlanetServer.Proofs.Json.RoundTrip
import PlanetServer.Proofs.Text.Blank
import PlanetServer.Protocol.Frame

/-!
# Frames read back

A message is read back from its frame, whatever bytes follow, and these bytes are left for the next
reading.

* `Frame.headers_line` says what the reader of headers does with one whole line.
* `Frame.headers_write` reads the headers that are written.
* `Frame.frames_read_back` reads any number of messages back.
-/

namespace PlanetServer.Frame

open Utf8 (Bytes)

/-! ### Lines -/

theorem feed_not_mem_encodeChar {c : Char} (other : c ≠ '\n') :
  0x0A ∉ Utf8.encodeChar c
  := by
  have code : c.toNat ≠ 0x0A := by
    intro same
    apply other
    rw [← Char.ofNat_toNat c, same]
  have differs {n : Nat} (small : n < 0x100) (other : n ≠ 0x0A) : 0x0A ≠ Utf8.byte n := by
    intro same
    apply other
    rw [← Utf8.toNat_byte small, ← same]
    rfl
  have valid : c.toNat < 0xD800 ∨ 0xDFFF < c.toNat ∧ c.toNat < 0x110000 := c.valid
  simp only [Utf8.encodeChar]
  split
  · simp only [List.mem_singleton]
    apply differs (by omega) code
  split
  · simp only [List.mem_cons, List.not_mem_nil, or_false, not_or]
    refine ⟨differs ?_ ?_, differs ?_ ?_⟩ <;> omega
  split
  · simp only [List.mem_cons, List.not_mem_nil, or_false, not_or]
    refine ⟨differs ?_ ?_, differs ?_ ?_, differs ?_ ?_⟩ <;> omega
  · simp only [List.mem_cons, List.not_mem_nil, or_false, not_or]
    refine ⟨differs ?_ ?_, differs ?_ ?_, differs ?_ ?_, differs ?_ ?_⟩ <;> omega

theorem feed_not_mem_encode {line : List Char} (inside : '\n' ∉ line) :
  0x0A ∉ Utf8.encode line
  := by
  intro member
  obtain ⟨c, known, member⟩ := List.mem_flatMap.mp member
  apply feed_not_mem_encodeChar _ member
  rintro rfl
  apply inside known

theorem splitLine_of_not_mem {line : Bytes} (inside : 0x0A ∉ line) (rest : Bytes) :
  splitLine (line ++ 0x0A :: rest) = (line ++ [0x0A], rest)
  := by
  induction line with
  | nil => rfl
  | cons b line ih =>
    obtain ⟨other, later⟩ := not_or.mp (mt List.mem_cons.mpr inside)
    rw [List.cons_append, splitLine, if_neg (Ne.symm other), ih later]
    rfl

/-- What the reader of headers does with one line that has its line feed. -/
theorem headers_line {line : List Char} (inside : '\n' ∉ line) (closed : Bool) (found : Option Nat)
    (rest : Bytes) :
  headers closed found (Utf8.encode (line ++ ['\n']) ++ rest)
    = match Text.trim (line ++ ['\n']) with
      | [] =>
        match found with
        | some length => .ok (length, rest)
        | none => .error (.fault .noLength)
      | header =>
        match lengthValue? header with
        | none => headers closed found rest
        | some value =>
          match length? value with
          | .ok length => headers closed (some length) rest
          | .error why => .error (.fault (.badLength why))
  := by
  have feed : Utf8.encode (line ++ ['\n']) = Utf8.encode line ++ [0x0A] := by
    simp only [Utf8.encode, List.flatMap_append]
    rfl
  have split := splitLine_of_not_mem (feed_not_mem_encode inside) rest
  have decoded := Utf8.decode_encode (line ++ ['\n'])
  rw [feed] at decoded
  rw [feed, List.append_assoc, List.singleton_append]
  obtain ⟨b, bs, bytes⟩ : ∃ b bs, Utf8.encode line ++ 0x0A :: rest = b :: bs := by
    apply List.exists_cons_of_ne_nil
    simp
  have whole : isWholeLine (Utf8.encode line ++ [0x0A]) = true := by simp [isWholeLine]
  rw [bytes] at split ⊢
  have answer := headers.eq_def closed found (b :: bs)
  simp only [split, whole, decoded, Bool.not_true, Bool.and_false, Bool.false_eq_true,
    ↓reduceIte] at answer
  exact answer

/-! ### The length -/

theorem digitsFrom_of_fits {digits : List Char} {value : Nat}
    (decimal : ∀ c ∈ digits, Json.isDigit c = true)
    (fits : Nat.ofDigitChars 10 digits value ≤ maxLength) :
  digitsFrom value digits = .ok (Nat.ofDigitChars 10 digits value)
  := by
  induction digits generalizing value with
  | nil => rw [digitsFrom, Nat.ofDigitChars_nil]
  | cons c digits ih =>
    obtain ⟨digit, later⟩ := List.forall_mem_cons.mp decimal
    rw [Nat.ofDigitChars_cons] at fits ⊢
    have within := Nat.le_trans (Json.Number.le_ofDigitChars digits _) fits
    rw [digitsFrom, if_pos digit, ← ih later fits]
    apply if_neg
    omega

theorem isDigit_of_mem_toDigits {c : Char} {n : Nat} (member : c ∈ Nat.toDigits 10 n) :
  Json.isDigit c = true
  := Nat.isDigit_of_mem_toDigits (by decide) (by decide) member

/-- A length is read back from its digits. -/
theorem length?_toDigits {n : Nat} (fits : n ≤ maxLength) :
  length? (Nat.toDigits 10 n) = .ok n
  := by
  have read : digitsFrom 0 (Nat.toDigits 10 n) = .ok n := by
    rw [digitsFrom_of_fits (fun c member => isDigit_of_mem_toDigits member)]
    · rw [Nat.ofDigitChars_ten_toDigits]
    · rwa [Nat.ofDigitChars_ten_toDigits]
  obtain ⟨c, cs, digits⟩ := List.exists_cons_of_ne_nil (Nat.toDigits_ne_nil (n := n) (b := 10))
  have plain : c ≠ '+' := by
    have digit : Json.isDigit c = true := by
      apply isDigit_of_mem_toDigits (n := n)
      rw [digits]
      apply List.mem_cons_self
    rintro rfl
    apply absurd digit
    decide
  rw [digits] at read ⊢
  simpa [length?, plain] using read

theorem isBlank_toDigits {n : Nat} :
  ∀ c ∈ Nat.toDigits 10 n, Text.isBlank c = false
  := by
  intro c member
  have digit := isDigit_of_mem_toDigits member
  simp only [Json.isDigit, Bool.and_eq_true, decide_eq_true_eq] at digit
  have least : 0x30 ≤ c.toNat := digit.1
  have most : c.toNat ≤ 0x39 := digit.2
  simp only [Text.isBlank, Text.blankRanges, Text.covers]
  grind

theorem trimmed_toDigits (n : Nat) :
  Text.Trimmed (Nat.toDigits 10 n) where
  first c first := isBlank_toDigits c (List.mem_of_mem_head? first)
  last c last := isBlank_toDigits c (List.mem_of_mem_getLast? last)

/-! ### Headers -/

/-- The header that gives a length. -/
def lengthHeader (n : Nat) : List Char :=
  "Content-Length: ".toList ++ Nat.toDigits 10 n

theorem trimmed_lengthHeader (n : Nat) :
  Text.Trimmed (lengthHeader n)
  := by
  have start : (lengthHeader n).head? = some 'C' := rfl
  have finish : (lengthHeader n).getLast? = (Nat.toDigits 10 n).getLast? :=
    List.getLast?_append_of_ne_nil _ Nat.toDigits_ne_nil
  constructor
  · intro c first
    obtain rfl : 'C' = c := Option.some.inj (start.symm.trans first)
    decide
  · rw [finish]
    apply (trimmed_toDigits n).last

theorem trim_lengthHeader (n : Nat) :
  Text.trim (lengthHeader n ++ ['\r'] ++ ['\n']) = lengthHeader n
  := by
  have ends : ∀ c ∈ ['\r', '\n'], Text.isBlank c = true :=
    List.forall_mem_cons.mpr ⟨rfl, List.forall_mem_singleton.mpr rfl⟩
  have alone : Text.trim ([] ++ lengthHeader n ++ ['\r', '\n']) = lengthHeader n :=
    (trimmed_lengthHeader n).trim_between nofun ends
  rwa [List.nil_append, ← List.singleton_append, ← List.append_assoc] at alone

theorem lengthValue?_lengthHeader (n : Nat) :
  lengthValue? (lengthHeader n) = some (Nat.toDigits 10 n)
  := by
  have after : (lengthHeader n).dropWhile (· ≠ ':') = ':' :: ' ' :: Nat.toDigits 10 n := rfl
  have before : (lengthHeader n).takeWhile (· ≠ ':') = "Content-Length".toList := rfl
  have name : (Text.trim "Content-Length".toList).map lower = lengthName := by decide
  have space : ∀ c ∈ [' '], Text.isBlank c = true := List.forall_mem_singleton.mpr rfl
  have value : Text.trim ([' '] ++ Nat.toDigits 10 n ++ []) = Nat.toDigits 10 n :=
    (trimmed_toDigits n).trim_between space nofun
  rw [List.append_nil, List.singleton_append] at value
  rw [lengthValue?, after, before]
  simp only [name, ↓reduceIte, value]

theorem not_mem_lengthHeader (n : Nat) :
  '\n' ∉ lengthHeader n ++ ['\r']
  := by
  intro member
  rcases List.mem_append.mp member with inHeader | last
  · rcases List.mem_append.mp inHeader with inName | inDigits
    · revert inName
      decide
    · apply absurd (isDigit_of_mem_toDigits inDigits)
      decide
  · revert last
    decide

/-- The headers of a frame give the length of the body, and leave what follows them. -/
theorem headers_write {n : Nat} (fits : n ≤ maxLength) (closed : Bool) (rest : Bytes) :
  headers closed none (Utf8.encode (lengthHeader n ++ ['\r'] ++ ['\n'])
      ++ (Utf8.encode (['\r'] ++ ['\n']) ++ rest))
    = .ok (n, rest)
  := by
  have blank : Text.trim (['\r'] ++ ['\n']) = [] := by decide
  rw [headers_line (not_mem_lengthHeader n), trim_lengthHeader]
  split
  · rename_i empty
    cases empty
  · rw [lengthValue?_lengthHeader]
    simp only [length?_toDigits fits]
    rw [headers_line (by decide), blank]

/-! ### Frames -/

theorem write_append (json : Json) (rest : Bytes) :
  write json ++ rest
    = Utf8.encode (lengthHeader (Utf8.encode json.compact).length ++ ['\r'] ++ ['\n'])
        ++ (Utf8.encode (['\r'] ++ ['\n']) ++ (Utf8.encode json.compact ++ rest))
  := by
  have ends : "\r\n\r\n".toList = ['\r'] ++ ['\n'] ++ (['\r'] ++ ['\n']) := by decide
  unfold write lengthHeader
  dsimp only
  rw [Utf8.encodeString, String.toList_append, String.toList_append, Nat.toList_repr, ends]
  generalize (Utf8.encode json.compact).length = n
  simp only [Utf8.encode, List.flatMap_append, List.append_assoc]

/-- The messages that can be sent: the body is not too long, and not nested too deeply. -/
structure Sendable (json : Json) : Prop where
  /-- It is one of the values that messages consist of. -/
  held : json.Held
  /-- It is not nested too deeply. -/
  nested : json.depth ≤ Json.maxLevels
  /-- Its body is not too long. -/
  short : (Utf8.encode json.compact).length ≤ maxBytes

/-- A message is read back from its frame, and what follows the frame is left. -/
theorem Sendable.read_write {json : Json} (sendable : Sendable json) (closed : Bool) (rest : Bytes) :
  read closed (write json ++ rest) = .message json rest
  := by
  have short := sendable.short
  have parsed := sendable.held.read?_encode sendable.nested
  have fits : (Utf8.encode json.compact).length ≤ maxLength := Nat.le_trans short (by decide)
  have found := headers_write fits closed (Utf8.encode json.compact ++ rest)
  rw [write_append]
  obtain ⟨b, bs, bytes⟩ : ∃ b bs, Utf8.encode (lengthHeader (Utf8.encode json.compact).length
      ++ ['\r'] ++ ['\n']) ++ (Utf8.encode (['\r'] ++ ['\n']) ++ (Utf8.encode json.compact ++ rest))
      = b :: bs := ⟨_, _, rfl⟩
  rw [bytes] at found ⊢
  simp only [read, found, body, List.take_left, List.drop_left, parsed]
  rw [if_neg (by omega), if_neg (by simp)]

theorem readAll_of_message {bytes rest : Bytes} {json : Json}
    (first : read true bytes = .message json rest) :
  readAll bytes = (json :: (readAll rest).1, (readAll rest).2)
  := by
  rw [readAll]
  split
  · simp_all
  · simp_all
  · simp_all
  · rename_i read
    obtain ⟨rfl, rfl⟩ := Reading.message.inj (first.symm.trans read)
    rfl

/-- Messages are read back from their frames one after the other: each leaves what follows its frame,
and reading all of the frames ends without a fault. -/
theorem frames_read_back (jsons : List Json) (sendable : ∀ json ∈ jsons, Sendable json) :
  (∀ json ∈ jsons, ∀ closed rest, read closed (write json ++ rest) = .message json rest)
    ∧ readAll (writeAll jsons) = (jsons, none)
  := by
  constructor
  · intro json member closed rest
    apply (sendable json member).read_write
  · induction jsons with
    | nil =>
      rw [writeAll, List.flatMap_nil, readAll]
      rfl
    | cons json jsons ih =>
      obtain ⟨first, later⟩ := List.forall_mem_cons.mp sendable
      rw [writeAll, List.flatMap_cons, ← writeAll, readAll_of_message (first.read_write true _),
        ih later]

/-- A message with a value of every kind. -/
def mixedMessage : Json :=
  .object [("id", .int (-7)),
    ("params", .array [.number (.real false 15 (-1)), .string "\"é\n", .bool true, .null])]

theorem sendable_mixedMessage : Sendable mixedMessage where
  held := by
    have decimal : Json.Number.ReadsBack (.real false 15 (-1)) := by
      unfold Json.Number.ReadsBack
      decide +kernel
    apply Json.Held.object (by decide)
    simp only [List.forall_mem_cons]
    refine ⟨.int (by decide), .array ?_, nofun⟩
    simp only [List.forall_mem_cons]
    exact ⟨.real decimal, .string _, .bool _, .null, nofun⟩
  nested := by decide
  short := by decide +kernel

/-- A message of every kind of value and one right after it are read back. -/
theorem frames_read_back_mixed :
  read false (write mixedMessage ++ write .null) = .message mixedMessage (write .null)
    ∧ readAll (writeAll [mixedMessage, .null]) = ([mixedMessage, .null], none)
  := by
  have sendable : ∀ json ∈ [mixedMessage, .null], Sendable json := by
    simp only [List.forall_mem_cons]
    exact ⟨sendable_mixedMessage, ⟨.null, by decide, by decide⟩, nofun⟩
  obtain ⟨each, all⟩ := frames_read_back [mixedMessage, .null] sendable
  constructor
  · apply each _ List.mem_cons_self
  · apply all

end PlanetServer.Frame
