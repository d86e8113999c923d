import PlanetServer.Proofs.Protocol.Headers

/-!
# The framing format

The reader of frames accepts the frames of the format, one after the other, and nothing else.

* `IsFrame` describes the bytes of a frame by its parts.
* `read_eq_message_iff` says that the reader takes exactly one frame off the bytes.
* `Divides` divides bytes into frames and what follows the last of them, and `readAll_accepts` says that this
  is what the reader returns, with a fault unless nothing follows.
-/

namespace PlanetServer.Frame

open Utf8 (Bytes)

/-! ### The parts of a frame -/

/-- The parts of a frame. -/
structure Parts where
  /-- The headers, without their line feeds. -/
  headers : List (List Char)
  /-- The line that ends the headers, without its line feed. -/
  blank : List Char
  /-- The bytes of the message. -/
  body : Bytes

namespace Parts

/-- The bytes of a frame with these parts. -/
def bytes (p : Parts) : Bytes :=
  encodeLines (p.headers ++ [p.blank]) ++ p.body

/-- The parts make up a frame that holds the value. -/
structure IsValid (p : Parts) (json : Json) : Prop where
  /-- The lines are headers and a blank line. -/
  heading : IsHeading p.headers p.blank
  /-- The last length among the headers is that of the message. -/
  length : LastLength p.headers p.body.length
  /-- The message is not too long. -/
  short : p.body.length ≤ maxBytes
  /-- The message is the value as JSON. -/
  message : Json.read? p.body = some json

end Parts

/-- The bytes are a frame that holds the value. -/
def IsFrame (bytes : Bytes) (json : Json) : Prop :=
  ∃ p : Parts, p.bytes = bytes ∧ p.IsValid json

/-! ### Reading one frame -/

theorem body_eq_message_iff {closed : Bool} {n : Nat} {bytes rest : Bytes} {json : Json} :
  body closed n bytes = .message json rest
    ↔ n ≤ maxBytes ∧ ∃ part, part.length = n ∧ bytes = part ++ rest ∧ Json.read? part = some json
  := by
  constructor
  · intro read
    unfold body at read
    split at read
    · cases read
    rename_i short
    split at read
    · split at read <;> cases read
    rename_i enough
    split at read
    · rename_i parsed
      obtain ⟨rfl, rfl⟩ := Reading.message.inj read
      have length := List.length_take_of_le (Nat.le_of_not_lt enough)
      exact ⟨Nat.le_of_not_lt short, bytes.take n, length, (List.take_append_drop n bytes).symm, parsed⟩
    · cases read
  · rintro ⟨short, part, rfl, rfl, parsed⟩
    have enough : ¬ (part ++ rest).length < part.length := by simp
    rw [body, if_neg (Nat.not_lt_of_le short), if_neg enough, List.take_left, List.drop_left, parsed]

theorem ne_nil_of_read? {part : Bytes} {json : Json} (parsed : Json.read? part = some json) :
  part ≠ []
  := by
  rintro rfl
  have empty : Utf8.decode [] = .ok [] := Utf8.decode_encode []
  rw [Json.read?, empty] at parsed
  cases parsed

/-- The reader takes exactly one frame off the bytes. -/
theorem read_eq_message_iff {closed : Bool} {bytes rest : Bytes} {json : Json} :
  read closed bytes = .message json rest ↔ ∃ frame, IsFrame frame json ∧ bytes = frame ++ rest
  := by
  constructor
  · intro message
    unfold read at message
    split at message
    · split at message <;> cases message
    split at message
    · cases message
    · cases message
    rename_i b bytes n after found
    obtain ⟨short, part, rfl, rfl, parsed⟩ := body_eq_message_iff.mp message
    have more : part ++ rest ≠ [] := List.append_ne_nil_of_left_ne_nil (ne_nil_of_read? parsed) _
    obtain ⟨lines, blank, heading, announced, whole⟩ := (headers_eq_ok_iff more).mp found
    have last : LastLength lines part.length := by
      rcases announced with last | ⟨none, -⟩
      · exact last
      · cases none
    refine ⟨_, ⟨⟨lines, blank, part⟩, rfl, heading, last, short, parsed⟩, ?_⟩
    rw [whole, Parts.bytes, List.append_assoc]
  · rintro ⟨_, ⟨p, rfl, valid⟩, rfl⟩
    have more : p.body ++ rest ≠ [] := List.append_ne_nil_of_left_ne_nil (ne_nil_of_read? valid.message) _
    have whole : p.bytes ++ rest = encodeLines (p.headers ++ [p.blank]) ++ (p.body ++ rest) := by
      rw [Parts.bytes, List.append_assoc]
    have found : headers closed none (p.bytes ++ rest) = .ok (p.body.length, p.body ++ rest) :=
      (headers_eq_ok_iff more).mpr ⟨_, _, valid.heading, .inl valid.length, whole⟩
    obtain ⟨b, bytes, held⟩ := List.exists_cons_of_ne_nil (ne_nil_of_headers found)
    rw [held] at found ⊢
    simp only [read, found]
    exact body_eq_message_iff.mpr ⟨valid.short, p.body, rfl, rfl, valid.message⟩

/-- What is written as a frame is one. -/
theorem Sendable.isFrame_write {json : Json} (sendable : Sendable json) :
  IsFrame (write json) json
  := by
  obtain ⟨frame, isFrame, whole⟩ := read_eq_message_iff.mp (sendable.read_write true [])
  rwa [List.append_cancel_right whole]

/-! ### Reading to the end -/

theorem headers_ne_waiting (found : Option Nat) (bytes : Bytes) :
  headers true found bytes ≠ .error .waiting
  := by
  intro waiting
  fun_induction headers true found bytes with
  | case1 => cases waiting
  | case2 b bytes after unfinished => cases unfinished
  | case3 => cases waiting
  | case4 => cases waiting
  | case5 => cases waiting
  | case6 found b bytes after _ line decoded header none ih => exact ih waiting
  | case7 found b bytes after _ line decoded text n value header given ih => exact ih waiting
  | case8 => cases waiting

theorem body_cases (n : Nat) (bytes : Bytes) :
  (∃ json rest, body true n bytes = .message json rest) ∨ ∃ why, body true n bytes = .failed why
  := by
  unfold body
  split
  · exact .inr ⟨_, rfl⟩
  split
  · exact .inr ⟨_, rfl⟩
  split
  · exact .inl ⟨_, _, rfl⟩
  · exact .inr ⟨_, rfl⟩

/-- A closed stream starts with a frame, or is empty, or is at fault. -/
theorem read_cases (bytes : Bytes) :
  (∃ json rest, read true bytes = .message json rest)
    ∨ (bytes = [] ∧ read true bytes = .finished)
    ∨ (bytes ≠ [] ∧ ∃ why, read true bytes = .failed why)
  := by
  rcases bytes with _ | ⟨b, bytes⟩
  · exact .inr (.inl ⟨rfl, rfl⟩)
  cases found : headers true none (b :: bytes) with
  | ok after =>
    have answer : read true (b :: bytes) = body true after.1 after.2 := by simp only [read, found]
    rw [answer]
    rcases body_cases after.1 after.2 with message | failed
    · exact .inl message
    · exact .inr (.inr ⟨List.cons_ne_nil b bytes, failed⟩)
  | error stop =>
    cases stop with
    | waiting => cases headers_ne_waiting none (b :: bytes) found
    | fault why =>
      have answer : read true (b :: bytes) = .failed why := by simp only [read, found]
      exact .inr (.inr ⟨List.cons_ne_nil b bytes, why, answer⟩)

theorem readAll_nil :
  readAll [] = ([], none)
  := by
  rw [readAll]
  rfl

theorem readAll_of_failed {bytes : Bytes} {why : Error} (failed : read true bytes = .failed why) :
  readAll bytes = ([], some why)
  := by
  rw [readAll]
  split <;> simp_all

/-- The bytes are frames one after the other, with their values, and what follows the last of them, which
does not start with a frame. -/
structure Divides (bytes : Bytes) (frames : List (Bytes × Json)) (rest : Bytes) : Prop where
  /-- Each part is a frame that holds its value. -/
  valid : ∀ f ∈ frames, IsFrame f.1 f.2
  /-- The frames and the rest are all of the bytes. -/
  whole : bytes = frames.flatMap Prod.fst ++ rest
  /-- No frame stands at the start of the rest. -/
  fault : ∀ frame json, IsFrame frame json → ¬ frame <+: rest

/-- The values of frames are read one after the other. -/
theorem readAll_append {frames : List (Bytes × Json)} (valid : ∀ f ∈ frames, IsFrame f.1 f.2) (rest : Bytes) :
  readAll (frames.flatMap Prod.fst ++ rest) = (frames.map Prod.snd ++ (readAll rest).1, (readAll rest).2)
  := by
  induction frames with
  | nil => rfl
  | cons f frames ih =>
    obtain ⟨isFrame, later⟩ := List.forall_mem_cons.mp valid
    rw [List.flatMap_cons, List.append_assoc,
      readAll_of_message (read_eq_message_iff.mpr ⟨f.1, isFrame, rfl⟩), ih later]
    rfl

/-- What does not start with a frame is at fault, unless there is nothing left. -/
theorem readAll_of_fault {rest : Bytes} (fault : ∀ frame json, IsFrame frame json → ¬ frame <+: rest) :
  (readAll rest).1 = [] ∧ ((readAll rest).2 = none ↔ rest = [])
  := by
  rcases read_cases rest with ⟨json, more, message⟩ | ⟨rfl, -⟩ | ⟨holds, why, failed⟩
  · obtain ⟨frame, isFrame, rfl⟩ := read_eq_message_iff.mp message
    cases fault frame json isFrame (List.prefix_append frame more)
  · rw [readAll_nil]
    simp
  · rw [readAll_of_failed failed]
    simp [holds]

/-- All bytes can be divided: frames are taken off as long as there are some. -/
theorem exists_divides (bytes : Bytes) :
  ∃ frames rest, Divides bytes frames rest
  := by
  by_cases starts : ∃ frame json, IsFrame frame json ∧ frame <+: bytes
  · obtain ⟨frame, json, isFrame, more, rfl⟩ := starts
    have message : read true (frame ++ more) = .message json more :=
      read_eq_message_iff.mpr ⟨frame, isFrame, rfl⟩
    have shorter := read_rest_lt message
    obtain ⟨frames, rest, valid, rfl, fault⟩ := exists_divides more
    refine ⟨(frame, json) :: frames, rest, List.forall_mem_cons.mpr ⟨isFrame, valid⟩, ?_, fault⟩
    rw [List.flatMap_cons, List.append_assoc]
  · refine ⟨[], bytes, nofun, rfl, ?_⟩
    intro frame json isFrame start
    exact starts ⟨frame, json, isFrame, start⟩
termination_by bytes.length

theorem Divides.readAll_eq {bytes rest : Bytes} {frames : List (Bytes × Json)}
    (divides : Divides bytes frames rest) :
  (readAll bytes).1 = frames.map Prod.snd ∧ ((readAll bytes).2 = none ↔ rest = [])
  := by
  obtain ⟨none, ends⟩ := readAll_of_fault divides.fault
  rw [divides.whole, readAll_append divides.valid, none, List.append_nil]
  exact ⟨rfl, ends⟩

/-- There is at most one value for each byte, since every value takes at least one byte. -/
theorem length_readAll_le (bytes : Bytes) :
  (readAll bytes).1.length ≤ bytes.length
  := by
  fun_induction readAll bytes with
  | case1 => apply Nat.zero_le
  | case2 => apply Nat.zero_le
  | case3 => apply Nat.zero_le
  | case4 bytes json rest message jsons why later ih =>
    rw [later] at ih
    apply Nat.lt_of_le_of_lt ih (read_rest_lt message)

/-- The reader accepts exactly the framing format. Reading to the end takes at most one round for each
byte. It ends without a fault if and only if the bytes are frames one after the other, and then it returns
their values. In any case it returns the values of the frames that stand before the first fault: the bytes
can be divided there, and however they are divided, these values are returned, with a fault unless nothing
follows them. -/
theorem readAll_accepts (bytes : Bytes) :
  (readAll bytes).1.length ≤ bytes.length
    ∧ ((readAll bytes).2 = none
      ↔ ∃ frames : List (Bytes × Json), (∀ f ∈ frames, IsFrame f.1 f.2) ∧ bytes = frames.flatMap Prod.fst)
    ∧ (∀ frames : List (Bytes × Json), (∀ f ∈ frames, IsFrame f.1 f.2) → bytes = frames.flatMap Prod.fst →
      readAll bytes = (frames.map Prod.snd, none))
    ∧ (∃ frames rest, Divides bytes frames rest)
    ∧ ∀ frames rest, Divides bytes frames rest →
      (readAll bytes).1 = frames.map Prod.snd ∧ ((readAll bytes).2 = none ↔ rest = [])
  := by
  have returned (frames : List (Bytes × Json)) (valid : ∀ f ∈ frames, IsFrame f.1 f.2)
      (whole : bytes = frames.flatMap Prod.fst) : readAll bytes = (frames.map Prod.snd, none) := by
    rw [whole, ← List.append_nil (frames.flatMap Prod.fst), readAll_append valid, readAll_nil,
      List.append_nil]
  refine ⟨length_readAll_le bytes, ⟨?_, ?_⟩, returned, exists_divides bytes,
    fun frames rest divides => divides.readAll_eq⟩
  · intro ends
    obtain ⟨frames, rest, divides⟩ := exists_divides bytes
    obtain rfl := divides.readAll_eq.2.mp ends
    refine ⟨frames, divides.valid, ?_⟩
    rw [divides.whole, List.append_nil]
  · rintro ⟨frames, valid, whole⟩
    rw [returned frames valid whole]

end PlanetServer.Frame
