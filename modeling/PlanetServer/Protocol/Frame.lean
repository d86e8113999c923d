import PlanetServer.Json.Reader
import PlanetServer.Json.Writer
import PlanetServer.Text.Basic

/-!
# Frames

Messages travel as frames: header lines, a blank line, and then as many bytes of JSON as the header
`Content-Length` says. Other headers are ignored, and of several lengths the last one counts.

* `Frame.write` writes a value as a frame.
* `Frame.read` reads one frame off the bytes of a stream, which may be closed after them or go on.
* `Frame.readAll` reads frames to the end of a closed stream, or up to the first fault.
-/

namespace PlanetServer.Frame

open Utf8 (Bytes)

/-- The greatest length of a body, in bytes. -/
def maxBytes : Nat :=
  33554432

/-- The greatest number that a header can give. -/
def maxLength : Nat :=
  18446744073709551615

/-- Why a text is not a length. -/
inductive LengthFault where
  /-- There are no digits. -/
  | empty
  /-- A character is not a digit. -/
  | invalidDigit
  /-- The number is too large. -/
  | tooLarge
deriving DecidableEq, Repr

/-- What a fault of a length says. -/
def LengthFault.message : LengthFault → String
  | empty => "cannot parse integer from empty string"
  | invalidDigit => "invalid digit found in string"
  | tooLarge => "number too large to fit in target type"

/-- Why a frame could not be read. -/
inductive Error where
  /-- A header line is not text. -/
  | headerNotText (why : Utf8.Error)
  /-- The bytes end within the headers. -/
  | endInHeaders
  /-- No header gives a length. -/
  | noLength
  /-- A header gives a length that is not a number. -/
  | badLength (why : LengthFault)
  /-- The body would be too long. -/
  | tooLong (length : Nat)
  /-- The bytes end within the body. -/
  | endInBody
  /-- The body is not JSON. -/
  | notJson
deriving DecidableEq, Repr

/-- What an error says, from the outermost circumstance to the innermost reason. -/
def Error.chain : Error → List String
  | headerNotText why => ["reading header line", why.message]
  | endInHeaders => ["unexpected EOF while reading headers"]
  | noLength => ["missing Content-Length header"]
  | badLength why => ["invalid Content-Length value", why.message]
  | tooLong length =>
    ["Content-Length " ++ length.repr ++ " exceeds maximum " ++ maxBytes.repr]
  | endInBody => ["reading frame body", "early eof"]
  | notJson => ["parsing JSON-RPC frame", "<json>"]

/-! ### Headers -/

/-- The value of digits after those that gave `value`. -/
def digitsFrom (value : Nat) : List Char → Except LengthFault Nat
  | [] => .ok value
  | c :: cs =>
    if Json.isDigit c then
      let next := 10 * value + (c.toNat - '0'.toNat)
      if maxLength < next then .error .tooLarge else digitsFrom next cs
    else .error .invalidDigit

/-- The number that a text stands for: decimal digits, perhaps after a plus sign. -/
def length? : List Char → Except LengthFault Nat
  | [] => .error .empty
  | ['+'] => .error .invalidDigit
  | '+' :: cs => digitsFrom 0 cs
  | cs => digitsFrom 0 cs

/-- A character with a capital letter of the alphabet made small. -/
def lower (c : Char) : Char :=
  if 'A' ≤ c ∧ c ≤ 'Z' then Char.ofNat (c.toNat + 32) else c

/-- The name of the header that gives the length, in small letters. -/
def lengthName : List Char :=
  "content-length".toList

/-- The value of a header line that gives the length, none for any other line. -/
def lengthValue? (header : List Char) : Option (List Char) :=
  match header.dropWhile (· ≠ ':') with
  | [] => none
  | _ :: value =>
    let name := Text.trim (header.takeWhile (· ≠ ':'))
    if name.map lower = lengthName then some (Text.trim value) else none

/-- The first line with its line feed, and what follows it. -/
def splitLine : Bytes → Bytes × Bytes
  | [] => ([], [])
  | b :: bs =>
    if b = 0x0A then ([b], bs)
    else
      let (line, rest) := splitLine bs
      (b :: line, rest)

theorem splitLine_append (bytes : Bytes) :
  (splitLine bytes).1 ++ (splitLine bytes).2 = bytes
  := by
  induction bytes with
  | nil => rfl
  | cons b bs ih =>
    simp only [splitLine]
    split
    · rfl
    · simp [ih]

theorem splitLine_rest_lt (b : UInt8) (bs : Bytes) :
  (splitLine (b :: bs)).2.length < (b :: bs).length
  := by
  simp only [splitLine]
  split
  · simp
  · have lengths := congrArg List.length (splitLine_append bs)
    simp only [List.length_append] at lengths
    simp only [List.length_cons]
    omega

/-- Why there is no message yet. -/
inductive Stop where
  /-- More bytes are needed to tell. -/
  | waiting
  /-- The bytes are at fault. -/
  | fault (why : Error)
deriving DecidableEq, Repr

/-- Whether a line has its line feed. -/
def isWholeLine (line : Bytes) : Bool :=
  line.getLast? = some 0x0A

/-- The length that the header lines give, and what follows the blank line after them, given the
length that the lines before gave. A line without its line feed counts once the stream is closed. -/
def headers (closed : Bool) (found : Option Nat) : Bytes → Except Stop (Nat × Bytes)
  | [] => .error (if closed then .fault .endInHeaders else .waiting)
  | b :: bs =>
    let rest := (splitLine (b :: bs)).2
    if !closed && !isWholeLine (splitLine (b :: bs)).1 then .error .waiting
    else
      match Utf8.decode (splitLine (b :: bs)).1 with
      | .error why => .error (.fault (.headerNotText why))
      | .ok line =>
        match Text.trim line with
        | [] =>
          match found with
          | some length => .ok (length, rest)
          | none => .error (.fault .noLength)
        | header =>
          match lengthValue? header with
          | none => headers closed found rest
          | some value =>
            match length? value with
            | .ok length => headers closed (some length) rest
            | .error why => .error (.fault (.badLength why))
termination_by bytes => bytes.length
decreasing_by all_goals exact splitLine_rest_lt b bs

/-! ### Whole frames -/

/-- What stands at the start of the bytes received so far. -/
inductive Reading where
  /-- A message, and what follows it. -/
  | message (json : Json) (rest : Bytes)
  /-- A part of a message, or nothing. -/
  | waiting
  /-- The end of a stream that was closed between messages. -/
  | finished
  /-- A fault. -/
  | failed (why : Error)

/-- The message in a body of a given length at the start of some bytes. -/
def body (closed : Bool) (length : Nat) (bytes : Bytes) : Reading :=
  if maxBytes < length then .failed (.tooLong length)
  else if bytes.length < length then if closed then .failed .endInBody else .waiting
  else
    match Json.read? (bytes.take length) with
    | some json => .message json (bytes.drop length)
    | none => .failed .notJson

/-- The next message of a stream that is closed after some bytes, or may go on. -/
def read (closed : Bool) (bytes : Bytes) : Reading :=
  match bytes with
  | [] => if closed then .finished else .waiting
  | b :: bs =>
    match headers closed none (b :: bs) with
    | .error .waiting => .waiting
    | .error (.fault why) => .failed why
    | .ok (length, rest) => body closed length rest

theorem headers_rest_lt (closed : Bool) (found : Option Nat) (bytes : Bytes) (length : Nat)
    (rest : Bytes) (h : headers closed found bytes = .ok (length, rest)) :
  rest.length < bytes.length
  := by
  fun_induction headers closed found bytes with
  | case1 => cases h
  | case2 => cases h
  | case3 => cases h
  | case4 =>
    simp only [Except.ok.injEq, Prod.mk.injEq] at h
    obtain ⟨-, rfl⟩ := h
    apply splitLine_rest_lt
  | case5 => cases h
  | case6 =>
    rename_i ih
    apply Nat.lt_trans (ih h)
    apply splitLine_rest_lt
  | case7 =>
    rename_i ih
    apply Nat.lt_trans (ih h)
    apply splitLine_rest_lt
  | case8 => cases h

theorem body_rest_le {closed : Bool} {length : Nat} {bytes rest : Bytes} {json : Json}
    (h : body closed length bytes = .message json rest) :
  rest.length ≤ bytes.length
  := by
  unfold body at h
  split at h
  · cases h
  split at h
  · split at h <;> cases h
  split at h
  · simp only [Reading.message.injEq] at h
    obtain ⟨-, rfl⟩ := h
    simp
  · cases h

/-- A frame takes at least one byte. -/
theorem read_rest_lt {closed : Bool} {bytes rest : Bytes} {json : Json}
    (h : read closed bytes = .message json rest) :
  rest.length < bytes.length
  := by
  unfold read at h
  split at h
  · split at h <;> cases h
  split at h
  · cases h
  · cases h
  · rename_i length after found
    have shorter := headers_rest_lt _ _ _ _ _ found
    have within := body_rest_le h
    omega

/-- The messages of a closed stream up to its end or the first fault, and the fault if there is
one. -/
def readAll (bytes : Bytes) : List Json × Option Error :=
  match _h : read true bytes with
  | .waiting | .finished => ([], none)
  | .failed why => ([], some why)
  | .message json rest =>
    let (jsons, why) := readAll rest
    (json :: jsons, why)
termination_by bytes.length
decreasing_by exact read_rest_lt _h

/-- How many bytes have to follow some bytes, at least, before there can be another message. -/
def lack (bytes : Bytes) : Nat :=
  match headers false none bytes with
  | .ok (length, rest) => max 1 (length - rest.length)
  | .error _ => 1

/-- A value as a frame. -/
def write (json : Json) : Bytes :=
  let body := Utf8.encode json.compact
  Utf8.encodeString ("Content-Length: " ++ body.length.repr ++ "\r\n\r\n") ++ body

/-- Values as frames, one after the other. -/
def writeAll (jsons : List Json) : Bytes :=
  jsons.flatMap write

end PlanetServer.Frame
