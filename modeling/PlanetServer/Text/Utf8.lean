/-!
# UTF-8

Characters as bytes and back.

* `Utf8.encode` writes a text as bytes.
* `Utf8.first` reads the first character of some bytes, or says how many bytes are at fault.
* `Utf8.decode` refuses bytes that are not the bytes of a text, and says where they go wrong.
* `Utf8.decodeLossy` puts the replacement character in the place of each fault.
-/

namespace PlanetServer.Utf8

/-- A sequence of bytes. -/
abbrev Bytes := List UInt8

/-- The byte with the value `n`, which is below 256. -/
def byte (n : Nat) : UInt8 :=
  UInt8.ofNat n

/-- The bytes of a character. -/
def encodeChar (c : Char) : Bytes :=
  let n := c.toNat
  if n < 0x80 then [byte n]
  else if n < 0x800 then [byte (0xC0 + n / 0x40), byte (0x80 + n % 0x40)]
  else if n < 0x10000 then
    [byte (0xE0 + n / 0x1000), byte (0x80 + n / 0x40 % 0x40), byte (0x80 + n % 0x40)]
  else
    [byte (0xF0 + n / 0x40000), byte (0x80 + n / 0x1000 % 0x40), byte (0x80 + n / 0x40 % 0x40),
     byte (0x80 + n % 0x40)]

/-- The bytes of a text. -/
def encode (cs : List Char) : Bytes :=
  cs.flatMap encodeChar

/-- The bytes of a string. -/
def encodeString (s : String) : Bytes :=
  encode s.toList

/-- Why bytes do not start with a character. -/
inductive Fault where
  /-- So many bytes belong to no character. -/
  | invalid (length : Nat)
  /-- The bytes end within a character. -/
  | incomplete
deriving DecidableEq, Repr

/-- What stands at the start of a sequence of bytes. -/
inductive First where
  /-- There are no bytes. -/
  | done
  /-- A character, and the bytes after it. -/
  | char (c : Char) (rest : Bytes)
  /-- A fault. -/
  | fault (why : Fault)

/-- Whether a byte continues a character. -/
def continues (b : UInt8) : Bool :=
  0x80 ≤ b && b ≤ 0xBF

/-- The least and the greatest byte that may follow the first byte of a character of three or
four bytes: no character is written longer than needed, none is a surrogate, and none lies past
the last code point. -/
def secondBounds (lead : UInt8) : UInt8 × UInt8 :=
  if lead = 0xE0 then (0xA0, 0xBF)
  else if lead = 0xED then (0x80, 0x9F)
  else if lead = 0xF0 then (0x90, 0xBF)
  else if lead = 0xF4 then (0x80, 0x8F)
  else (0x80, 0xBF)

/-- Whether a byte may follow the first byte of a character of three or four bytes. -/
def follows (lead b : UInt8) : Bool :=
  (secondBounds lead).1 ≤ b && b ≤ (secondBounds lead).2

/-- The low six bits of a byte that continues a character. -/
def low (b : UInt8) : Nat :=
  b.toNat % 0x40

/-- The character that starts with `lead` and takes two bytes. -/
def twoBytes (lead : UInt8) : Bytes → First
  | [] => .fault .incomplete
  | b :: rest =>
    if continues b then .char (Char.ofNat (lead.toNat % 0x20 * 0x40 + low b)) rest
    else .fault (.invalid 1)

/-- The character that starts with `lead` and takes three bytes. -/
def threeBytes (lead : UInt8) : Bytes → First
  | [] => .fault .incomplete
  | b :: bs =>
    if !follows lead b then .fault (.invalid 1)
    else
      match bs with
      | [] => .fault .incomplete
      | c :: rest =>
        if continues c then
          .char (Char.ofNat (lead.toNat % 0x10 * 0x1000 + low b * 0x40 + low c)) rest
        else .fault (.invalid 2)

/-- The character that starts with `lead` and takes four bytes. -/
def fourBytes (lead : UInt8) : Bytes → First
  | [] => .fault .incomplete
  | b :: bs =>
    if !follows lead b then .fault (.invalid 1)
    else
      match bs with
      | [] => .fault .incomplete
      | c :: cs =>
        if !continues c then .fault (.invalid 2)
        else
          match cs with
          | [] => .fault .incomplete
          | d :: rest =>
            if continues d then
              .char (Char.ofNat (lead.toNat % 0x08 * 0x40000 + low b * 0x1000 + low c * 0x40
                + low d)) rest
            else .fault (.invalid 3)

/-- What stands at the start of some bytes. -/
def first : Bytes → First
  | [] => .done
  | lead :: rest =>
    if lead < 0x80 then .char (Char.ofNat lead.toNat) rest
    else if 0xC2 ≤ lead && lead ≤ 0xDF then twoBytes lead rest
    else if 0xE0 ≤ lead && lead ≤ 0xEF then threeBytes lead rest
    else if 0xF0 ≤ lead && lead ≤ 0xF4 then fourBytes lead rest
    else .fault (.invalid 1)

/-- A character takes at least one byte. -/
theorem first_rest_lt {bytes rest : Bytes} {c : Char} (h : first bytes = .char c rest) :
  rest.length < bytes.length
  := by
  cases bytes with
  | nil => simp [first] at h
  | cons lead bs =>
    simp only [first] at h
    split at h
    · simp only [First.char.injEq] at h
      obtain ⟨-, rfl⟩ := h
      simp
    split at h
    · unfold twoBytes at h
      split at h
      · cases h
      split at h
      · simp only [First.char.injEq] at h
        obtain ⟨-, rfl⟩ := h
        simp only [List.length_cons]
        omega
      · cases h
    split at h
    · unfold threeBytes at h
      split at h
      · cases h
      split at h
      · cases h
      split at h
      · cases h
      split at h
      · simp only [First.char.injEq] at h
        obtain ⟨-, rfl⟩ := h
        simp only [List.length_cons]
        omega
      · cases h
    split at h
    · unfold fourBytes at h
      split at h
      · cases h
      split at h
      · cases h
      split at h
      · cases h
      split at h
      · cases h
      split at h
      · cases h
      split at h
      · simp only [First.char.injEq] at h
        obtain ⟨-, rfl⟩ := h
        simp only [List.length_cons]
        omega
      · cases h
    · cases h

/-- A fault and the number of bytes of whole characters before it. -/
structure Error where
  /-- The number of bytes before the fault. -/
  validUpTo : Nat
  /-- The fault. -/
  fault : Fault
deriving DecidableEq, Repr

/-- What an error says. -/
def Error.message (e : Error) : String :=
  match e.fault with
  | .invalid length =>
    "invalid utf-8 sequence of " ++ length.repr ++ " bytes from index " ++ e.validUpTo.repr
  | .incomplete => "incomplete utf-8 byte sequence from index " ++ e.validUpTo.repr

/-- The text of which these are the bytes, `before` bytes having been read already. -/
def decodeFrom (before : Nat) (bytes : Bytes) : Except Error (List Char) :=
  match _h : first bytes with
  | .done => .ok []
  | .fault why => .error ⟨before, why⟩
  | .char c rest => (decodeFrom (before + (bytes.length - rest.length)) rest).map (c :: ·)
termination_by bytes.length
decreasing_by exact first_rest_lt _h

/-- The text of which these are the bytes. -/
def decode (bytes : Bytes) : Except Error (List Char) :=
  decodeFrom 0 bytes

/-- The text of which these are the bytes, none if there is no such text. -/
def decode? (bytes : Bytes) : Option String :=
  match decode bytes with
  | .ok cs => some (String.ofList cs)
  | .error _ => none

/-- The character that stands for what could not be read. -/
def replacement : Char :=
  '\ufffd'

/-- The text of the bytes, with the replacement character in the place of each fault. -/
def decodeLossy (bytes : Bytes) : List Char :=
  match _h : first bytes with
  | .done => []
  | .char c rest => c :: decodeLossy rest
  | .fault .incomplete => [replacement]
  | .fault (.invalid length) => replacement :: decodeLossy (bytes.drop (max 1 length))
termination_by bytes.length
decreasing_by
  · exact first_rest_lt _h
  · cases bytes with
    | nil => simp [first] at _h
    | cons b bs =>
      rw [List.length_drop, List.length_cons]
      omega

end PlanetServer.Utf8
