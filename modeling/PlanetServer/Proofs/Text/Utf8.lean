import PlanetServer.Text.Utf8

/-!
# Bytes of texts

The bytes of a text are read as the text, and no other bytes are.

* `Utf8.first_encodeChar` and `Utf8.first_eq_char` say so of one character, whatever bytes follow it.
* `Utf8.decode_encode` and `Utf8.decode_eq_ok_iff` say so of a whole text.
-/

namespace PlanetServer.Utf8

theorem toNat_byte {n : Nat} (small : n < 0x100) :
  (byte n).toNat = n
  := by
  rw [byte, UInt8.toNat_ofNat']
  apply Nat.mod_eq_of_lt small

theorem continues_byte (n : Nat) :
  continues (byte (0x80 + n % 0x40)) = true
  := by
  simp only [continues, Bool.and_eq_true, decide_eq_true_eq, UInt8.le_iff_toNat_le]
  rw [toNat_byte (by omega)]
  simp only [UInt8.reduceToNat]
  omega

theorem low_byte (n : Nat) :
  low (byte (0x80 + n % 0x40)) = n % 0x40
  := by
  rw [low, toNat_byte (by omega)]
  omega

/-- A byte may follow a first byte if no shorter form, no surrogate and nothing past the last code
point comes of it. -/
theorem follows_byte {lead n : Nat} (small : lead < 0x100) (least : 0x80 ≤ n) (most : n ≤ 0xBF)
    (long : lead = 0xE0 → 0xA0 ≤ n) (surrogate : lead = 0xED → n ≤ 0x9F)
    (longer : lead = 0xF0 → 0x90 ≤ n) (past : lead = 0xF4 → n ≤ 0x8F) :
  follows (byte lead) (byte n) = true
  := by
  have first := toNat_byte small
  have second := toNat_byte (n := n) (by omega)
  simp only [follows, secondBounds, ← UInt8.toNat_inj, UInt8.le_iff_toNat_le, first, second,
    UInt8.reduceToNat, Bool.and_eq_true, decide_eq_true_eq]
  split
  · simp only [UInt8.reduceToNat]
    omega
  split
  · simp only [UInt8.reduceToNat]
    omega
  split
  · simp only [UInt8.reduceToNat]
    omega
  split
  · simp only [UInt8.reduceToNat]
    omega
  · simp only [UInt8.reduceToNat]
    omega

theorem first_two {n : Nat} (least : 0x80 ≤ n) (most : n < 0x800) (rest : Bytes) :
  first (byte (0xC0 + n / 0x40) :: byte (0x80 + n % 0x40) :: rest) = .char (Char.ofNat n) rest
  := by
  have lead := toNat_byte (n := 0xC0 + n / 0x40) (by omega)
  have value : (0xC0 + n / 0x40) % 0x20 * 0x40 + n % 0x40 = n := by omega
  simp only [first, UInt8.lt_iff_toNat_lt, UInt8.le_iff_toNat_le, lead, UInt8.reduceToNat]
  rw [if_neg (by omega), if_pos (by simp; omega), twoBytes, continues_byte, low_byte, lead, value]
  rfl

theorem first_three {n : Nat} (least : 0x800 ≤ n) (most : n < 0x10000)
    (valid : n < 0xD800 ∨ 0xDFFF < n) (rest : Bytes) :
  first (byte (0xE0 + n / 0x1000) :: byte (0x80 + n / 0x40 % 0x40) :: byte (0x80 + n % 0x40) :: rest)
    = .char (Char.ofNat n) rest
  := by
  have lead := toNat_byte (n := 0xE0 + n / 0x1000) (by omega)
  have value : (0xE0 + n / 0x1000) % 0x10 * 0x1000 + n / 0x40 % 0x40 * 0x40 + n % 0x40 = n := by omega
  have followed : follows (byte (0xE0 + n / 0x1000)) (byte (0x80 + n / 0x40 % 0x40)) = true := by
    apply follows_byte <;> omega
  simp only [first, UInt8.lt_iff_toNat_lt, UInt8.le_iff_toNat_le, lead, UInt8.reduceToNat]
  rw [if_neg (by omega), if_neg (by simp; omega), if_pos (by simp; omega), threeBytes, followed,
    continues_byte, low_byte, low_byte, lead, value]
  rfl

theorem first_four {n : Nat} (least : 0x10000 ≤ n) (most : n < 0x110000) (rest : Bytes) :
  first (byte (0xF0 + n / 0x40000) :: byte (0x80 + n / 0x1000 % 0x40)
      :: byte (0x80 + n / 0x40 % 0x40) :: byte (0x80 + n % 0x40) :: rest)
    = .char (Char.ofNat n) rest
  := by
  have lead := toNat_byte (n := 0xF0 + n / 0x40000) (by omega)
  have value : (0xF0 + n / 0x40000) % 0x08 * 0x40000 + n / 0x1000 % 0x40 * 0x1000
      + n / 0x40 % 0x40 * 0x40 + n % 0x40 = n := by omega
  have followed : follows (byte (0xF0 + n / 0x40000)) (byte (0x80 + n / 0x1000 % 0x40)) = true := by
    apply follows_byte <;> omega
  simp only [first, UInt8.lt_iff_toNat_lt, UInt8.le_iff_toNat_le, lead, UInt8.reduceToNat]
  rw [if_neg (by omega), if_neg (by simp; omega), if_neg (by simp; omega), if_pos (by simp; omega),
    fourBytes, followed, continues_byte, continues_byte, low_byte, low_byte, low_byte, lead, value]
  rfl

/-- The bytes of a character are read as the character, whatever follows them. -/
theorem first_encodeChar (c : Char) (rest : Bytes) :
  first (encodeChar c ++ rest) = .char c rest
  := by
  obtain valid : c.toNat < 0xD800 ∨ 0xDFFF < c.toNat ∧ c.toNat < 0x110000 := c.valid
  simp only [encodeChar]
  split
  · rename_i small
    have lead := toNat_byte (n := c.toNat) (by omega)
    rw [List.singleton_append, first, if_pos, lead, Char.ofNat_toNat]
    simpa only [UInt8.lt_iff_toNat_lt, lead, UInt8.reduceToNat] using small
  split
  · have read := first_two (n := c.toNat) (by omega) (by omega) rest
    rwa [Char.ofNat_toNat] at read
  split
  · have read := first_three (n := c.toNat) (by omega) (by omega) (by omega) rest
    rwa [Char.ofNat_toNat] at read
  · have read := first_four (n := c.toNat) (by omega) (by omega) rest
    rwa [Char.ofNat_toNat] at read

theorem decodeFrom_encode (before : Nat) (cs : List Char) :
  decodeFrom before (encode cs) = .ok cs
  := by
  induction cs generalizing before with
  | nil =>
    rw [decodeFrom]
    rfl
  | cons c cs ih =>
    rw [encode, List.flatMap_cons, ← encode, decodeFrom]
    split
    · rename_i read
      simp [first_encodeChar] at read
    · rename_i read
      simp [first_encodeChar] at read
    · rename_i read
      simp only [first_encodeChar, First.char.injEq] at read
      obtain ⟨rfl, rfl⟩ := read
      rw [ih]
      rfl

/-- The bytes of a text are read as the text. -/
theorem decode_encode (cs : List Char) :
  decode (encode cs) = .ok cs
  := decodeFrom_encode 0 cs

/-! ### Only the bytes of a text are read -/

theorem toNat_char {n : Nat} (valid : n < 0xD800 ∨ 0xDFFF < n ∧ n < 0x110000) :
  (Char.ofNat n).toNat = n
  := by
  rw [Char.ofNat, dif_pos valid]
  rfl

theorem byte_eq {b : UInt8} {n : Nat} (same : n = b.toNat) :
  byte n = b
  := by
  rw [same, byte, UInt8.ofNat_toNat]

theorem continues_iff {b : UInt8} :
  continues b = true ↔ 0x80 ≤ b.toNat ∧ b.toNat ≤ 0xBF
  := by
  simp only [continues, Bool.and_eq_true, decide_eq_true_eq, UInt8.le_iff_toNat_le, UInt8.reduceToNat]

/-- What a byte that follows the first one of three or four is like. -/
theorem follows_spec {lead b : UInt8} (follows : follows lead b = true) :
  0x80 ≤ b.toNat ∧ b.toNat ≤ 0xBF
    ∧ (lead.toNat = 0xE0 → 0xA0 ≤ b.toNat) ∧ (lead.toNat = 0xED → b.toNat ≤ 0x9F)
    ∧ (lead.toNat = 0xF0 → 0x90 ≤ b.toNat) ∧ (lead.toNat = 0xF4 → b.toNat ≤ 0x8F)
  := by
  simp only [Utf8.follows, secondBounds, ← UInt8.toNat_inj, UInt8.le_iff_toNat_le, UInt8.reduceToNat,
    Bool.and_eq_true, decide_eq_true_eq] at follows
  split at follows
  · simp only [UInt8.reduceToNat] at follows
    omega
  split at follows
  · simp only [UInt8.reduceToNat] at follows
    omega
  split at follows
  · simp only [UInt8.reduceToNat] at follows
    omega
  split at follows
  · simp only [UInt8.reduceToNat] at follows
    omega
  · simp only [UInt8.reduceToNat] at follows
    omega

section

variable {lead : UInt8} {bytes rest : Bytes} {c : Char}

theorem twoBytes_eq_char (least : 0xC2 ≤ lead.toNat) (most : lead.toNat ≤ 0xDF)
    (read : twoBytes lead bytes = .char c rest) :
  lead :: bytes = encodeChar c ++ rest
  := by
  rcases bytes with _ | ⟨b, bytes⟩
  · cases read
  rw [twoBytes] at read
  split at read
  case isFalse => cases read
  rename_i continued
  obtain ⟨rfl, rfl⟩ := First.char.inj read
  have second := continues_iff.mp continued
  rw [low, encodeChar, toNat_char (by omega), if_neg (by omega), if_pos (by omega),
    byte_eq (b := lead) (by omega), byte_eq (b := b) (by omega)]
  rfl

theorem threeBytes_eq_char (least : 0xE0 ≤ lead.toNat) (most : lead.toNat ≤ 0xEF)
    (read : threeBytes lead bytes = .char c rest) :
  lead :: bytes = encodeChar c ++ rest
  := by
  rcases bytes with _ | ⟨b, _ | ⟨d, bytes⟩⟩
  · cases read
  · rw [threeBytes] at read
    split at read <;> cases read
  rw [threeBytes] at read
  split at read
  case isTrue => cases read
  rename_i followed
  split at read
  case isFalse => cases read
  rename_i continued
  obtain ⟨rfl, rfl⟩ := First.char.inj read
  have second := follows_spec (by simpa using followed)
  have third := continues_iff.mp continued
  rw [low, low, encodeChar, toNat_char (by omega), if_neg (by omega), if_neg (by omega), if_pos (by omega),
    byte_eq (b := lead) (by omega), byte_eq (b := b) (by omega), byte_eq (b := d) (by omega)]
  rfl

theorem fourBytes_eq_char (least : 0xF0 ≤ lead.toNat) (most : lead.toNat ≤ 0xF4)
    (read : fourBytes lead bytes = .char c rest) :
  lead :: bytes = encodeChar c ++ rest
  := by
  rcases bytes with _ | ⟨b, _ | ⟨d, _ | ⟨e, bytes⟩⟩⟩
  · cases read
  · rw [fourBytes] at read
    split at read <;> cases read
  · rw [fourBytes] at read
    split at read
    · cases read
    · split at read <;> cases read
  rw [fourBytes] at read
  split at read
  case isTrue => cases read
  rename_i followed
  split at read
  case isTrue => cases read
  rename_i continued
  split at read
  case isFalse => cases read
  rename_i continued'
  obtain ⟨rfl, rfl⟩ := First.char.inj read
  have second := follows_spec (by simpa using followed)
  have third := continues_iff.mp (by simpa using continued)
  have fourth := continues_iff.mp continued'
  rw [low, low, low, encodeChar, toNat_char (by omega), if_neg (by omega), if_neg (by omega),
    if_neg (by omega), byte_eq (b := lead) (by omega), byte_eq (b := b) (by omega),
    byte_eq (b := d) (by omega), byte_eq (b := e) (by omega)]
  rfl

/-- The first character is read off its bytes. -/
theorem first_eq_char (read : first bytes = .char c rest) :
  bytes = encodeChar c ++ rest
  := by
  rcases bytes with _ | ⟨lead, bytes⟩
  · cases read
  simp only [first, UInt8.lt_iff_toNat_lt, UInt8.le_iff_toNat_le, UInt8.reduceToNat, Bool.and_eq_true,
    decide_eq_true_eq] at read
  split at read
  · rename_i small
    obtain ⟨rfl, rfl⟩ := First.char.inj read
    rw [encodeChar, toNat_char (by omega), if_pos small, byte_eq rfl]
    rfl
  split at read
  · rename_i within
    apply twoBytes_eq_char within.1 within.2 read
  split at read
  · rename_i within
    apply threeBytes_eq_char within.1 within.2 read
  split at read
  · rename_i within
    apply fourBytes_eq_char within.1 within.2 read
  · cases read

end

theorem first_eq_done {bytes : Bytes} (read : first bytes = .done) :
  bytes = []
  := by
  rcases bytes with _ | ⟨lead, _ | ⟨b, _ | ⟨d, _ | ⟨e, bytes⟩⟩⟩⟩
  · rfl
  all_goals grind [first, twoBytes, threeBytes, fourBytes]

theorem encode_of_decodeFrom {bytes : Bytes} {before : Nat} {cs : List Char}
    (read : decodeFrom before bytes = .ok cs) :
  bytes = encode cs
  := by
  fun_induction decodeFrom before bytes generalizing cs with
  | case1 before bytes start =>
    rw [first_eq_done start, ← Except.ok.inj read]
    rfl
  | case2 => cases read
  | case3 before bytes c rest start ih =>
    cases later : decodeFrom (before + (bytes.length - rest.length)) rest with
    | error why =>
      rw [later] at read
      cases read
    | ok cs' =>
      rw [later] at read
      rw [first_eq_char start, ih later, ← Except.ok.inj read]
      rfl

/-- Only the bytes of a text are read as the text. -/
theorem decode_eq_ok_iff {bytes : Bytes} {cs : List Char} :
  decode bytes = .ok cs ↔ bytes = encode cs
  := by
  constructor
  · apply encode_of_decodeFrom
  · rintro rfl
    apply decode_encode

end PlanetServer.Utf8
