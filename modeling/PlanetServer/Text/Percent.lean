import PlanetServer.Text.Utf8

/-!
# Percent signs

Bytes that may not stand in the name of a document are written by a percent sign and two hexadecimal
digits.
-/

namespace PlanetServer.Text

open Utf8 (Bytes)

/-- The value of a byte that is a hexadecimal digit of either case. -/
def hexByte? (b : UInt8) : Option Nat :=
  let n := b.toNat
  if 0x30 ≤ n ∧ n ≤ 0x39 then some (n - 0x30)
  else if 0x61 ≤ n ∧ n ≤ 0x66 then some (n - 0x61 + 10)
  else if 0x41 ≤ n ∧ n ≤ 0x46 then some (n - 0x41 + 10)
  else none

/-- The bytes with each percent sign and the two digits after it replaced by the byte they stand
for. A percent sign without two digits stands for itself. -/
def percentDecode : Bytes → Bytes
  | [] => []
  | 0x25 :: a :: b :: rest =>
    match hexByte? a, hexByte? b with
    | some high, some low => Utf8.byte (16 * high + low) :: percentDecode rest
    | _, _ => 0x25 :: percentDecode (a :: b :: rest)
  | b :: rest => b :: percentDecode rest

/-- Whether a byte of a component is written by a percent sign and two digits. -/
def isEncoded (b : UInt8) : Bool :=
  b.toNat ≤ 0x20 || 0x7F ≤ b.toNat ||
    ['"', '<', '>', '#', '?', '\x60', '\x7b', '\x7d', '/', '%', '\\'].any fun c => c.toNat = b.toNat

/-- The capital hexadecimal digit of a number below sixteen. -/
def capitalHexDigit (n : Nat) : Char :=
  if n < 10 then Char.ofNat (0x30 + n) else Char.ofNat (0x41 + n - 10)

/-- A byte of a component as it is written. -/
def encodeByte (b : UInt8) : List Char :=
  if isEncoded b then ['%', capitalHexDigit (b.toNat / 16), capitalHexDigit (b.toNat % 16)]
  else [Char.ofNat b.toNat]

/-- A component as it is written. -/
def percentEncode (component : Bytes) : List Char :=
  component.flatMap encodeByte

end PlanetServer.Text
