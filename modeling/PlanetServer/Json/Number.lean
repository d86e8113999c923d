import PlanetServer.Decimal.Shortest

/-!
# JSON numbers

A number without fraction and exponent that fits in 64 bits, with or without sign, is kept as an
integer. Of every other number the leading digits that fit in 64 bits are scaled by a power of ten
in double precision, and the result is kept as the shortest decimal that is read as it.
-/

namespace PlanetServer.Json

/-- A JSON number. -/
inductive Number where
  /-- An integer. -/
  | int (value : Int)
  /-- The decimal `digits * 10 ^ place`, perhaps negative. -/
  | real (negative : Bool) (digits : Nat) (place : Int)
deriving DecidableEq, Repr

namespace Number

/-- The least and greatest integers that are kept as such. -/
def fitsInteger (value : Int) : Bool :=
  -9223372036854775808 ≤ value && value ≤ 18446744073709551615

/-- The number that decimal digits stand for after those before them, as long as it is at most the
greatest integer that is kept, and the digits left over. -/
def gather : Nat → List Char → Nat × List Char
  | held, [] => (held, [])
  | held, c :: cs =>
    let next := 10 * held + (c.toNat - '0'.toNat)
    if fitsInteger next then gather next cs else (held, c :: cs)

/-- An integer times a power of ten in double precision, none if it is too large. -/
def ofScaled? (negative : Bool) (digits : Nat) (place : Int) : Option Number :=
  match (Double.ofNat digits).scale? place with
  | none => none
  | some ⟨0, _⟩ => some (.real negative 0 0)
  | some d =>
    let (digits, place) := d.shortest
    some (.real negative digits place)

/-- The number with the given digits before and after the point and the given exponent. A minus
sign before the integer zero makes it a decimal. Digits that would make the number too large to be
gathered are left out; those before the point still count for its place. -/
def ofParts? (negative : Bool) (whole fraction : List Char) (exponent : Option Int) :
    Option Number :=
  let (held, left) := gather 0 whole
  if fraction.isEmpty ∧ exponent.isNone ∧ left.isEmpty then
    let value : Int := if negative then -held else held
    if fitsInteger value && !(negative && held == 0) then some (.int value)
    else ofScaled? negative held 0
  else
    let (held, unread) := gather held fraction
    let place : Int := left.length - (fraction.length - unread.length : Nat)
    ofScaled? negative held (place + exponent.getD 0)

/-- The text of a decimal: positional where the point falls among the first sixteen digits or at
most four zeros follow it, and with an exponent that has a sign elsewhere. A point has a digit on
both sides. -/
def decimalText (digits : Nat) (place : Int) : String :=
  let text := Nat.toDigits 10 digits
  let point : Int := text.length + place
  if digits = 0 then "0.0"
  else if 0 ≤ place ∧ point ≤ 16 then
    String.ofList (text ++ List.replicate place.toNat '0') ++ ".0"
  else if 0 < point ∧ point ≤ 16 then
    String.ofList (text.take point.toNat ++ '.' :: text.drop point.toNat)
  else if -5 < point ∧ point ≤ 0 then
    "0." ++ String.ofList (List.replicate (-point).toNat '0' ++ text)
  else
    let fraction := if text.length = 1 then [] else '.' :: text.drop 1
    let sign := if 0 < point then "+" else ""
    String.ofList (text.take 1 ++ fraction) ++ "e" ++ sign ++ (point - 1).repr

/-- The text of a number. -/
def text : Number → String
  | .int value => value.repr
  | .real negative digits place => (if negative then "-" else "") ++ decimalText digits place

end Number

end PlanetServer.Json
