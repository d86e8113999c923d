import PlanetServer.Decimal.Double

/-!
# Shortest decimals

The shortest decimal that is read back as the same double precision number. All arithmetic is
exact.
-/

namespace PlanetServer.Double

/-- Whether a decimal `digits * 10 ^ place` lies between the two ends of the interval whose
decimals are read as this number. The ends belong to it when the significand is even. -/
def reads (d : Double) (digits : Nat) (place : Int) : Bool :=
  let (ten, unten) := power 10 place
  let (two, untwo) := power 2 (d.exponent - 2)
  -- Four times the significand stands for the number itself, and two more for half a step.
  let point := digits * ten * untwo
  let below := if d.significand = leastNormal ∧ -1074 < d.exponent then 1 else 2
  let low := (4 * d.significand - below) * two * unten
  let high := (4 * d.significand + 2) * two * unten
  if d.significand % 2 = 0 then decide (low ≤ point ∧ point ≤ high)
  else decide (low < point ∧ point < high)

/-- The number as a ratio to the power of ten of the given place. -/
def ratioAt (d : Double) (place : Int) : Nat × Nat :=
  let (ten, unten) := power 10 place
  (d.ratio.1 * unten, d.ratio.2 * ten)

/-- The decimal with the given place that is read as this number, the nearer of two. -/
def decimalAt? (d : Double) (place : Int) : Option (Nat × Int) :=
  let (num, den) := d.ratioAt place
  let low := num / den
  match d.reads low place, d.reads (low + 1) place with
  | true, true => some (roundRatio num den, place)
  | true, false => some (low, place)
  | false, true => some (low + 1, place)
  | false, false => none

/-- The first decimal that is read as this number among those with places falling from the given
one. -/
def searchDecimal (d : Double) : Nat → Int → Nat × Int
  | 0, place => ((d.ratioAt place).1 / (d.ratioAt place).2, place)
  | n + 1, place =>
    match d.decimalAt? place with
    | some (0, _) => searchDecimal d n (place - 1)
    | some found => found
    | none => searchDecimal d n (place - 1)

/-- The decimal without the zeros at the end of its digits. -/
def stripZeros : Nat → Nat × Int → Nat × Int
  | 0, found => found
  | n + 1, (digits, place) =>
    if digits ≠ 0 ∧ digits % 10 = 0 then stripZeros n (digits / 10, place + 1) else (digits, place)

/-- The decimal with the fewest digits that is read as this number, as its digits and the power
of ten they are to be multiplied by. -/
def shortest (d : Double) : Nat × Int :=
  let bits : Int := (d.significand.log2 : Int) + d.exponent
  -- Three tenths of the binary digits are at least the decimal ones.
  let top : Int := bits * 30103 / 100000 + 1
  stripZeros 20 (searchDecimal d 20 top)

end PlanetServer.Double
