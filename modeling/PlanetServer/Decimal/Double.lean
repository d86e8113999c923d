/-!
# Double precision numbers

The double precision number nearest to a ratio, and the product and the quotient of two numbers,
which are the nearest ones to the exact results.

A decimal is scaled in double precision: its integer part is rounded first, and the product with
a power of ten, or the quotient by one, is rounded again. Two roundings may end beside the number
nearest to the decimal.
-/

namespace PlanetServer

/-- A double precision number that is not negative, `significand * 2 ^ exponent`. -/
structure Double where
  /-- Below `2 ^ 53`, and at least `2 ^ 52` unless the exponent is least. -/
  significand : Nat
  /-- At least `-1074` and at most `971`. -/
  exponent : Int
deriving DecidableEq, Repr

namespace Double

/-- The power of a base as a ratio, the exponent being of either sign. -/
def power (base : Nat) (exponent : Int) : Nat × Nat :=
  if 0 ≤ exponent then (base.pow exponent.toNat, 1) else (1, base.pow (-exponent).toNat)

/-- The significand `2 ^ 52`, the least one of a number that is not too near to zero. -/
def leastNormal : Nat :=
  4503599627370496

/-- The integer nearest to a ratio, the even one of two. -/
def roundRatio (num den : Nat) : Nat :=
  let low := num / den
  let twice := 2 * (num % den)
  if twice < den then low
  else if den < twice then low + 1
  else if low % 2 = 0 then low else low + 1

/-- The double precision number nearest to the ratio of two positive integers, none if it is too
large. A ratio too near to zero gives the significand zero. -/
def nearest? (num den : Nat) : Option Double :=
  let scaled (q : Int) : Nat × Nat :=
    let (up, down) := power 2 (-q)
    (num * up, den * down)
  let guess : Int := max ((num.log2 : Int) - den.log2 - 53) (-1074)
  let q := if (scaled guess).1 / (scaled guess).2 < 2 * leastNormal then guess else guess + 1
  let m := roundRatio (scaled q).1 (scaled q).2
  let result : Double := if m = 2 * leastNormal then ⟨leastNormal, q + 1⟩ else ⟨m, q⟩
  if 971 < result.exponent then none else some result

/-- Zero. -/
def zero : Double :=
  ⟨0, -1074⟩

/-- The number as a ratio of integers. -/
def ratio (d : Double) : Nat × Nat :=
  let (up, down) := power 2 d.exponent
  (d.significand * up, down)

/-- The number nearest to an integer. -/
def ofNat (n : Nat) : Double :=
  (nearest? n 1).getD zero

/-- The number nearest to the product, none if it is too large. -/
def mul? (a b : Double) : Option Double :=
  nearest? (a.ratio.1 * b.ratio.1) (a.ratio.2 * b.ratio.2)

/-- The number nearest to the quotient, none if it is too large. -/
def div? (a b : Double) : Option Double :=
  nearest? (a.ratio.1 * b.ratio.2) (a.ratio.2 * b.ratio.1)

/-- The number nearest to a power of ten. -/
def tenPower (n : Nat) : Double :=
  ofNat (Nat.pow 10 n)

/-- The number times a power of ten, none if it is too large. Powers above the greatest one in
double precision are too large for any number but zero, and a division by a greater one is done
in steps. -/
def scale? (d : Double) (place : Int) : Option Double :=
  if d.significand = 0 then some zero
  else if place < -308 then (d.div? (tenPower 308)).bind (scale? · (place + 308))
  else if place < 0 then d.div? (tenPower (-place).toNat)
  else if place ≤ 308 then d.mul? (tenPower place.toNat)
  else none
termination_by (-place).toNat

end Double

end PlanetServer
