import PlanetServer.Decimal.Double
import PlanetServer.Toml.Basic

/-!
# TOML scalars

Truth values, integers in four bases, numbers with a fraction or an exponent, and dates and times. A
scalar is read from a text that holds nothing else.
-/

namespace PlanetServer.Toml

/-- Whether a character is one of the ten digits. -/
def isDigit (c : Char) : Bool :=
  '0' ≤ c && c ≤ '9'

/-- Whether a character is a digit in base sixteen. -/
def isHexDigit (c : Char) : Bool :=
  isDigit c || ('a' ≤ c && c ≤ 'f') || ('A' ≤ c && c ≤ 'F')

/-- The value of a digit in any base up to sixteen. -/
def digitValue (c : Char) : Nat :=
  if isDigit c then c.toNat - '0'.toNat
  else if 'a' ≤ c then c.toNat - 'a'.toNat + 10
  else c.toNat - 'A'.toNat + 10

/-- The number that digits in a base stand for. -/
def digitsValue (base : Nat) (cs : List Char) : Nat :=
  cs.foldl (fun n c => base * n + digitValue c) 0

/-- The digits after a digit, each underscore between two of them left out. -/
def moreDigits? (isDigit : Char → Bool) : List Char → Option (List Char)
  | [] => some []
  | '_' :: c :: cs => if isDigit c then (moreDigits? isDigit cs).map (c :: ·) else none
  | c :: cs => if isDigit c then (moreDigits? isDigit cs).map (c :: ·) else none

/-- The digits of a text of digits, each underscore between two of them left out. -/
def grouped? (isDigit : Char → Bool) : List Char → Option (List Char)
  | [] => none
  | c :: cs => if isDigit c then (moreDigits? isDigit cs).map (c :: ·) else none

/-- The digits of a decimal number, in which a zero may only stand alone. -/
def decimal? (cs : List Char) : Option (List Char) :=
  match grouped? isDigit cs with
  | some ('0' :: _ :: _) => none
  | found => found

/-- The sign of a number, and what follows it. -/
def sign : List Char → Bool × List Char
  | '-' :: cs => (true, cs)
  | '+' :: cs => (false, cs)
  | cs => (false, cs)

/-- The least and the greatest integer: the ranges of 128 bits with and without sign. -/
def fitsInteger (value : Int) : Bool :=
  -170141183460469231731687303715884105728 ≤ value
    && value < 340282366920938463463374607431768211456

/-- The integer, if it is not too large. -/
def bounded (value : Int) : Item :=
  if fitsInteger value then .integer value else .excess

/-- An integer in another base than ten, after its base. -/
def based? (base : Nat) (isDigit : Char → Bool) : List Char → Option Item
  | [] => some .excess
  | digits => (grouped? isDigit digits).map fun digits => bounded (digitsValue base digits)

/-- An integer: decimal with a sign, or in another base without one. -/
def integer? (cs : List Char) : Option Item :=
  match cs with
  | '0' :: 'x' :: digits => based? 16 isHexDigit digits
  | '0' :: 'o' :: digits => based? 8 (fun c => '0' ≤ c && c ≤ '7') digits
  | '0' :: 'b' :: digits => based? 2 (fun c => c == '0' || c == '1') digits
  | _ => do
    let (negative, digits) := sign cs
    let value := digitsValue 10 (← decimal? digits)
    return bounded (if negative then -value else value)

/-- The exponent of a number, zero for an empty text. -/
def exponent? : List Char → Option Int
  | [] => some 0
  | mark :: cs => do
    if mark == 'e' || mark == 'E' then
      let (negative, digits) := sign cs
      let value := digitsValue 10 (← grouped? isDigit digits)
      return if negative then -value else value
    else none

/-- Whether a decimal is not too large for double precision. -/
def fitsDouble (digits : Nat) (place : Int) : Bool :=
  let size : Int := (Nat.toDigits 10 digits).length
  if digits = 0 || size + place < 0 then true
  else if 400 < size + place then false
  else
    let (up, down) := Double.power 10 place
    (Double.nearest? (digits * up) down).isSome

/-- A number with a fraction or an exponent. -/
def float? (cs : List Char) : Option Item := do
  let (_, cs) := sign cs
  if cs = "inf".toList ∨ cs = "nan".toList then
    return .float
  else
    let isMark (c : Char) : Bool := c == 'e' || c == 'E'
    let mantissa := cs.takeWhile fun c => !isMark c
    let exponent ← exponent? (cs.dropWhile fun c => !isMark c)
    let whole ← decimal? (mantissa.takeWhile (· ≠ '.'))
    let fraction ← match mantissa.dropWhile (· ≠ '.') with
      | [] => if mantissa.length = cs.length then none else some []
      | _ :: digits => grouped? isDigit digits
    let digits := digitsValue 10 (whole ++ fraction)
    return if fitsDouble digits (exponent - fraction.length) then .float else .excess

/-! ### Dates and times -/

/-- A number of exactly so many digits, and what follows it. -/
def fixed? (count : Nat) (cs : List Char) : Option (Nat × List Char) :=
  let digits := cs.take count
  if digits.length = count && digits.all isDigit then some (digitsValue 10 digits, cs.drop count)
  else none

/-- The text after a character at its start. -/
def after? (c : Char) : List Char → Option (List Char)
  | d :: cs => if d = c then some cs else none
  | [] => none

/-- The number of days of a month. -/
def daysIn (year month : Nat) : Nat :=
  if month = 2 then
    if year % 4 = 0 ∧ (year % 100 ≠ 0 ∨ year % 400 = 0) then 29 else 28
  else if month = 4 ∨ month = 6 ∨ month = 9 ∨ month = 11 then 30
  else 31

/-- What follows a date. -/
def afterDate? (cs : List Char) : Option (List Char) := do
  let (year, cs) ← fixed? 4 cs
  let (month, cs) ← fixed? 2 (← after? '-' cs)
  let (day, cs) ← fixed? 2 (← after? '-' cs)
  if 1 ≤ month ∧ month ≤ 12 ∧ 1 ≤ day ∧ day ≤ daysIn year month then some cs else none

/-- What follows the fraction of a second, if there is one. -/
def afterFraction? : List Char → Option (List Char)
  | '.' :: cs => if (cs.takeWhile isDigit).isEmpty then none else some (cs.dropWhile isDigit)
  | cs => some cs

/-- What follows the seconds of a time, if there are any. -/
def afterSeconds? : List Char → Option (List Char)
  | ':' :: cs => do
    let (second, cs) ← fixed? 2 cs
    if second ≤ 60 then afterFraction? cs else none
  | cs => some cs

/-- What follows a time. -/
def afterTime? (cs : List Char) : Option (List Char) := do
  let (hour, cs) ← fixed? 2 cs
  let (minute, cs) ← fixed? 2 (← after? ':' cs)
  if hour ≤ 23 ∧ minute ≤ 59 then afterSeconds? cs else none

/-- Whether a text is nothing, or the distance from universal time. -/
def isOffset : List Char → Bool
  | [] | ['Z'] | ['z'] => true
  | c :: cs =>
    if c == '+' || c == '-' then
      match fixed? 2 cs with
      | some (hour, ':' :: cs) =>
        match fixed? 2 cs with
        | some (minute, []) => hour ≤ 23 && minute ≤ 59
        | _ => false
      | _ => false
    else false

/-- A date, a time, or a date and a time. -/
def datetime? (cs : List Char) : Option Item :=
  match afterDate? cs with
  | some [] => some .datetime
  | some (mark :: time) =>
    if mark == 'T' || mark == 't' || mark == ' ' then
      match afterTime? time with
      | some rest => if isOffset rest then some .datetime else none
      | none => none
    else none
  | none =>
    match afterTime? cs with
    | some [] => some .datetime
    | _ => none

/-- The scalar that a text stands for. -/
def scalar? (cs : List Char) : Option Item :=
  if cs = "true".toList then some (.boolean true)
  else if cs = "false".toList then some (.boolean false)
  else integer? cs <|> float? cs <|> datetime? cs

end PlanetServer.Toml
