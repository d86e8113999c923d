/-!
# Characters of a text

What all readers of texts ask about characters.

* `Text.covers` and `Text.valueAt?` look a character up in a list of ranges of code points, in
  increasing order, each perhaps with a value. The search stops at the first range that lies above it.
* `Text.isBlank` is the Unicode property White_Space, and `Text.trim` removes blanks from the ends of a
  text.
* `Text.units` is the length of a text as editors count columns, in UTF-16 code units: a character
  outside the Basic Multilingual Plane counts twice.
-/

namespace PlanetServer.Text

/-! ### Ranges of code points -/

/-- Whether the code point of `c` lies in one of the ranges, which are in increasing order and
include both their ends. -/
def covers : List (Nat × Nat) → Char → Bool
  | [], _ => false
  | (low, high) :: rest, c =>
    if c.toNat < low then false
    else if c.toNat ≤ high then true
    else covers rest c

/-- The value that goes with the range in which the code point of `c` lies. The ranges are in
increasing order and include both their ends. -/
def valueAt? : List (Nat × Nat × Nat) → Char → Option Nat
  | [], _ => none
  | (low, high, value) :: rest, c =>
    if c.toNat < low then none
    else if c.toNat ≤ high then some value
    else valueAt? rest c

/-! ### Blanks -/

/-- The code points with the property White_Space, in increasing order. -/
def blankRanges : List (Nat × Nat) :=
  [(0x0009, 0x000D), (0x0020, 0x0020), (0x0085, 0x0085), (0x00A0, 0x00A0), (0x1680, 0x1680),
   (0x2000, 0x200A), (0x2028, 0x2029), (0x202F, 0x202F), (0x205F, 0x205F), (0x3000, 0x3000)]

/-- Whether a character is blank. -/
def isBlank (c : Char) : Bool :=
  covers blankRanges c

/-- The text without the blanks at its end. -/
def trimEnd (cs : List Char) : List Char :=
  (cs.reverse.dropWhile isBlank).reverse

/-- The text without the blanks at its two ends. -/
def trim (cs : List Char) : List Char :=
  trimEnd (cs.dropWhile isBlank)

/-! ### Lengths -/

/-- The number of UTF-16 units of a character. -/
def unitsOfChar (c : Char) : Nat :=
  if c.toNat < 0x10000 then 1 else 2

/-- The number of UTF-16 units of a text. -/
def units : List Char → Nat
  | [] => 0
  | c :: cs => unitsOfChar c + units cs

theorem units_append (cs ds : List Char) :
  units (cs ++ ds) = units cs + units ds
  := by
  induction cs with
  | nil => simp [units]
  | cons c cs ih =>
    simp only [List.cons_append, units, ih]
    omega

end PlanetServer.Text
