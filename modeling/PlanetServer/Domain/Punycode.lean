import PlanetServer.Text.Basic

/-!
# Punycode

A label with characters beyond ASCII is written in letters, digits and hyphens: first its ASCII
characters, then, after the last hyphen, for each other character how far to go on, in steps through
all places of all code points. Such a distance is a number in base 36 whose digits have weights that
adapt to the distances before it.
-/

namespace PlanetServer.Domain.Punycode

/-- The greatest distance, and the greatest weight of a digit. -/
def greatest : Nat :=
  4294967295

/-- The value of a digit: the letters come first. -/
def digit? (c : Char) : Option Nat :=
  if 'a' ≤ c ∧ c ≤ 'z' then some (c.toNat - 'a'.toNat)
  else if '0' ≤ c ∧ c ≤ '9' then some (c.toNat - '0'.toNat + 26)
  else none

/-- The least value of a digit at a place that is not the last one. -/
def threshold (place bias : Nat) : Nat :=
  if place ≤ bias then 1 else if bias + 26 ≤ place then 26 else place - bias

/-- A number divided by 35 until it is small, and 36 for each division. -/
def shrink (delta bias : Nat) : Nat × Nat :=
  if 455 < delta then shrink (delta / 35) (bias + 36) else (delta, bias)
termination_by delta

/-- The bias after a distance, `count` being the number of characters with the new one. -/
def adapt (delta count : Nat) (first : Bool) : Nat :=
  let start := if first then delta / 700 else delta / 2
  let (delta, bias) := shrink (start + start / count) 0
  bias + 36 * delta / (delta + 38)

/-- Adds the distance at the start of a text to `sum`, and gives what follows it. -/
def distance? (bias : Nat) : (place weight sum : Nat) → List Char → Option (Nat × List Char)
  | _, _, _, [] => none
  | place, weight, sum, c :: cs =>
    match digit? c with
    | none => none
    | some digit =>
      let total := sum + digit * weight
      let rest := 36 - threshold place bias
      if greatest < total then none
      else if digit < threshold place bias then some (total, cs)
      else if greatest < weight * rest then none
      else distance? bias (place + 36) (weight * rest) total cs

theorem length_lt_of_distance? {bias place weight sum total : Nat} {cs rest : List Char}
    (h : distance? bias place weight sum cs = some (total, rest)) :
  rest.length < cs.length
  := by
  fun_induction distance? bias place weight sum cs with
  | case1 => simp at h
  | case2 => simp at h
  | case3 => simp at h
  | case4 =>
    simp only [Option.some.injEq, Prod.mk.injEq] at h
    obtain ⟨_, rfl⟩ := h
    simp
  | case5 => simp at h
  | case6 _ _ _ _ _ _ _ _ _ _ _ _ ih =>
    have shorter := ih h
    simp only [List.length_cons]
    omega

/-- The character with a code point, if there is one. -/
def char? (code : Nat) : Option Char :=
  if code < 0xD800 ∨ (0xDFFF < code ∧ code ≤ 0x10FFFF) then some (Char.ofNat code) else none

/-- Puts characters into a text as the distances in the rest of its written form say. `code` and
`place` are the code point and the place to go on from. -/
def insertAll? (text : List Char) (bias code place : Nat) (cs : List Char) : Option (List Char) :=
  if cs.isEmpty then some text
  else
    match _h : distance? bias 36 1 place cs with
    | none => none
    | some (total, rest) =>
      let count := text.length + 1
      match char? (code + total / count) with
      | none => none
      | some c =>
        let slot := total % count
        insertAll? (text.take slot ++ c :: text.drop slot) (adapt (total - place) count (place == 0))
          (code + total / count) (slot + 1) rest
termination_by cs.length
decreasing_by exact length_lt_of_distance? _h

/-- The ASCII characters of a written form, and what follows the hyphen after them. A hyphen at the
start follows no characters, so it divides nothing. -/
def split (cs : List Char) : List Char × List Char :=
  let after := (cs.reverse.takeWhile (· ≠ '-')).reverse
  let before := cs.take (cs.length - after.length - 1)
  if before.isEmpty then ([], cs) else (before, after)

/-- The text of which this is the written form. -/
def decode? (cs : List Char) : Option (List Char) :=
  insertAll? (split cs).1 72 128 0 (split cs).2

end PlanetServer.Domain.Punycode
