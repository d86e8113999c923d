import PlanetServer.Text.Basic

/-!
# Numeric addresses

A name whose last label is a number is an address of four bytes. Its parts are written in base ten,
eight or sixteen, and the last part stands for all bytes that are left. An address of sixteen bytes is
written in brackets.
-/

namespace PlanetServer.Domain

/-- The value of a digit of a base, which is at most sixteen. -/
def digitIn? (base : Nat) (c : Char) : Option Nat :=
  let value? :=
    if '0' ≤ c ∧ c ≤ '9' then some (c.toNat - '0'.toNat)
    else if 'a' ≤ c ∧ c ≤ 'f' then some (c.toNat - 'a'.toNat + 10)
    else if 'A' ≤ c ∧ c ≤ 'F' then some (c.toNat - 'A'.toNat + 10)
    else none
  value?.filter (· < base)

/-- The number that digits of a base stand for, zero for none. -/
def numberIn? (base : Nat) (cs : List Char) : Option Nat :=
  (cs.mapM (digitIn? base)).map (List.foldl (fun n digit => base * n + digit) 0)

/-- The number that a part of an address stands for. -/
def part? : List Char → Option Nat
  | [] => none
  | '0' :: 'x' :: digits => numberIn? 16 digits
  | '0' :: c :: digits => numberIn? 8 (c :: digits)
  | digits => numberIn? 10 digits

/-- Whether a label is a number, well written or not. -/
def isNumeric (label : List Char) : Bool :=
  (part? label).isSome || (!label.isEmpty && label.all Char.isDigit)

/-- The labels without an empty one at the end. -/
def dropRoot (labels : List (List Char)) : List (List Char) :=
  if labels.getLast? = some [] then labels.dropLast else labels

/-- Whether the last label is a number. -/
def endsInNumber (labels : List (List Char)) : Bool :=
  (dropRoot labels).getLast?.any isNumeric

/-- Whether numbers are the parts of an address in which `bytes` bytes are left. -/
def fillBytes : (bytes : Nat) → List Nat → Bool
  | _, [] => false
  | 0, _ => false
  | bytes + 1, [last] => last < Nat.pow 256 (bytes + 1)
  | bytes + 1, n :: ns => n < 256 && fillBytes bytes ns

/-- Whether labels are the parts of an address of four bytes. -/
def isFourBytes (labels : List (List Char)) : Bool :=
  ((dropRoot labels).mapM part?).any (fillBytes 4)

/-! ### Addresses in brackets -/

/-- Whether a text is a number below 256 in base ten without needless zeros. -/
def isByte (cs : List Char) : Bool :=
  match cs with
  | [] => false
  | ['0'] => true
  | '0' :: _ => false
  | _ => (numberIn? 10 cs).any (· < 256)

/-- The pieces of a text between its full stops. -/
def labelsOf : List Char → List (List Char)
  | [] => [[]]
  | c :: cs =>
    if c = '.' then [] :: labelsOf cs
    else
      match labelsOf cs with
      | [] => [[c]]
      | label :: labels => (c :: label) :: labels

/-- Whether a text is four bytes with full stops between them. -/
def isDottedBytes (cs : List Char) : Bool :=
  (labelsOf cs).length = 4 && (labelsOf cs).all isByte

/-- How many of the first four characters are digits in base sixteen before any other character. -/
def groupLength (cs : List Char) : Nat :=
  ((cs.take 4).takeWhile fun c => (digitIn? 16 c).isSome).length

/-- Whether a text goes on with the groups of an address after `count` groups, `gap` being whether
two colons have stood for any number of groups. Four bytes may stand for the last two groups. -/
def isGroups (count : Nat) (gap : Bool) (cs : List Char) : Bool :=
  match cs with
  | [] => gap || count = 8
  | ':' :: rest => count < 8 && !gap && isGroups (count + 1) true rest
  | c :: rest =>
    let size := groupLength (c :: rest)
    match _h : (c :: rest).drop size with
    | [] => count < 8 && (gap || count = 7)
    | '.' :: _ =>
      0 < size && count ≤ 6 && isDottedBytes (c :: rest) && (gap || count = 6)
    | ':' :: more => count < 8 && !more.isEmpty && isGroups (count + 1) gap more
    | _ => false
termination_by cs.length
decreasing_by
  · simp
  · have lengths := congrArg List.length _h
    simp only [List.length_drop, List.length_cons] at lengths
    simp only [List.length_cons]
    omega

/-- Whether a text is an address of sixteen bytes. -/
def isSixteenBytes : List Char → Bool
  | ':' :: ':' :: rest => isGroups 1 true rest
  | ':' :: _ => false
  | cs => 2 ≤ cs.length && isGroups 0 false cs

end PlanetServer.Domain
