import PlanetServer.Token.Kind

/-!
# Sets of token kinds

A set of kinds is a word of 64 bits, in which the bit at the place of a kind in the vocabulary
says whether the kind belongs to the set. The kinds of a set are listed in vocabulary order.
-/

namespace PlanetServer

/-- A set of token kinds, one bit for each kind. -/
structure KindSet where
  /-- The bit at `k.id` is set when `k` belongs to the set. -/
  bits : BitVec 64
deriving DecidableEq

namespace KindSet

/-- The set without kinds. -/
def empty : KindSet :=
  ⟨0⟩

/-- The set with one more kind. -/
def insert (s : KindSet) (k : Kind) : KindSet :=
  ⟨s.bits ||| BitVec.twoPow 64 k.id⟩

/-- The set of the kinds in a list. -/
def ofList (ks : List Kind) : KindSet :=
  ks.foldl insert empty

/-- The kinds that belong to one of two sets. -/
def union (s t : KindSet) : KindSet :=
  ⟨s.bits ||| t.bits⟩

/-- Whether a kind belongs to the set. -/
def contains (s : KindSet) (k : Kind) : Bool :=
  s.bits.getLsbD k.id

/-- Whether no kind belongs to the set. -/
def isEmpty (s : KindSet) : Bool :=
  s.bits == 0

/-- The number of bits that are set. -/
def size (s : KindSet) : Nat :=
  (List.range 64).countP s.bits.getLsbD

/-- The kinds of the set, in vocabulary order. -/
def toList (s : KindSet) : List Kind :=
  Kind.all.filter s.contains

/-- Names in braces, divided by commas. -/
def braced (names : List String) : String :=
  "\x7b" ++ ", ".intercalate names ++ "\x7d"

/-- The set by the short names of its kinds. -/
def labels (s : KindSet) : String :=
  braced (s.toList.map Kind.label)

/-- The set as messages show it: a single kind stands without braces. -/
def display (s : KindSet) : String :=
  match s.size, s.toList with
  | 1, k :: _ => k.displayName
  | _, ks => braced (ks.map Kind.displayName)

end KindSet

end PlanetServer
