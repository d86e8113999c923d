import PlanetServer.Proofs.Diagnostic.Messages

/-!
# Sets of kinds and their names

A set of kinds is one word, however it is put together, and all that can be asked of it is answered by the
kinds that were put in.

* `KindSet.Represents` says which bits of the word are set: those at the places of the listed kinds, and no
  others.
* `KindSet.Recipe` is a way to put a set together, with `Recipe.kinds` the kinds that are put in, in order and
  with repetitions. `Recipe.represents_set` goes along the recipe, one operation after the other.
* `KindSet.Lists` is what asking a set shows of the kinds that it represents.
* `distinctNames_eq_take`: of names that differ from each other none is left out, so a message names the
  first kinds of the set.
* `KindSet.Recipe.set_faithful` puts these together.
-/

namespace PlanetServer

namespace KindSet

variable {s s' : KindSet} {ks ks' : List Kind}

/-! ### The bits of a set -/

/-- The bits that are set are those at the places of the listed kinds. -/
def Represents (s : KindSet) (ks : List Kind) : Prop :=
  ∀ i, s.bits.getLsbD i ↔ i ∈ ks.map Kind.id

theorem represents_empty :
  empty.Represents []
  := by
  intro i
  simp [empty]

theorem Represents.insert (represents : s.Represents ks) (k : Kind) :
  (s.insert k).Represents (ks ++ [k])
  := by
  intro i
  rw [getLsbD_insert, Bool.or_eq_true, represents i, decide_eq_true_eq, List.map_append, List.mem_append,
    List.map_singleton, List.mem_singleton]

theorem Represents.union (represents : s.Represents ks) (represents' : s'.Represents ks') :
  (s.union s').Represents (ks ++ ks')
  := by
  intro i
  rw [KindSet.union, BitVec.getLsbD_or, Bool.or_eq_true, represents i, represents' i, List.map_append,
    List.mem_append]

theorem Represents.foldl_insert (represents : s.Represents ks) (more : List Kind) :
  (more.foldl KindSet.insert s).Represents (ks ++ more)
  := by
  induction more generalizing s ks with
  | nil => simpa using represents
  | cons k more ih => simpa using ih (represents.insert k)

theorem represents_ofList (ks : List Kind) :
  (ofList ks).Represents ks
  := represents_empty.foldl_insert ks

theorem Represents.contains_iff (represents : s.Represents ks) (k : Kind) :
  s.contains k ↔ k ∈ ks
  := by
  rw [contains, represents, List.mem_map_of_injective Kind.id_injective]

theorem Represents.le (represents : s.Represents ks) {i : Nat} (bit : s.bits.getLsbD i) :
  i ≤ 38
  := by
  obtain ⟨k, -, rfl⟩ := List.mem_map.mp ((represents i).mp bit)
  apply k.id_le

/-- The word is determined by the kinds that it represents. -/
theorem Represents.eq_iff (represents : s.Represents ks) (represents' : s'.Represents ks') :
  s = s' ↔ ∀ k, k ∈ ks ↔ k ∈ ks'
  := by
  constructor
  · rintro rfl k
    rw [← represents.contains_iff, represents'.contains_iff]
  · intro same
    have bits : s.bits = s'.bits := by
      apply BitVec.eq_of_getLsbD_eq
      intro i _
      rw [Bool.eq_iff_iff, represents i, represents' i]
      simp only [List.mem_map, same]
    cases s
    cases s'
    exact congrArg mk bits

/-! ### The kinds of a set -/

/-- Going through a set meets the places of the vocabulary whose bits are set, in order. -/
theorem map_id_toList (s : KindSet) :
  s.toList.map Kind.id = (List.range 39).filter s.bits.getLsbD
  := by
  rw [← Kind.map_id_all, List.filter_map]
  rfl

theorem pairwise_toList (s : KindSet) :
  (s.toList.map Kind.id).Pairwise (· < ·)
  := by
  rw [map_id_toList]
  apply List.pairwise_lt_range.filter

theorem nodup_toList (s : KindSet) :
  s.toList.Nodup
  := .of_map Kind.id (s.pairwise_toList.imp Nat.ne_of_lt)

theorem count_toList (s : KindSet) (k : Kind) :
  s.toList.count k = if s.contains k then 1 else 0
  := by
  rw [s.nodup_toList.count]
  simp only [mem_toList]

/-- Where only places of kinds have their bits set, as many bits are set as there are kinds. -/
theorem Represents.size_eq (represents : s.Represents ks) :
  s.size = s.toList.length
  := by
  -- the list goes through the vocabulary only, the count through the whole word
  have beyond : (List.range' 39 25).countP s.bits.getLsbD = 0 := by
    apply List.countP_eq_zero.mpr
    intro i place bit
    have first : 39 ≤ i := (List.mem_range'_1.mp place).1
    exact Nat.not_le_of_lt first (represents.le bit)
  have divided : List.range 64 = List.range 39 ++ List.range' 39 25 := by decide
  rw [size, divided, List.countP_append, beyond, Nat.add_zero, List.countP_eq_length_filter, ← map_id_toList,
    List.length_map]

/-- What a set shows of the kinds that it holds: only their bits are set, they belong to it, and going through
it yields each of them once, in the order of the vocabulary. -/
structure Lists (s : KindSet) (ks : List Kind) : Prop where
  bits : ∀ i, s.bits.getLsbD i → i ≤ 38
  increasing : (s.toList.map Kind.id).Pairwise (· < ·)
  once : ∀ k, s.toList.count k = if s.contains k then 1 else 0
  size : s.size = s.toList.length
  contains : ∀ k, s.contains k ↔ k ∈ ks

theorem Represents.lists (represents : s.Represents ks) :
  s.Lists ks
  := by
  constructor
  case bits => exact fun _ => represents.le
  case increasing => apply pairwise_toList
  case once => apply count_toList
  case size => apply represents.size_eq
  case contains => apply represents.contains_iff

/-! ### Ways to put a set together -/

/-- The word with the bits of the listed kinds, set one after the other. -/
def pack (ks : List Kind) : BitVec 64 :=
  ks.foldl (fun bits k => bits ||| BitVec.twoPow 64 k.id) 0

theorem ofList_eq_pack (ks : List Kind) :
  ofList ks = ⟨pack ks⟩
  := List.foldl_hom mk fun _ _ => rfl

/-- A way to put a set together. -/
inductive Recipe where
  /-- The bits of the listed kinds are set in one word. -/
  | listed (ks : List Kind)
  /-- The kinds join the set without kinds as they come. -/
  | collected (ks : List Kind)
  /-- One more kind joins a set. -/
  | insert (r : Recipe) (k : Kind)
  /-- Two sets are made one. -/
  | union (r r' : Recipe)

namespace Recipe

/-- The set that is put together. -/
def set : Recipe → KindSet
  | listed ks => ⟨pack ks⟩
  | collected ks => ofList ks
  | insert r k => r.set.insert k
  | union r r' => r.set.union r'.set

/-- The kinds that are put in, in order and with repetitions. -/
def kinds : Recipe → List Kind
  | listed ks => ks
  | collected ks => ks
  | insert r k => r.kinds ++ [k]
  | union r r' => r.kinds ++ r'.kinds

theorem represents_set (r : Recipe) :
  r.set.Represents r.kinds
  := by
  induction r with
  | listed ks =>
    rw [set, ← ofList_eq_pack]
    apply represents_ofList
  | collected ks => apply represents_ofList
  | insert r k ih => apply ih.insert k
  | union r r' ih ih' => apply ih.union ih'

end Recipe

end KindSet

/-! ### Names of expected kinds -/

/-- Of names that differ from each other none is left out. -/
theorem distinctNames_eq_take {found names : List String} {n : Nat} (distinct : (found ++ names).Nodup)
    (room : found.length < n) :
  distinctNames found n names = (found ++ names).take n
  := by
  induction names generalizing found with
  | nil => rw [distinctNames, List.append_nil, List.take_of_length_le room.le]
  | cons name names ih =>
    have other : name ∉ found := fun known => List.disjoint_of_nodup_append distinct known List.mem_cons_self
    have divided : found ++ name :: names = (found ++ [name]) ++ names := by simp
    rw [divided] at distinct ⊢
    rw [distinctNames, if_neg (mt List.contains_iff_mem.mp other)]
    split
    case isTrue full =>
      have length : (found ++ [name]).length = n := by
        apply le_antisymm _ full
        rw [List.length_append]
        exact room
      rw [List.take_left' length]
    case isFalse room => exact ih distinct (Nat.lt_of_not_le room)

/-- The names in a message are those of the first expected kinds. -/
theorem expectedNames_eq (s : KindSet) (locale : Locale) :
  expectedNames s locale = (s.toList.take 5).map locale.friendlyName
  := by
  have distinct : (s.toList.map locale.friendlyName).Nodup := s.nodup_toList.map locale.friendlyName_injective
  rw [expectedNames, distinctNames_eq_take distinct (by decide), List.nil_append, List.map_take]
  rfl

example : expectedNames (.ofList [.dot, .string, .leftParen, .number, .string, .rightParen, .newline]) .ko
    = ["Number", "String", "줄바꿈(Enter)", "'('", "')'"] := by
  decide +kernel

/-- A set of kinds is the finite set of the kinds put in, however it is put together, and the names of its
first kinds stand in a message without a loss. -/
theorem KindSet.Recipe.set_faithful (r : KindSet.Recipe) :
  r.set.Lists r.kinds
    ∧ (∀ r' : KindSet.Recipe, r.set = r'.set ↔ ∀ k, k ∈ r.kinds ↔ k ∈ r'.kinds)
    ∧ ∀ locale, expectedNames r.set locale = (r.set.toList.take (min 5 r.set.size)).map locale.friendlyName
      ∧ (expectedNames r.set locale).Nodup
  := by
  have lists := r.represents_set.lists
  refine ⟨lists, fun r' => r.represents_set.eq_iff r'.represents_set, fun locale => ⟨?_, ?_⟩⟩
  · rw [expectedNames_eq, lists.size, ← List.take_eq_take_min]
  · apply nodup_distinctNames List.nodup_nil (by decide)

end PlanetServer
