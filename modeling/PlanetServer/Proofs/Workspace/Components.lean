import Mathlib.Data.List.Basic
import Mathlib.Tactic.Common
import PlanetServer.Workspace.Path

/-!
# Components of paths

A path is cut at its slashes, and what was joined by single slashes is what it is cut into. Two paths
are the same if they lead through the same components; a slash at the end makes no difference.

* `Path.splitAt_intercalate` says that cutting undoes joining.
* `Path.ofComponents` is the path from the root through components, and `Path.components_ofComponents`
  reads them off.
* `Path.components_join` says what the components of a resolved path are.
-/

namespace PlanetServer

open Utf8 (Bytes)

/-- A separator before each of several parts, or between them with one more in front. -/
theorem cons_intercalate {α : Type} (separator : α) {parts : List (List α)} (nonempty : parts ≠ []) :
  separator :: [separator].intercalate parts = parts.flatMap (separator :: ·)
  := by
  induction parts with
  | nil => contradiction
  | cons first parts ih =>
    cases parts with
    | nil => simp
    | cons second parts =>
      rw [List.intercalate_cons_cons, List.flatMap_cons, ← ih (List.cons_ne_nil _ _)]
      simp

namespace Path

/-! ### Cutting -/

variable {b : UInt8}

theorem splitAt_ne_nil (b : UInt8) (bytes : Bytes) :
  splitAt b bytes ≠ []
  := by
  cases bytes with
  | nil => simp [splitAt]
  | cons c bytes =>
    rw [splitAt]
    split
    · simp
    · split <;> simp

theorem splitAt_of_not_mem {bytes : Bytes} (absent : b ∉ bytes) :
  splitAt b bytes = [bytes]
  := by
  induction bytes with
  | nil => rfl
  | cons c bytes ih =>
    obtain ⟨other, absent⟩ := List.ne_and_not_mem_of_not_mem_cons absent
    rw [splitAt, if_neg (Ne.symm other), ih absent]

theorem splitAt_append (b : UInt8) (bytes bytes' : Bytes) :
  splitAt b (bytes ++ b :: bytes') = splitAt b bytes ++ splitAt b bytes'
  := by
  induction bytes with
  | nil => simp [splitAt]
  | cons c bytes ih =>
    rw [List.cons_append, splitAt, splitAt, ih]
    by_cases same : c = b
    · simp [same]
    · rw [if_neg same, if_neg same]
      obtain ⟨piece, rest, found⟩ := List.exists_cons_of_ne_nil (splitAt_ne_nil b bytes)
      simp [found]

/-- What is joined by single separators is what it is cut into. -/
theorem splitAt_intercalate {parts : List Bytes} (nonempty : parts ≠ [])
    (inner : ∀ part ∈ parts, b ∉ part) :
  splitAt b ([b].intercalate parts) = parts
  := by
  induction parts with
  | nil => contradiction
  | cons first parts ih =>
    obtain ⟨absent, inner⟩ := List.forall_mem_cons.mp inner
    cases parts with
    | nil => rw [List.intercalate_singleton, splitAt_of_not_mem absent]
    | cons second parts =>
      rw [List.intercalate_cons_cons, List.append_assoc, List.singleton_append, splitAt_append,
        splitAt_of_not_mem absent, ih (List.cons_ne_nil _ _) inner]
      rfl

/-! ### Components -/

/-- Whether bytes may stand between two slashes and lead to one file: there are some, they hold no
slash, and they are neither one full stop nor two. -/
structure IsComponent (component : Bytes) : Prop where
  /-- There are some. -/
  ne_nil : component ≠ []
  /-- They hold no slash. -/
  inner : slash ∉ component
  /-- They do not stay where they are. -/
  ne_stop : component ≠ [stop]
  /-- They do not lead back. -/
  ne_stops : component ≠ [stop, stop]

instance (component : Bytes) : Decidable (IsComponent component) :=
  decidable_of_iff
    (component ≠ [] ∧ slash ∉ component ∧ component ≠ [stop] ∧ component ≠ [stop, stop])
    ⟨fun ⟨ne_nil, inner, ne_stop, ne_stops⟩ => ⟨ne_nil, inner, ne_stop, ne_stops⟩,
      fun ⟨ne_nil, inner, ne_stop, ne_stops⟩ => ⟨ne_nil, inner, ne_stop, ne_stops⟩⟩

/-- The path from the root through components. -/
def ofComponents (components : List Bytes) : Path :=
  ⟨slash :: [slash].intercalate components⟩

/-- Whether two paths are the same: both start at the root or neither does, and they have the same
components. -/
def Same (p q : Path) : Prop :=
  p.isAbsolute = q.isAbsolute ∧ p.components = q.components

variable {p q : Path} {components : List Bytes}

theorem Same.refl (p : Path) : p.Same p :=
  ⟨rfl, rfl⟩

theorem filter_components (valid : ∀ component ∈ components, IsComponent component) :
  (components.filter fun component => component ≠ [] ∧ component ≠ [stop]) = components
  := by
  rw [List.filter_eq_self]
  intro component known
  simp [(valid component known).ne_nil, (valid component known).ne_stop]

/-- The components of a path that does not start at the root are those it is joined of. -/
theorem components_intercalate (nonempty : components ≠ [])
    (valid : ∀ component ∈ components, IsComponent component) :
  (⟨[slash].intercalate components⟩ : Path).components = components
  := by
  have inner : ∀ component ∈ components, slash ∉ component :=
    fun component known => (valid component known).inner
  rw [Path.components, splitAt_intercalate nonempty inner, filter_components valid]

theorem components_ofComponents (valid : ∀ component ∈ components, IsComponent component) :
  (ofComponents components).components = components
  := by
  by_cases none : components = []
  · rw [none]
    rfl
  · have cut := splitAt_append slash [] ([slash].intercalate components)
    rw [List.nil_append] at cut
    have rest := components_intercalate none valid
    rw [Path.components] at rest
    rw [Path.components, ofComponents, cut, List.filter_append, rest]
    rfl

theorem isAbsolute_ofComponents (components : List Bytes) :
  (ofComponents components).isAbsolute = true
  := rfl

/-- A path that is joined of components does not start at the root. -/
theorem isAbsolute_intercalate (valid : ∀ component ∈ components, IsComponent component) :
  (⟨[slash].intercalate components⟩ : Path).isAbsolute = false
  := by
  rcases components with _ | ⟨first, components⟩
  · rfl
  obtain ⟨b, bytes, rfl⟩ := List.exists_cons_of_ne_nil (valid first List.mem_cons_self).ne_nil
  have other : b ≠ slash := fun same => (valid _ List.mem_cons_self).inner (by simp [same])
  cases components with
  | nil => simp [isAbsolute, other]
  | cons second components => simp [isAbsolute, List.intercalate_cons_cons, other]

/-- A slash at the end of a path makes no difference. -/
theorem components_append_slash (bytes : Bytes) :
  (⟨bytes ++ [slash]⟩ : Path).components = (⟨bytes⟩ : Path).components
  := by
  have cut := splitAt_append slash bytes []
  rw [Path.components, cut, List.filter_append]
  apply List.append_nil

/-! ### Resolved paths -/

theorem isAbsolute_join (absolute : p.isAbsolute = true) (relative : q.isAbsolute = false) :
  (p.join q).isAbsolute = true
  := by
  obtain ⟨_ | ⟨b, bytes⟩⟩ := p
  · cases absolute
  · rw [join, if_neg (by simp [relative])]
    simpa [isAbsolute, List.getLast?_cons] using absolute

/-- A path that does not start at the root is resolved by what follows the directory. -/
theorem components_join (absolute : p.isAbsolute = true) (relative : q.isAbsolute = false) :
  (p.join q).components = p.components ++ q.components
  := by
  obtain ⟨bytes⟩ := p
  cases ends : bytes.getLast? with
  | none =>
    obtain rfl := List.getLast?_eq_none_iff.mp ends
    cases absolute
  | some last =>
    obtain ⟨before, rfl⟩ := List.getLast?_eq_some_iff.mp ends
    rw [join, if_neg (by simp [relative])]
    by_cases closed : last = slash
    · subst closed
      have cut := splitAt_append slash before q.bytes
      simp only [ends, ↓reduceIte, List.append_nil, components_append_slash]
      rw [Path.components, List.append_assoc, List.singleton_append, cut, List.filter_append]
      rfl
    · have cut := splitAt_append slash (before ++ [last]) q.bytes
      simp only [ends, closed, ↓reduceIte]
      rw [Path.components, List.append_assoc _ [slash], List.singleton_append, cut, List.filter_append]
      rfl

end Path

end PlanetServer
