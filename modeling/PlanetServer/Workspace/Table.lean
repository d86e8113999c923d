/-!
# Tables

A table holds at most one value for each name.
-/

namespace PlanetServer

/-- Values by name, no two of them under one name. -/
structure Table (α : Type) where
  /-- The names and their values. -/
  entries : List (String × α)
deriving Repr

namespace Table

variable {α : Type}

/-- The table without values. -/
def empty : Table α :=
  ⟨[]⟩

/-- The value under a name. -/
def get? (t : Table α) (name : String) : Option α :=
  t.entries.lookup name

/-- The table without a value under the name. -/
def erase (t : Table α) (name : String) : Table α :=
  ⟨t.entries.filter fun entry => entry.1 ≠ name⟩

/-- The table with a value under the name, in the place of any other. -/
def insert (t : Table α) (name : String) (value : α) : Table α :=
  ⟨(name, value) :: (t.erase name).entries⟩

/-- Whether there is a value under the name. -/
def contains (t : Table α) (name : String) : Bool :=
  (t.get? name).isSome

/-- The number of values. -/
def size (t : Table α) : Nat :=
  t.entries.length

/-! ### What the operations do to the value under a name -/

private theorem lookup_filter_ne (name other : String) (entries : List (String × α)) :
  (entries.filter fun entry => entry.1 ≠ name).lookup other
    = if other = name then none else entries.lookup other
  := by
  induction entries with
  | nil => simp
  | cons entry rest ih =>
    obtain ⟨key, value⟩ := entry
    by_cases same : key = name
    · subst same
      rw [List.filter_cons_of_neg (by simp), ih]
      by_cases found : other = key
      · simp only [found, ↓reduceIte]
      · have miss : (other == key) = false := beq_eq_false_iff_ne.mpr found
        simp only [List.lookup_cons, miss, found, ↓reduceIte]
    · rw [List.filter_cons_of_pos (by simpa using same)]
      by_cases found : other = key
      · subst found
        simp only [List.lookup_cons, beq_self_eq_true, same, ↓reduceIte]
      · have miss : (other == key) = false := beq_eq_false_iff_ne.mpr found
        simp only [List.lookup_cons, miss]
        exact ih

@[simp] theorem get?_empty (name : String) :
  (empty : Table α).get? name = none
  := rfl

theorem get?_erase (t : Table α) (name other : String) :
  (t.erase name).get? other = if other = name then none else t.get? other
  := lookup_filter_ne name other t.entries

theorem get?_insert (t : Table α) (name : String) (value : α) (other : String) :
  (t.insert name value).get? other = if other = name then some value else t.get? other
  := by
  by_cases found : other = name
  · simp [insert, get?, found]
  · have miss : (other == name) = false := by simp [found]
    have erased := get?_erase t name other
    simp only [found, ↓reduceIte] at erased ⊢
    simp only [insert, get?, List.lookup_cons, miss]
    exact erased

end Table

end PlanetServer
