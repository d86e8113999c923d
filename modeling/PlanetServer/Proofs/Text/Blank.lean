import Mathlib.Data.List.DropRight
import PlanetServer.Text.Basic

/-!
# Texts without blanks around them

Trimming a text takes blanks off its ends, and nothing else.

* `Text.trimEnd_append_cons` and `Text.trim_append_cons` trim a text around one of its characters.
* `Text.Trimmed` says that no blank stands at either end, and `Text.Trimmed.trim_between` that such a text
  comes back when blanks are put around it.
-/

namespace PlanetServer.Text

variable {cs ds blanks : List Char} {c : Char}

/-! ### Runs up to a character -/

section

variable {p : Char → Bool} (stops : p c = false)

include stops

theorem takeWhile_append_cons :
  (cs ++ c :: ds).takeWhile p = cs.takeWhile p
  := by
  induction cs with
  | nil => rw [List.nil_append, List.takeWhile_cons_of_neg (by simp [stops]), List.takeWhile_nil]
  | cons d cs ih => simp only [List.cons_append, List.takeWhile_cons, ih]

theorem dropWhile_append_cons :
  (cs ++ c :: ds).dropWhile p = cs.dropWhile p ++ c :: ds
  := by
  rw [List.dropWhile_append, List.dropWhile_cons_of_neg (by simp [stops])]
  cases cs.dropWhile p <;> rfl

end

/-! ### Trimming -/

/-- What stands before a character that is not blank stays when a text is trimmed at its end. -/
theorem trimEnd_append_cons (other : isBlank c = false) :
  trimEnd (cs ++ c :: ds) = cs ++ c :: trimEnd ds
  := by
  have reversed : (cs ++ c :: ds).reverse = ds.reverse ++ c :: cs.reverse := by simp
  rw [trimEnd, reversed, dropWhile_append_cons other, trimEnd]
  simp

/-- What is left of a text around a character that is not blank. -/
theorem trim_append_cons (other : isBlank c = false) :
  trim (cs ++ c :: ds) = cs.dropWhile isBlank ++ c :: trimEnd ds
  := by
  rw [trim, dropWhile_append_cons other, trimEnd_append_cons other]

theorem trimEnd_append_of_blank (blank : ∀ c ∈ blanks, isBlank c = true) :
  trimEnd (cs ++ blanks) = trimEnd cs
  := by
  rw [trimEnd, List.reverse_append,
    List.dropWhile_append_of_pos fun c member => blank c (List.mem_reverse.mp member), trimEnd]

/-- A text is all blank, or has a first character that is not. -/
theorem blank_or_exists (cs : List Char) :
  (∀ c ∈ cs, isBlank c = true)
    ∨ ∃ blanks c ds, cs = blanks ++ c :: ds ∧ (∀ b ∈ blanks, isBlank b = true) ∧ isBlank c = false
  := by
  cases rest : cs.dropWhile isBlank with
  | nil => exact .inl (List.dropWhile_eq_nil_iff.mp rest)
  | cons c ds =>
    right
    use cs.takeWhile isBlank, c, ds
    constructor
    · rw [← rest, List.takeWhile_append_dropWhile]
    · have first := List.head?_dropWhile_not isBlank cs
      rw [rest] at first
      exact ⟨fun b member => List.mem_takeWhile_imp member, first⟩

theorem trim_eq_nil_iff :
  trim cs = [] ↔ ∀ c ∈ cs, isBlank c = true
  := by
  rw [← List.dropWhile_eq_nil_iff]
  constructor
  · intro empty
    rcases blank_or_exists cs with blank | ⟨blanks, c, ds, rfl, -, other⟩
    · exact List.dropWhile_eq_nil_iff.mpr blank
    · rw [trim_append_cons other] at empty
      cases (List.append_eq_nil_iff.mp empty).2
  · intro empty
    rw [trim, empty]
    rfl

theorem trim_ne_nil_iff :
  trim cs ≠ [] ↔ ∃ c ∈ cs, isBlank c = false
  := by
  simp [trim_eq_nil_iff]

theorem trim_of_blank_append (blank : ∀ c ∈ blanks, isBlank c = true) :
  trim (blanks ++ cs) = trim cs
  := by
  rw [trim, List.dropWhile_append_of_pos blank, trim]

theorem trim_append_of_blank (blank : ∀ c ∈ blanks, isBlank c = true) :
  trim (cs ++ blanks) = trim cs
  := by
  rcases blank_or_exists cs with blank' | ⟨before, c, ds, rfl, -, other⟩
  · rw [trim_eq_nil_iff.mpr blank', trim_eq_nil_iff.mpr (List.forall_mem_append.mpr ⟨blank', blank⟩)]
  · rw [List.append_assoc, List.cons_append, trim_append_cons other, trim_append_cons other,
      trimEnd_append_of_blank blank]

theorem mem_of_mem_trim (member : c ∈ trim cs) :
  c ∈ cs
  := by
  apply (List.dropWhile_suffix isBlank).subset
  apply (List.rdropWhile_prefix isBlank _).subset member

theorem trim_dropWhile (cs : List Char) :
  trim (cs.dropWhile isBlank) = trim cs
  := by
  rw [trim, List.dropWhile_idempotent, trim]

theorem trim_trimEnd (cs : List Char) :
  trim (trimEnd cs) = trim cs
  := by
  rcases blank_or_exists cs with blank | ⟨blanks, c, ds, rfl, -, other⟩
  · have empty : trimEnd ([] ++ cs) = trimEnd [] := trimEnd_append_of_blank blank
    rw [List.nil_append] at empty
    rw [empty, trim_eq_nil_iff.mpr blank]
    rfl
  · rw [trimEnd_append_cons other, trim_append_cons other, trim_append_cons other]
    congr 2
    apply List.rdropWhile_idempotent

/-- No blank stands at either end of the text. -/
structure Trimmed (cs : List Char) : Prop where
  /-- The first character is not blank. -/
  first : ∀ c ∈ cs.head?, isBlank c = false
  /-- The last character is not blank. -/
  last : ∀ c ∈ cs.getLast?, isBlank c = false

/-- Such a text is what trimming finds between blanks. -/
theorem Trimmed.trim_between {before after : List Char} (trimmed : Trimmed cs)
    (blank : ∀ c ∈ before, isBlank c = true) (blank' : ∀ c ∈ after, isBlank c = true) :
  trim (before ++ cs ++ after) = cs
  := by
  cases cs with
  | nil =>
    apply trim_eq_nil_iff.mpr
    simpa using fun c member => Or.elim member (blank c) (blank' c)
  | cons c cs =>
    have start : (before ++ c :: cs ++ after).dropWhile isBlank = c :: cs ++ after := by
      rw [List.append_assoc, List.dropWhile_append_of_pos blank]
      apply List.dropWhile_cons_of_neg
      rw [trimmed.first c rfl]
      apply Bool.false_ne_true
    rw [trim, start, trimEnd_append_of_blank blank']
    apply List.rdropWhile_eq_self_iff.mpr
    intro holds
    rw [trimmed.last _ (List.getLast?_eq_some_getLast holds)]
    apply Bool.false_ne_true

end PlanetServer.Text
