import Mathlib.Data.List.TakeWhile
import PlanetServer.Json.Reader

/-!
# Numbers read back

A number is read up to the first character that cannot go on with it, and an integer that is kept as
such is read back from its text.

* `Json.Closes` holds of a text that can follow a value.
* `Json.number?_append` says that such a text does not change the number before it.
* `Json.Number.readsBack_int` says that an integer is read back.
-/

namespace PlanetServer.Json

/-- Whether a text can follow a value: it is empty, or goes on with a comma or the end of a list or an
object. -/
def Closes (rest : List Char) : Prop :=
  ∀ c ∈ rest.head?, c = ',' ∨ c = ']' ∨ c = '\x7d'

theorem closes_nil : Closes []
  := nofun

theorem isDigit_eq (c : Char) :
  isDigit c = c.isDigit
  := rfl

/-! ### What follows a number -/

theorem Closes.not_isDigit {rest : List Char} (closes : Closes rest) :
  ∀ c ∈ rest.head?, isDigit c = false
  := by
  intro c first
  rcases closes c first with rfl | rfl | rfl <;> decide

theorem takeWhile_append_closes (digits : List Char) {rest : List Char} (closes : Closes rest) :
  (digits ++ rest).takeWhile isDigit = digits.takeWhile isDigit
    ∧ (digits ++ rest).dropWhile isDigit = digits.dropWhile isDigit ++ rest
  := by
  induction digits with
  | nil =>
    cases rest with
    | nil => simp
    | cons c rest => simp [closes.not_isDigit c rfl]
  | cons c digits ih =>
    cases digit : isDigit c with
    | true => simpa [digit] using ih
    | false => simp [digit]

theorem whole?_append {cs digits left rest : List Char} (closes : Closes rest)
    (read : whole? cs = some (digits, left)) :
  whole? (cs ++ rest) = some (digits, left ++ rest)
  := by
  obtain ⟨taken, dropped⟩ := takeWhile_append_closes cs closes
  unfold whole? at read ⊢
  rw [taken, dropped]
  split at read <;> simp_all

theorem fraction?_append {cs digits left rest : List Char} (closes : Closes rest)
    (read : fraction? cs = some (digits, left)) :
  fraction? (cs ++ rest) = some (digits, left ++ rest)
  := by
  cases cs with
  | nil =>
    obtain ⟨rfl, rfl⟩ : [] = digits ∧ [] = left := by simpa [fraction?] using read
    cases rest with
    | nil => rfl
    | cons c rest => rcases closes c rfl with rfl | rfl | rfl <;> rfl
  | cons c cs =>
    by_cases point : c = '.'
    · subst point
      obtain ⟨taken, dropped⟩ := takeWhile_append_closes cs closes
      simp only [fraction?, List.cons_append, taken, dropped] at read ⊢
      split at read
      · cases read
      · cases read
        simp [*]
    · have plain (ds : List Char) : fraction? (c :: ds) = some ([], c :: ds) := by
        simp [fraction?, point]
      rw [plain] at read
      cases read
      apply plain

theorem exponentSign_append {cs rest : List Char} (nonempty : cs ≠ []) :
  exponentSign (cs ++ rest) = ((exponentSign cs).1, (exponentSign cs).2 ++ rest)
  := by
  obtain ⟨c, cs, rfl⟩ := List.exists_cons_of_ne_nil nonempty
  by_cases plus : c = '+'
  · subst plus
    rfl
  · by_cases minus : c = '-'
    · subst minus
      rfl
    · simp [exponentSign, plus, minus]

theorem exponent?_append {cs left rest : List Char} {exponent : Option Int} (closes : Closes rest)
    (read : exponent? cs = some (exponent, left)) :
  exponent? (cs ++ rest) = some (exponent, left ++ rest)
  := by
  cases cs with
  | nil =>
    obtain ⟨rfl, rfl⟩ : none = exponent ∧ [] = left := by simpa [exponent?] using read
    cases rest with
    | nil => rfl
    | cons c rest => rcases closes c rfl with rfl | rfl | rfl <;> rfl
  | cons mark cs =>
    simp only [List.cons_append, exponent?] at read ⊢
    split at read
    · have nonempty : cs ≠ [] := by
        rintro rfl
        cases read
      obtain ⟨taken, dropped⟩ := takeWhile_append_closes (exponentSign cs).2 closes
      simp only [exponentSign_append nonempty, taken, dropped]
      split at read
      · cases read
      · cases read
        simp [*]
    · cases read
      simp [*]

/-- What closes a value does not change the number before it. -/
theorem number?_append {cs left rest : List Char} {number : Number} (closes : Closes rest)
    (read : number? cs = some (number, left)) :
  number? (cs ++ rest) = some (number, left ++ rest)
  := by
  have unsigned {negative : Bool} {cs : List Char}
      (read : unsigned? negative cs = some (number, left)) :
      unsigned? negative (cs ++ rest) = some (number, left ++ rest) := by
    obtain ⟨⟨whole, afterWhole⟩, first, read⟩ := Option.bind_eq_some_iff.mp read
    obtain ⟨⟨fraction, afterFraction⟩, second, read⟩ := Option.bind_eq_some_iff.mp read
    obtain ⟨⟨exponent, afterExponent⟩, third, read⟩ := Option.bind_eq_some_iff.mp read
    obtain ⟨value, known, same⟩ := Option.bind_eq_some_iff.mp read
    obtain ⟨rfl, rfl⟩ := Prod.mk.inj (Option.some.inj same)
    simp [unsigned?, whole?_append closes first, fraction?_append closes second,
      exponent?_append closes third, known]
  cases cs with
  | nil => cases read
  | cons c cs =>
    by_cases minus : c = '-'
    · subst minus
      apply unsigned read
    · have plain (ds : List Char) : number? (c :: ds) = unsigned? false (c :: ds) := by
        simp [number?, minus]
      rw [plain] at read
      rw [List.cons_append, plain, ← List.cons_append]
      apply unsigned read

/-- A number starts with a sign or a digit. -/
theorem number?_head {cs left : List Char} {number : Number}
    (read : number? cs = some (number, left)) :
  ∃ c rest, cs = c :: rest ∧ (c = '-' ∨ isDigit c = true)
  := by
  cases cs with
  | nil => cases read
  | cons c rest =>
    refine ⟨c, rest, rfl, ?_⟩
    by_cases minus : c = '-'
    · apply Or.inl minus
    · have read : unsigned? false (c :: rest) = some (number, left) := by
        simpa [number?, minus] using read
      obtain ⟨⟨whole, after⟩, first, -⟩ := Option.bind_eq_some_iff.mp read
      right
      cases digit : isDigit c with
      | true => rfl
      | false => simp [whole?, digit] at first

/-! ### Integers -/

namespace Number

/-- Whether a number is read back from its text. -/
def ReadsBack (number : Number) : Prop :=
  number? number.text.toList = some (number, [])

theorem le_ofDigitChars (digits : List Char) (held : Nat) :
  held ≤ Nat.ofDigitChars 10 digits held
  := by
  induction digits generalizing held with
  | nil => rw [Nat.ofDigitChars_nil]
  | cons c digits ih =>
    rw [Nat.ofDigitChars_cons]
    apply Nat.le_trans _ (ih _)
    omega

/-- Digits are gathered as long as the number that they stand for is not too large. -/
theorem gather_of_fits {digits : List Char} {held : Nat}
    (fits : Nat.ofDigitChars 10 digits held ≤ 18446744073709551615) :
  gather held digits = (Nat.ofDigitChars 10 digits held, [])
  := by
  induction digits generalizing held with
  | nil => rw [gather, Nat.ofDigitChars_nil]
  | cons c digits ih =>
    rw [Nat.ofDigitChars_cons] at fits ⊢
    have within := Nat.le_trans (le_ofDigitChars digits _) fits
    rw [gather, if_pos, ih fits]
    simp only [fitsInteger, Bool.and_eq_true, decide_eq_true_eq]
    omega

theorem head_toDigits {n : Nat} (positive : 0 < n) (rest : List Char) :
  Nat.toDigits 10 n ≠ '0' :: rest
  := by
  induction n using Nat.strongRecOn generalizing rest with
  | ind n ih =>
    by_cases small : n < 10
    · rw [Nat.toDigits_of_lt_base small]
      simp
      omega
    · rw [Nat.toDigits_of_base_le (by decide) (by omega)]
      obtain ⟨c, cs, digits⟩ := List.exists_cons_of_ne_nil (Nat.toDigits_ne_nil (n := n / 10) (b := 10))
      have later := ih (n / 10) (by omega) (by omega) cs
      rw [digits] at later ⊢
      simp_all

theorem takeWhile_toDigits (n : Nat) :
  (Nat.toDigits 10 n).takeWhile isDigit = Nat.toDigits 10 n
    ∧ (Nat.toDigits 10 n).dropWhile isDigit = []
  := by
  have digits : ∀ c ∈ Nat.toDigits 10 n, isDigit c = true := by
    intro c member
    rw [isDigit_eq]
    apply Nat.isDigit_of_mem_toDigits (by decide) (by decide) member
  constructor
  · apply List.takeWhile_eq_self_iff.mpr digits
  · apply List.dropWhile_eq_nil_iff.mpr digits

theorem whole?_toDigits (n : Nat) :
  whole? (Nat.toDigits 10 n) = some (Nat.toDigits 10 n, [])
  := by
  obtain ⟨taken, dropped⟩ := takeWhile_toDigits n
  rw [whole?, taken, dropped]
  split
  · apply absurd ‹_› Nat.toDigits_ne_nil
  · simp [*]
  · rename_i rest more digits
    rcases Nat.eq_zero_or_pos n with rfl | positive
    · simp [Nat.toDigits_zero] at digits
      simp [digits] at more
    · apply absurd digits (head_toDigits positive _)
  · rfl

theorem unsigned?_toDigits {negative : Bool} {n : Nat} {value : Int}
    (same : (if negative then -(n : Int) else n) = value) (fits : fitsInteger value = true)
    (signed : negative = false ∨ n ≠ 0) :
  unsigned? negative (Nat.toDigits 10 n) = some (.int value, [])
  := by
  have small : n ≤ 18446744073709551615 := by
    simp only [fitsInteger, Bool.and_eq_true, decide_eq_true_eq] at fits
    split at same <;> omega
  have gathered : gather 0 (Nat.toDigits 10 n) = (n, []) := by
    rw [gather_of_fits, Nat.ofDigitChars_ten_toDigits]
    rwa [Nat.ofDigitChars_ten_toDigits]
  simp [unsigned?, whole?_toDigits, fraction?, exponent?, ofParts?, gathered, same, fits, signed]

/-- An integer that is kept as such is read back from its text. -/
theorem readsBack_int {value : Int} (fits : fitsInteger value = true) :
  ReadsBack (.int value)
  := by
  rw [ReadsBack, text, Int.repr_eq_if]
  split
  · rename_i positive
    obtain ⟨c, cs, digits⟩ :=
      List.exists_cons_of_ne_nil (Nat.toDigits_ne_nil (n := value.toNat) (b := 10))
    have digit : isDigit c = true := by
      apply Nat.isDigit_of_mem_toDigits (b := 10) (n := value.toNat) (by decide) (by decide)
      rw [digits]
      apply List.mem_cons_self
    have plain : c ≠ '-' := by
      rintro rfl
      apply absurd digit
      decide
    have read : unsigned? false (Nat.toDigits 10 value.toNat) = some (.int value, []) :=
      unsigned?_toDigits (Int.toNat_of_nonneg positive) fits (.inl rfl)
    rw [Nat.toList_repr]
    rw [digits] at read ⊢
    simpa [number?, plain] using read
  · rename_i negative
    have same : (if true then -((-value).toNat : Int) else (-value).toNat) = value := by
      rw [if_pos rfl]
      omega
    have read := unsigned?_toDigits same fits (by omega)
    simpa [number?] using read

end Number

end PlanetServer.Json
