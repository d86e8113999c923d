import Mathlib.Tactic.Common
import PlanetServer.Proofs.Text.Utf8
import PlanetServer.Workspace.Uri

/-!
# Names of files

The name of a file is made of the components of its path and of nothing else. What is written by percent
signs can be read back, so different components have different names, and two paths have the same name
exactly if they have the same components (`Uri.ofPath?_eq_iff`).
-/

namespace PlanetServer

open Utf8 (Bytes)

namespace Text

/-! ### Percent signs are read back -/

/-- A byte that is no percent sign stands for itself. -/
theorem percentDecode_cons_of_ne {b : UInt8} (other : b ≠ 0x25) (rest : Bytes) :
  percentDecode (b :: rest) = b :: percentDecode rest
  := by
  rw [percentDecode.eq_def]
  split
  · simp_all
  · simp_all
  · rename_i found
    obtain ⟨rfl, rfl⟩ := List.cons.inj found
    rfl

theorem encodeChar_capitalHexDigit {n : Nat} (small : n < 16) :
  ∃ b, Utf8.encodeChar (capitalHexDigit n) = [b] ∧ hexByte? b = some n
  := by
  have all : ∀ n < 16, Utf8.encodeChar (capitalHexDigit n)
      = [Utf8.byte (capitalHexDigit n).toNat]
        ∧ hexByte? (Utf8.byte (capitalHexDigit n).toNat) = some n := by decide
  exact ⟨_, all n small⟩

/-- What holds of the bytes of all numbers below 256 holds of all bytes. -/
theorem forall_byte {P : UInt8 → Prop} (all : ∀ n < 0x100, P (Utf8.byte n)) (b : UInt8) :
  P b
  := by
  have found := all b.toNat b.toNat_lt
  rwa [Utf8.byte, UInt8.ofNat_toNat] at found

/-- A byte that is not written by a percent sign is written as it is. -/
theorem encode_encodeByte_of_plain {b : UInt8} (plain : isEncoded b = false) :
  Utf8.encode (encodeByte b) = [b] ∧ b ≠ 0x25
  := by
  revert plain
  apply forall_byte (P := fun b => isEncoded b = false → Utf8.encode (encodeByte b) = [b] ∧ b ≠ 0x25)
  decide +kernel

theorem slash_not_mem_encodeByte (b : UInt8) :
  '/' ∉ encodeByte b
  := by
  apply forall_byte (P := fun b => '/' ∉ encodeByte b)
  decide +kernel

theorem percentDecode_encodeByte (b : UInt8) (rest : Bytes) :
  percentDecode (Utf8.encode (encodeByte b) ++ rest) = b :: percentDecode rest
  := by
  cases encoded : isEncoded b with
  | false =>
    obtain ⟨bytes, other⟩ := encode_encodeByte_of_plain encoded
    rw [bytes, List.singleton_append, percentDecode_cons_of_ne other]
  | true =>
    have small := b.toNat_lt
    obtain ⟨high, first, value⟩ := encodeChar_capitalHexDigit (n := b.toNat / 16) (by omega)
    obtain ⟨low, second, value'⟩ := encodeChar_capitalHexDigit (n := b.toNat % 16) (by omega)
    have whole : 16 * (b.toNat / 16) + b.toNat % 16 = b.toNat := by omega
    have written : Utf8.encode (encodeByte b) = [0x25, high, low] := by
      rw [encodeByte, if_pos encoded, Utf8.encode, List.flatMap_cons, List.flatMap_cons,
        List.flatMap_singleton, first, second]
      rfl
    rw [written]
    simp only [List.cons_append, List.nil_append, percentDecode, value, value', whole]
    rw [Utf8.byte, UInt8.ofNat_toNat]

/-- What is written by percent signs is read back. -/
theorem percentDecode_percentEncode (component : Bytes) :
  percentDecode (Utf8.encode (percentEncode component)) = component
  := by
  induction component with
  | nil => rfl
  | cons b component ih =>
    have split : Utf8.encode (percentEncode (b :: component))
        = Utf8.encode (encodeByte b) ++ Utf8.encode (percentEncode component) := by
      rw [percentEncode, List.flatMap_cons, Utf8.encode, List.flatMap_append]
      rfl
    rw [split, percentDecode_encodeByte, ih]

theorem percentEncode_injective {component component' : Bytes}
    (same : percentEncode component = percentEncode component') :
  component = component'
  := by
  rw [← percentDecode_percentEncode component, same, percentDecode_percentEncode]

theorem slash_not_mem_percentEncode (component : Bytes) :
  '/' ∉ percentEncode component
  := by
  intro member
  obtain ⟨b, -, member⟩ := List.mem_flatMap.mp member
  exact slash_not_mem_encodeByte b member

end Text

namespace Uri

/-! ### Names and components -/

/-- The text of components in a name. -/
def written (components : List Bytes) : List Char :=
  components.flatMap fun component => '/' :: Text.percentEncode component

/-- The first component in a name ends where the next slash is. -/
theorem takeWhile_written (component : Bytes) (components : List Bytes) :
  (Text.percentEncode component ++ written components).takeWhile (· ≠ '/')
    = Text.percentEncode component
  := by
  have inside : ∀ c ∈ Text.percentEncode component, decide (c ≠ '/') = true := by
    intro c member
    apply decide_eq_true
    rintro rfl
    exact Text.slash_not_mem_percentEncode component member
  have stops : (written components).takeWhile (· ≠ '/') = [] := by
    cases components with
    | nil => rfl
    | cons _ _ => rfl
  rw [List.takeWhile_append_of_pos inside, stops, List.append_nil]

/-- Components can be told from how they are written. -/
theorem written_injective {components components' : List Bytes}
    (same : written components = written components') :
  components = components'
  := by
  induction components generalizing components' with
  | nil =>
    cases components' with
    | nil => rfl
    | cons _ _ => cases same
  | cons component components ih =>
    cases components' with
    | nil => cases same
    | cons component' components' =>
      have texts : Text.percentEncode component ++ written components
          = Text.percentEncode component' ++ written components' := (List.cons.inj same).2
      have first : Text.percentEncode component = Text.percentEncode component' := by
        rw [← takeWhile_written component components, texts, takeWhile_written]
      rw [first] at texts
      rw [Text.percentEncode_injective first, ih (List.append_cancel_left texts)]

theorem ofPath?_of_nil {p : Path} (absolute : p.isAbsolute = true) (root : p.components = []) :
  ofPath? p = some "file:///"
  := by
  simp [ofPath?, absolute, root]

theorem ofPath?_of_ne_nil {p : Path} (absolute : p.isAbsolute = true) (inside : p.components ≠ []) :
  ofPath? p = some ("file://" ++ String.ofList (written p.components))
  := by
  unfold ofPath?
  rw [if_pos absolute]
  split
  · contradiction
  · rfl

/-- The name of the root differs from that of every other path. -/
theorem root_ne_written {p : Path} (inside : p.components ≠ []) :
  "file:///" ≠ "file://" ++ String.ofList (written p.components)
  := by
  intro same
  obtain ⟨component, components, found⟩ := List.exists_cons_of_ne_nil inside
  have member : component ∈ p.components := by simp [found]
  have holds : component ≠ [] := (of_decide_eq_true (List.mem_filter.mp member).2).1
  have texts := congrArg String.toList same
  rw [found] at texts
  have empty : Text.percentEncode component ++ written components = [] := by
    simpa [written] using texts
  apply holds
  apply Text.percentEncode_injective
  rw [(List.append_eq_nil_iff.mp empty).1]
  rfl

/-- Two paths that start at the root have the same name exactly if they have the same components. -/
theorem ofPath?_eq_iff {p q : Path} (absolute : p.isAbsolute = true) (absolute' : q.isAbsolute = true) :
  ofPath? p = ofPath? q ↔ p.components = q.components
  := by
  by_cases root : p.components = []
  · rw [ofPath?_of_nil absolute root, root]
    by_cases root' : q.components = []
    · simp [ofPath?_of_nil absolute' root', root']
    · rw [ofPath?_of_ne_nil absolute' root']
      simp [root_ne_written root', Ne.symm root']
  · rw [ofPath?_of_ne_nil absolute root]
    by_cases root' : q.components = []
    · rw [ofPath?_of_nil absolute' root', root']
      simp [(root_ne_written root).symm, root]
    · rw [ofPath?_of_ne_nil absolute' root']
      constructor
      · intro same
        apply written_injective
        simpa using congrArg (Option.map String.toList) same
      · intro same
        rw [same]

end Uri

end PlanetServer
