import PlanetServer.Proofs.Token.Blanks

/-!
# Maximal lexemes

How much of the text behind a lexeme matters to it. A lexeme stays the same when the text behind it is
cut off anywhere, even right behind the lexeme. So it is found again where its text stands alone, and no
longer part of the text it comes from is one lexeme.

* `Lexeme.first_of_cut` cuts off the text behind the first lexeme.
* `Lexeme.literal_of_mem_split` and `Lexeme.split_literal` say that a kind that is always written the same
  way is written so, and that nothing else is.
* `Stream.tokens_maximal` says what follows for the tokens of a document.
-/

namespace PlanetServer

namespace Lexeme

/-! ### Texts that are cut off -/

/-- The text behind a lexeme may be cut off anywhere. -/
theorem Follows.of_cut {rest rest' : List Char} (cut : rest' <+: rest) :
  Follows rest rest'
  where
  stops p _ _ stops c found := by
    obtain ⟨behind, rfl⟩ := cut
    apply stops c (List.mem_head?_append_of_mem_head? found)
  point d more eq _ := by
    obtain ⟨behind, rfl⟩ := cut
    exact ⟨more ++ behind, by simp [eq]⟩

/-- The first lexeme of a text stays the same when the text behind it is cut off. -/
theorem first_of_cut {c : Char} {body rest rest' : List Char} {l : Lexeme}
    (scan : first c (body ++ rest) = (l, rest)) (cut : rest' <+: rest) :
  first c (body ++ rest') = (l, rest')
  := by
  apply first_of_follows scan (.of_cut cut)
  rintro - d found
  obtain ⟨behind, rfl⟩ := cut
  apply List.mem_head?_append_of_mem_head? found

/-- A lexeme of a text is the first one of its own text with any part of the text behind it. -/
theorem split_of_cut {cs : List Char} {ls ls' : List Lexeme} {l : Lexeme}
    (divided : split cs = ls ++ l :: ls') {rest : List Char} (cut : rest <+: ls'.flatMap text) :
  split (l.text ++ rest) = l :: split rest
  := by
  induction ls generalizing cs with
  | nil =>
    rcases cs with _ | ⟨c, cs⟩
    · simp [split] at divided
    obtain ⟨body, l', behind, rfl, scan, start⟩ := first_divides c cs
    rw [split, scan] at divided
    obtain ⟨rfl, later⟩ : l' = l ∧ split behind = ls' := by simpa using divided
    rw [← later, flatMap_text_split] at cut
    rw [start, List.cons_append, split, first_of_cut scan cut]
  | cons l' ls ih =>
    rcases cs with _ | ⟨c, cs⟩
    · simp [split] at divided
    rw [split, List.cons_append] at divided
    apply ih (List.cons_eq_cons.mp divided).2

/-- A lexeme of a text is the first of several ones where its text is longer than it is. -/
theorem split_of_longer {part rest : List Char} {ls ls' : List Lexeme} {l : Lexeme}
    (divided : split (ls.flatMap text ++ part ++ rest) = ls ++ l :: ls')
    (longer : l.text.length < part.length) :
  ∃ l' ls', split part = l :: l' :: ls'
  := by
  have start : part ++ rest = l.text ++ ls'.flatMap text := by
    have covers := flatMap_text_split (ls.flatMap text ++ part ++ rest)
    rw [divided, List.append_assoc, List.flatMap_append, List.flatMap_cons] at covers
    apply (List.append_cancel_left covers).symm
  obtain ⟨more, rfl⟩ : l.text <+: part :=
    List.prefix_of_prefix_length_le (List.prefix_append _ _) (start ▸ List.prefix_append _ _) longer.le
  rw [List.append_assoc] at start
  rw [split_of_cut divided ⟨rest, List.append_cancel_left start⟩]
  rcases more with _ | ⟨c, more⟩
  · simp at longer
  · rw [split]
    exact ⟨_, _, rfl⟩

/-! ### Kinds that are always written the same way -/

theorem literal?_of_keyword? {word : String} {k : Kind} (found : Kind.keyword? word = some k) :
  k.literal? = some word
  := by
  unfold Kind.keyword? at found
  split at found
  all_goals cases found <;> rfl

theorem literal?_of_pair? {c d : Char} {k : Kind} (found : pair? c d = some k) :
  k.literal? = some (String.ofList [c, d])
  := by
  unfold pair? at found
  split at found
  all_goals cases found <;> rfl

theorem literal_single {c : Char} {literal : String} (found : (single c).literal? = some literal) :
  literal.toList = [c]
  := by
  unfold single at found
  split at found
  all_goals cases found <;> rfl

/-- A lexeme of a kind that is always written the same way is written so. -/
theorem literal_scan (s : Scanner) (c : Char) (cs : List Char) {literal : String}
    (found : (s.scan c cs).1.kind.literal? = some literal) :
  (s.scan c cs).1.text = literal.toList
  := by
  cases s with
  | lineEnd =>
    simp only [Scanner.scan, lineEnd] at found
    split at found
    · cases found
    · cases found
  | blanks | comment | number => cases found
  | string =>
    simp only [Scanner.scan, string] at found
    split at found
    · cases found
    · cases found
  | word =>
    simp only [Scanner.scan, word] at found ⊢
    cases keyword : Kind.keyword? (String.ofList (c :: cs.takeWhile continuesWord)) with
    | none =>
      rw [keyword] at found
      cases found
    | some k =>
      rw [keyword, Option.getD_some, literal?_of_keyword? keyword] at found
      obtain rfl := Option.some.inj found
      simp
  | mark =>
    simp only [Scanner.scan, mark] at found ⊢
    split at found
    · simp [literal_single found]
    · split at found
      · rename_i pair
        rw [literal?_of_pair? pair] at found
        obtain rfl := Option.some.inj found
        simp
      · simp [literal_single found]

theorem literal_of_mem_split {cs : List Char} {l : Lexeme} (member : l ∈ split cs) {literal : String}
    (found : l.kind.literal? = some literal) :
  l.text = literal.toList
  := by
  fun_induction split cs with
  | case1 => cases member
  | case2 c cs ih =>
    rcases List.mem_cons.mp member with rfl | later
    · rw [first_eq_scan] at found ⊢
      apply literal_scan _ _ _ found
    · apply ih later

/-- What a kind is always written as is one lexeme of that kind. -/
theorem split_literal :
  ∀ k : Kind, ∀ literal ∈ k.literal?, split literal.toList = [⟨k, literal.toList⟩]
  := by
  decide +kernel

end Lexeme

open Lexeme

/-! ### Whole documents -/

/-- A token of a kind that is always written the same way is written so. -/
theorem Stream.literal_of_mem_ofText {source : String} {t : Token} (member : t ∈ (ofText source).tokens)
    {literal : String} (found : t.kind.literal? = some literal) :
  t.text = literal
  := by
  have known : t.lexeme ∈ split source.toList := by
    rw [← lexemes_ofText]
    apply List.mem_map_of_mem member
  apply String.toList_inj.mp (literal_of_mem_split known found)

/-- The only token of a document is one lexeme that covers it. -/
theorem Stream.split_of_single {source : String} {t : Token} (single : (ofText source).tokens = [t]) :
  split source.toList = [t.lexeme]
  := by
  rw [← lexemes_ofText, single]
  rfl

/-- The lexeme of a token makes up a document on its own. -/
theorem Stream.tokens_of_single {source : String} {l : Lexeme} (single : split source.toList = [l]) :
  (ofText source).tokens = [⟨l.kind, String.ofList l.text, 0, .start⟩]
  := by
  rw [ofText, single]
  rfl

/-- A token of a document is the only token of its own text, of the same kind. It is maximal: no longer
part of the document that starts where the token starts has a single token. And a kind that is always
written the same way is the kind of exactly those tokens that are written so. -/
theorem Stream.tokens_maximal {source : String} {ts ts' : List Token} {t : Token}
    (divided : (ofText source).tokens = ts ++ t :: ts') :
  (∃ t', (ofText t.text).tokens = [t'] ∧ t'.kind = t.kind ∧ t'.text = t.text)
    ∧ (∀ part rest, source = String.join (ts.map Token.text) ++ part ++ rest →
      t.text.length < part.length → ∀ t', (ofText part).tokens ≠ [t'])
    ∧ ∀ k literal, k.literal? = some literal → (t.kind = k ↔ t.text = literal)
  := by
  have lexemes : split source.toList
      = ts.map Token.lexeme ++ t.lexeme :: ts'.map Token.lexeme := by
    rw [← lexemes_ofText, divided, List.map_append, List.map_cons]
  have alone : split t.text.toList = [t.lexeme] := by
    have first := split_of_cut lexemes List.nil_prefix
    rwa [List.append_nil, split] at first
  refine ⟨⟨_, tokens_of_single alone, rfl, String.ofList_toList⟩, ?_, ?_⟩
  · intro part rest whole longer t' single
    rw [whole] at lexemes
    rw [String.toList_append, String.toList_append, toList_join_text] at lexemes
    rw [← String.length_toList, ← String.length_toList] at longer
    obtain ⟨l, ls, more⟩ := split_of_longer lexemes longer
    rw [split_of_single single] at more
    cases (List.cons_eq_cons.mp more).2
  · intro k literal written
    constructor
    · rintro rfl
      have member : t ∈ (ofText source).tokens := by simp [divided]
      apply literal_of_mem_ofText member written
    · rintro rfl
      have other := split_literal k t.text written
      rw [alone] at other
      have same := congrArg Lexeme.kind (List.cons_eq_cons.mp other).1
      apply same

/-- A number before a point, a stroke before a blank, and a string that a backslash leaves open. -/
theorem Stream.tokens_maximal_near :
  (ofText "3.x / \"\\\n").tokens.map (fun t => (t.kind, t.text))
      = [(.number, "3"), (.dot, "."), (.identifier, "x"), (.whitespace, " "), (.slash, "/"),
        (.whitespace, " "), (.unknown, "\"\\"), (.newline, "\n")]
    ∧ (∀ t', (ofText "3.").tokens ≠ [t'])
    ∧ (∀ t', (ofText "/ ").tokens ≠ [t'])
    ∧ (∀ t', (ofText "\"\\\n").tokens ≠ [t'])
    ∧ (ofText "\"\\").tokens.map Token.kind = [.unknown]
  := by
  have tokens : (ofText "3.x / \"\\\n").tokens
      = [⟨.number, "3", 0, ⟨1, 0⟩⟩, ⟨.dot, ".", 1, ⟨1, 1⟩⟩, ⟨.identifier, "x", 2, ⟨1, 2⟩⟩,
        ⟨.whitespace, " ", 3, ⟨1, 3⟩⟩, ⟨.slash, "/", 4, ⟨1, 4⟩⟩, ⟨.whitespace, " ", 5, ⟨1, 5⟩⟩,
        ⟨.unknown, "\"\\", 6, ⟨1, 6⟩⟩, ⟨.newline, "\n", 7, ⟨1, 8⟩⟩] := by decide +kernel
  obtain ⟨-, number, -⟩ := @tokens_maximal _ [] _ _ tokens
  obtain ⟨-, stroke, -⟩ := @tokens_maximal _ [_, _, _, _] _ _ tokens
  obtain ⟨⟨t, alone, kind, -⟩, string, -⟩ := @tokens_maximal _ [_, _, _, _, _, _] _ _ tokens
  refine ⟨by rw [tokens]; rfl, ?_, ?_, ?_, ?_⟩
  · apply number _ "x / \"\\\n" (by decide) (by decide)
  · apply stroke _ "\"\\\n" (by decide) (by decide)
  · apply string _ "" (by decide) (by decide)
  · rw [alone, List.map_singleton, kind]

end PlanetServer
