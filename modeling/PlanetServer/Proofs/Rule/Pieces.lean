import PlanetServer.Proofs.Rule.Continuation
import PlanetServer.Proofs.Rule.Shift

/-!
# Documents of two pieces

A document whose first piece ends with a line feed is read piece by piece, unless the first piece ends
inside a statement or block. So the failures of one piece do not hide, add or move failures in the
other one.
-/

namespace PlanetServer

open Rule Word

/-! ### Words of two pieces -/

/-- The hidden tokens at the start of the second piece come to stand behind the last word of the
first one. -/
theorem Word.gather_append {t : Token} (h : t.isHidden = false) (ts : List Token) :
  ∃ lead ws, ∀ us, gather (ts ++ t :: us) = (lead, ws ++ ⟨t, (gather us).1⟩ :: (gather us).2)
  := by
  induction ts with
  | nil => exact ⟨[], [], fun us => gather_of_significant h us⟩
  | cons t' ts ih =>
    obtain ⟨lead, ws, split⟩ := ih
    cases h' : t'.isHidden with
    | true =>
      refine ⟨t' :: lead, ws, fun us => ?_⟩
      rw [List.cons_append, gather_of_hidden h', split]
    | false =>
      refine ⟨[], ⟨t', lead⟩ :: ws, fun us => ?_⟩
      rw [List.cons_append, gather_of_significant h', split]
      rfl

theorem Lexeme.place_kinds (index : Nat) (start : Mark) (ls : List Lexeme) :
  (place index start ls).tokens.map Token.kind = ls.map Lexeme.kind
  := by
  induction ls generalizing index start with
  | nil => rfl
  | cons l ls ih => simp [place, ih]

/-- The last token of a document that ends with a line feed is the end of a line. -/
theorem Stream.ofText_ends {a : String} (h : a.toList.getLast? = some '\n') :
  ∃ ts t, (ofText a).tokens = ts ++ [t] ∧ t.kind = .newline
  := by
  obtain ⟨l, last, found⟩ := Lexeme.split_ends h
  have kinds := Lexeme.place_kinds 0 .start (Lexeme.split a.toList)
  have last' : ((ofText a).tokens.map Token.kind).getLast? = some .newline := by
    rw [ofText, kinds, List.getLast?_map, last, ← found]
    rfl
  rw [List.getLast?_map] at last'
  obtain ⟨t, last', found'⟩ := Option.map_eq_some_iff.mp last'
  obtain ⟨ts, split⟩ := List.getLast?_eq_some_iff.mp last'
  exact ⟨ts, t, split, found'⟩

/-- The words ahead go on with an `else` only if the first token that does not end a line is one. -/
theorem Rule.hasElse_eq_false {ws : List Word}
    (h : ∀ t, (tokens ws).find? (fun t => t.kind ≠ .newline) = some t → t.kind ≠ .kwElse) :
  hasElse ws = false
  := by
  apply Bool.eq_false_iff.mpr
  intro found
  obtain ⟨lines, e, rest, rfl, blank, else'⟩ := (hasElse_iff ws).mp found
  have first : (tokens (lines ++ e :: rest)).find? (fun t => t.kind ≠ .newline) = some e.token := by
    have none : (tokens lines).find? (fun t => t.kind ≠ .newline) = none := by
      simpa [tokens] using blank
    rw [tokens_append, List.find?_append, none, Option.none_or, tokens_cons,
      List.find?_cons_of_pos (by simp [else'])]
  apply h e.token first else'

theorem Rule.hasElse_shift (count lines : Nat) (ws : List Word) :
  hasElse (ws.map (Word.shift count lines)) = hasElse ws
  := by
  have run := Built.elseAhead.shift count lines ⟨.start, 0⟩ ws
  apply Option.some.inj (congrArg Reply.value run)

/-- A stream that consists of a stream with a line end at its end and of a shifted stream. -/
theorem Program.ofStreamWithin_append (levels count lines : Nat) {ts : List Token} {t : Token}
    (line : t.kind = .newline) (finish : Mark) (stream : Stream)
    (complete : ∀ f ∈ (ofStreamWithin levels ⟨ts ++ [t], finish⟩).failures, f.offending ≠ none)
    (noElse : hasElse (gather stream.tokens).2 = false) :
  ofStreamWithin levels
      ⟨ts ++ t :: stream.tokens.map (Token.shift count lines), stream.finish.down lines⟩
    = ⟨(ofStreamWithin levels ⟨ts ++ [t], finish⟩).statements
        ++ (ofStreamWithin levels stream).statements,
      (ofStreamWithin levels ⟨ts ++ [t], finish⟩).failures
        ++ (ofStreamWithin levels stream).failures.map (Failure.shift count lines)⟩
  := by
  have shown : t.isHidden = false := by
    rw [Token.isHidden, line]
    rfl
  obtain ⟨lead, ws, gathered⟩ := gather_append shown ts
  have seam : Seam ⟨t, []⟩ ⟨t, (gather stream.tokens).1.map (Token.shift count lines)⟩
      ((gather stream.tokens).2.map (Word.shift count lines)) :=
    ⟨line, rfl, rfl, by rw [hasElse_shift, noElse]⟩
  have shifted := (Parse.program_built levels).shift count lines ⟨stream.finish, 0⟩
    (gather stream.tokens).2
  obtain ⟨ss', answer, -⟩ := Parse.program_answers levels ⟨stream.finish, 0⟩ (gather stream.tokens).2
  rcases Parse.program_continues seam levels ws finish (stream.finish.down lines) 0 with
    ⟨f, member, missing⟩ | ⟨ss, failures, run, run'⟩
  · refine absurd missing (complete f ?_)
    simp only [ofStreamWithin, gathered]
    apply List.mem_append_right _ member
  · have first : ofStreamWithin levels ⟨ts ++ [t], finish⟩ = ⟨ss, unreadable lead ++ failures⟩ := by
      simp only [ofStreamWithin, gathered, gather, run, Option.getD_some]
    rw [Site.down] at shifted
    rw [first, ofStreamWithin, ofStreamWithin]
    simp [gathered, gather_shift, run', shifted, Reply.shift, answer, unreadable_shift]

/-- A document is read piece by piece. If its first piece ends with a line feed and is not cut off
inside a statement or block, and the second one does not go on with an `else`, then the statements of
the document are those of the pieces, and so are its failures, with those of the second piece moved
down and their messages as they were. -/
theorem Program.ofText_piecewise (a b : String) (ends : a.toList.getLast? = some '\n')
    (complete : ∀ f ∈ (ofText a).failures, f.offending ≠ none)
    (noElse : ∀ t, (Stream.ofText b).significant.find? (fun t => t.kind ≠ .newline) = some t →
      t.kind ≠ .kwElse) :
  (ofText (a ++ b)).statements = (ofText a).statements ++ (ofText b).statements
    ∧ (ofText (a ++ b)).failures = (ofText a).failures ++ (ofText b).failures.map
      (Failure.shift (Stream.ofText a).tokens.length (Lexeme.lineEnds a.toList))
    ∧ (ofText (a ++ b)).failures.map Failure.message
      = (ofText a).failures.map Failure.message ++ (ofText b).failures.map Failure.message
  := by
  obtain ⟨ts, t, split, line⟩ := Stream.ofText_ends ends
  have first : Stream.ofText a = ⟨ts ++ [t], (Stream.ofText a).finish⟩ := by rw [← split]
  have read : ofText a = ofStreamWithin 256 ⟨ts ++ [t], (Stream.ofText a).finish⟩ := by
    rw [← first]
    rfl
  have noElse' : hasElse (gather (Stream.ofText b).tokens).2 = false := by
    apply hasElse_eq_false
    rw [tokens_gather]
    apply noElse
  rw [read] at complete
  have pieces := ofStreamWithin_append 256 (Stream.ofText a).tokens.length
    (Lexeme.lineEnds a.toList) line _ (Stream.ofText b) complete noElse'
  have joined : Stream.ofText (a ++ b)
      = ⟨ts ++ t :: (Stream.ofText b).tokens.map
          (Token.shift (Stream.ofText a).tokens.length (Lexeme.lineEnds a.toList)),
        (Stream.ofText b).finish.down (Lexeme.lineEnds a.toList)⟩ := by
    rw [Stream.ofText_append ends]
    nth_rewrite 1 [split]
    rw [List.append_assoc]
    rfl
  have read' : ofText (a ++ b) = ofStreamWithin 256 (Stream.ofText (a ++ b)) := rfl
  rw [read', joined, pieces, read]
  refine ⟨rfl, rfl, ?_⟩
  rw [List.map_append, List.map_map]
  congr 2
  apply funext (Failure.message_shift _ _)

/-- The failures of a broken line and of a broken line after it. -/
theorem Program.ofText_piecewise_broken :
  "var\n".toList.getLast? = some '\n' ∧ (ofText "var\n").failures.length = 1
    ∧ (ofText ("var\n" ++ "$ )")).failures
      = (ofText "var\n").failures ++ (ofText "$ )").failures.map (Failure.shift 2 1)
  := by
  have complete : ∀ f ∈ (ofText "var\n").failures, f.offending ≠ none := by decide +kernel
  have noElse : ∀ t ∈ (Stream.ofText "$ )").significant.find? (fun t => t.kind ≠ .newline),
      t.kind ≠ .kwElse := by decide +kernel
  have size : (Stream.ofText "var\n").tokens.length = 2 := by decide +kernel
  have lines : Lexeme.lineEnds "var\n".toList = 1 := by decide +kernel
  have pieces := ofText_piecewise "var\n" "$ )" (by decide +kernel) complete noElse
  rw [size, lines] at pieces
  exact ⟨by decide +kernel, by decide +kernel, pieces.2.1⟩

end PlanetServer
