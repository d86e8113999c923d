import Mathlib.Data.List.Nodup
import PlanetServer.Proofs.Rule.Parser
import PlanetServer.Proofs.Rule.View
import PlanetServer.Proofs.Rule.Words
import PlanetServer.Proofs.Token.Blanks

/-!
# Hidden tokens

What is read from a stream does not depend on its hidden tokens, apart from the failures of the
unreadable ones among them.

* `Stream.ordinal` is the place of a token among the significant ones, and `Stream.bare` leaves of a
  token its kind, its text and that place.
* `Rule.Built.bare` says that a rule answers the same on bare words, and meets the same failures there
  except those of unreadable tokens.
* `Failure.gist` is what is compared of two failures in different streams.
-/

namespace PlanetServer

open Rule

namespace Stream

variable (s : Stream)

/-- The index of every token is its position in the stream. -/
def IsIndexed : Prop :=
  ∀ (i : Nat) (t : Token), s.tokens[i]? = some t → t.index = i

/-- The number of significant tokens before a significant token. -/
def ordinal (t : Token) : Nat :=
  s.significant.idxOf t

/-- The token with nothing that depends on hidden tokens: the place among the significant tokens is
all that is left of its place. -/
def bare (t : Token) : Token :=
  ⟨t.kind, t.text, s.ordinal t, .start⟩

end Stream

/-- The word without its hidden tokens. -/
def Word.bare (s : Stream) (w : Word) : Word :=
  ⟨s.bare w.token, []⟩

namespace Failure

/-- Whether the failure is not that of an unreadable token. -/
def isReal (f : Failure) : Bool :=
  f.cause ≠ .unreadable

/-- The failure of a bare token. -/
def bare (s : Stream) (f : Failure) : Failure :=
  ⟨f.offending.map s.bare, .start, f.cause, f.depth⟩

/-- A failure apart from its place in the text: its cause with the kinds that were expected, its
message, and which one of the significant tokens is at fault. -/
def gist (s : Stream) (f : Failure) : Cause × String × Option Nat :=
  (f.cause, f.message, f.offending.map s.ordinal)

theorem message_bare (s : Stream) (f : Failure) :
  (f.bare s).message = f.message
  := by
  obtain ⟨_ | t, mark, cause, depth⟩ := f
  · cases cause <;> rfl
  · cases cause <;> rfl

/-- What is compared of a failure can be told from the bare failure. -/
theorem gist_eq_bare (s : Stream) (f : Failure) :
  f.gist s = ((f.bare s).cause, (f.bare s).message, (f.bare s).offending.map Token.index)
  := by
  rw [message_bare, bare, Option.map_map]
  rfl

end Failure

/-- The reply on bare words. -/
def Reply.bare {α : Type} (s : Stream) (reply : Reply α) : Reply α :=
  ⟨reply.value, reply.rest.map (Word.bare s),
    (reply.failures.filter Failure.isReal).map (Failure.bare s)⟩

namespace Rule

variable {α : Type} (s : Stream)

theorem filter_isReal_unreadable (ts : List Token) :
  (unreadable ts).filter Failure.isReal = []
  := by
  apply List.filter_eq_nil_iff.mpr
  intro f member
  simp [Failure.isReal, cause_of_mem_unreadable member]

theorem failureAt_bare {cause : Cause} (real : cause ≠ .unreadable) (site : Site)
    (ahead : List Word) :
  [failureAt cause ⟨.start, site.depth⟩ (ahead.map (Word.bare s))]
    = ([failureAt cause site ahead].filter Failure.isReal).map (Failure.bare s)
  := by
  cases ahead
  · simp [failureAt, Failure.isReal, Failure.bare, real]
  · simp [failureAt, Failure.isReal, Failure.bare, Word.bare, Stream.bare, real]

/-- A document without its hidden tokens, as a view of the document. -/
def bared : View where
  word := Word.bare s
  finish _ := .start
  failures fs := (fs.filter Failure.isReal).map (Failure.bare s)
  kind _ := rfl
  text _ := rfl
  append fs gs := by rw [List.filter_append, List.map_append]
  trail w := by
    rw [filter_isReal_unreadable]
    rfl
  next _ site ahead real := failureAt_bare s real site ahead

/-- A rule answers the same on bare words, and meets the same failures except those of unreadable
tokens. -/
theorem Built.bare {rule : Rule α} (built : Built rule) (site : Site) (ahead : List Word) :
  rule ⟨.start, site.depth⟩ (ahead.map (Word.bare s)) = (rule site ahead).bare s
  := built.view (bared s) site ahead

end Rule

/-! ### Streams with the same significant tokens -/

namespace Stream

/-- The kinds and texts of the significant tokens. -/
def content (s : Stream) : List (Kind × String) :=
  s.significant.map fun t => (t.kind, t.text)

variable {s s' : Stream}

/-- The significant tokens of an indexed stream differ from each other. -/
theorem IsIndexed.nodup (indexed : s.IsIndexed) :
  s.significant.Nodup
  := by
  have indices : s.tokens.map Token.index = List.range s.tokens.length := by
    apply List.ext_getElem (by simp)
    intro i _ _
    simp [indexed i _ (List.getElem?_eq_getElem _)]
  have distinct : (s.tokens.map Token.index).Nodup := by
    rw [indices]
    apply List.nodup_range
  apply (distinct.of_map Token.index).filter

theorem IsIndexed.getElem? (indexed : s.IsIndexed) {t : Token} (member : t ∈ s.tokens) :
  s.tokens[t.index]? = some t
  := by
  obtain ⟨i, found⟩ := List.mem_iff_getElem?.mp member
  rwa [indexed i t found]

/-- What is left of the significant tokens of an indexed stream can be told from their kinds and
texts. -/
theorem IsIndexed.map_bare (indexed : s.IsIndexed) :
  s.significant.map s.bare = s.content.mapIdx fun i (k, text) => ⟨k, text, i, .start⟩
  := by
  apply List.ext_getElem (by simp [content])
  intro i inside _
  rw [List.length_map] at inside
  have place : s.ordinal s.significant[i] = i := indexed.nodup.idxOf_getElem i inside
  simp [content, bare, place]

end Stream

/-- The words of a stream, bare of all that depends on its hidden tokens. -/
theorem Word.map_bare_gather (s : Stream) :
  (gather s.tokens).2.map (Word.bare s) = (s.significant.map s.bare).map fun t => ⟨t, []⟩
  := by
  rw [Stream.significant, ← tokens_gather, Word.tokens, List.map_map, List.map_map]
  rfl

namespace Program

/-- The failures of a program without those of unreadable tokens, as they are compared between
streams. -/
def gists (p : Program) (s : Stream) : List (Cause × String × Option Nat) :=
  (p.failures.filter Failure.isReal).map (Failure.gist s)

/-- What is read from a stream is what is read from its bare words. -/
theorem ofStreamWithin_bare (levels : Nat) (s : Stream) {bare : List Token}
    (known : s.significant.map s.bare = bare) :
  let reply := Parse.program levels ⟨.start, 0⟩ (bare.map fun t => ⟨t, []⟩)
  (ofStreamWithin levels s).statements = reply.value.getD []
    ∧ ((ofStreamWithin levels s).failures.filter Failure.isReal).map (Failure.bare s)
      = reply.failures
  := by
  have same := (Parse.program_built levels).bare s ⟨s.finish, 0⟩ (Word.gather s.tokens).2
  rw [Word.map_bare_gather, known] at same
  rw [same, ofStreamWithin]
  simp [Reply.bare, filter_isReal_unreadable]

/-- What is read from two streams is the same if their significant tokens are. -/
theorem ofStream_eq_of_content {s s' : Stream} (indexed : s.IsIndexed) (indexed' : s'.IsIndexed)
    (same : s.content = s'.content) :
  (ofStream s).statements = (ofStream s').statements
    ∧ (ofStream s).gists s = (ofStream s').gists s'
  := by
  obtain ⟨read, failures⟩ := ofStreamWithin_bare Parse.maxDepth s indexed.map_bare
  obtain ⟨read', failures'⟩ := ofStreamWithin_bare Parse.maxDepth s' indexed'.map_bare
  rw [← same] at read' failures'
  have gists : ∀ (p : Program) (s : Stream), p.gists s
      = ((p.failures.filter Failure.isReal).map (Failure.bare s)).map
        fun f => (f.cause, f.message, f.offending.map Token.index) := by
    intro p s
    rw [gists, List.map_map]
    apply List.map_congr_left
    intro f _
    apply f.gist_eq_bare
  constructor
  · apply read.trans read'.symm
  · rw [gists, gists]
    apply congrArg (List.map _) (failures.trans failures'.symm)

end Program

/-! ### Documents with one more blank -/

namespace Stream

open Lexeme

theorem isIndexed_ofText (source : String) :
  (ofText source).IsIndexed
  := by
  intro i t found
  have apart : Apart [] source.toList := nofun
  obtain ⟨inside, rfl⟩ := List.getElem?_eq_some_iff.mp found
  have divided : (ofText source).tokens = (ofText source).tokens.take i
      ++ (ofText source).tokens[i] :: (ofText source).tokens.drop (i + 1) := by simp
  obtain ⟨index, -⟩ := (place_split 0 apart).1 _ _ _ divided
  rw [index, List.length_take, Nat.min_eq_left (Nat.le_of_lt inside), Nat.zero_add]

theorem content_ofText (source : String) :
  (ofText source).content
    = (Lexeme.significant (split source.toList)).map fun l => (l.kind, String.ofList l.text)
  := by
  rw [← lexemes_ofText, Lexeme.significant, List.filter_map, List.map_map]
  apply List.map_congr_left
  intro t _
  simp [Token.lexeme]

/-- A blank between two tokens of a document, or at either end of it, leaves the significant tokens as
they are. -/
theorem content_insert {source : String} {ts ts' : List Token} {blank : Char}
    (divided : (ofText source).tokens = ts ++ ts') (space : IsSpace blank) :
  (ofText (String.join (ts.map Token.text) ++ String.singleton blank
      ++ String.join (ts'.map Token.text))).content
    = (ofText source).content
  := by
  have texts : ∀ ts : List Token, (String.join (ts.map Token.text)).toList
      = (ts.map Token.lexeme).flatMap text := by
    intro ts
    rw [String.toList_join, List.flatMap_map, List.flatMap_map]
    rfl
  have lexemes : split source.toList = ts.map Token.lexeme ++ ts'.map Token.lexeme := by
    rw [← lexemes_ofText, divided, List.map_append]
  rw [content_ofText, content_ofText, ← significant_insert space lexemes]
  simp [texts]

end Stream

/-- Blanks, comments and unreadable input have no part in what is read. Two streams with the same
significant tokens give the same statements, and the same failures apart from those of unreadable
tokens. So a space or a tab between two tokens of a document, or at either end of it, changes neither
its statements nor these failures. -/
theorem Program.ignores_hidden :
  (∀ s s' : Stream, s.IsIndexed → s'.IsIndexed → s.content = s'.content →
      (ofStream s).statements = (ofStream s').statements
        ∧ (ofStream s).gists s = (ofStream s').gists s')
    ∧ ∀ (source spaced : String) (ts ts' : List Token) (blank : Char),
      (Stream.ofText source).tokens = ts ++ ts' → Lexeme.IsSpace blank →
      spaced = String.join (ts.map Token.text) ++ String.singleton blank
        ++ String.join (ts'.map Token.text) →
      (ofText spaced).statements = (ofText source).statements
        ∧ (ofText spaced).gists (.ofText spaced) = (ofText source).gists (.ofText source)
  := by
  constructor
  · intro s s' indexed indexed' same
    apply ofStream_eq_of_content indexed indexed' same
  · rintro source _ ts ts' blank divided space rfl
    apply ofStream_eq_of_content (Stream.isIndexed_ofText _) (Stream.isIndexed_ofText _)
    apply Stream.content_insert divided space

/-- A closing bracket after unreadable input and the same one after a comment, and a number before a
point with and without a space between them. -/
theorem Program.ignores_hidden_around :
  ((ofText "x $ )").gists (.ofText "x $ )")).length = 1
    ∧ (ofText "x $ )").gists (.ofText "x $ )") = (ofText "x)//").gists (.ofText "x)//")
    ∧ ((ofText "1.x )").gists (.ofText "1.x )")).length = 1
    ∧ (ofText "1 .x )").gists (.ofText "1 .x )") = (ofText "1.x )").gists (.ofText "1.x )")
  := by
  obtain ⟨streams, documents⟩ := ignores_hidden
  have same : (Stream.ofText "x $ )").content = (Stream.ofText "x)//").content := by decide +kernel
  have read := streams _ _ (Stream.isIndexed_ofText _) (Stream.isIndexed_ofText _) same
  have divided := (List.take_append_drop 1 (Stream.ofText "1.x )").tokens).symm
  have spaced := documents "1.x )" "1 .x )" _ _ ' ' divided (.inl rfl) (by decide +kernel)
  refine ⟨by decide +kernel, read.2, by decide +kernel, spaced.2⟩

end PlanetServer
