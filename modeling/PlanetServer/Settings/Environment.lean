import PlanetServer.Text.Utf8

/-!
# Environment variables

The variables of the environment have bytes as values, which need not be text. A value that is not
text counts as none where text is asked for.

Each variable is one run of bytes, its name, an equals sign and its value. A variable is found by what
its bytes start with, so that a name with an equals sign in it reaches into a value.

`expand` replaces each variable in dollar sign and braces by its value in one pass from left to right;
a value is not looked into again.
-/

namespace PlanetServer

open Utf8 (Bytes)

/-- The variables that are set, and their values. -/
structure Environment where
  /-- Names and values. -/
  entries : List (String × Bytes)
deriving Repr

namespace Environment

/-- The environment in which no variable is set. -/
def empty : Environment :=
  ⟨[]⟩

/-- The bytes of an equals sign. -/
def equalsSign : Bytes :=
  Utf8.encodeString "="

/-- The bytes after a name and an equals sign in those of one variable, if they start so. -/
def entryValue? (name : String) (entry : String × Bytes) : Option Bytes :=
  let start := Utf8.encodeString name ++ equalsSign
  let whole := Utf8.encodeString entry.1 ++ equalsSign ++ entry.2
  if start.isPrefixOf whole then some (whole.drop start.length) else none

/-- The bytes of a variable. -/
def bytes? (env : Environment) (name : String) : Option Bytes :=
  env.entries.findSome? (entryValue? name)

/-- The text of a variable. -/
def text? (env : Environment) (name : String) : Option String :=
  (env.bytes? name).bind Utf8.decode?

/-- The text that a reference to a variable stands for: nothing, if there is no name or no text. -/
def reference (env : Environment) (name : List Char) : List Char :=
  if name.isEmpty then [] else ((env.text? (String.ofList name)).getD "").toList

/-- The text before the first closing brace and the text after it. -/
def splitBrace? : List Char → Option (List Char × List Char)
  | [] => none
  | c :: cs =>
    if c = '\x7d' then some ([], cs)
    else (splitBrace? cs).map fun (name, rest) => (c :: name, rest)

theorem splitBrace?_length {cs name rest : List Char} (h : splitBrace? cs = some (name, rest)) :
  name.length + rest.length + 1 = cs.length
  := by
  induction cs generalizing name with
  | nil => simp [splitBrace?] at h
  | cons c cs ih =>
    unfold splitBrace? at h
    split at h
    · simp only [Option.some.injEq, Prod.mk.injEq] at h
      obtain ⟨rfl, rfl⟩ := h
      simp
    · obtain ⟨⟨inner, after⟩, found, equal⟩ := Option.map_eq_some_iff.mp h
      simp only [Prod.mk.injEq] at equal
      obtain ⟨rfl, rfl⟩ := equal
      have lengths := ih found
      simp only [List.length_cons]
      omega

/-- The text with each reference to a variable replaced. A reference without its closing brace
stands for itself, and so does all that follows it. -/
def expandChars (env : Environment) (cs : List Char) : List Char :=
  match cs with
  | [] => []
  | '$' :: '\x7b' :: rest =>
    match _h : splitBrace? rest with
    | none => '$' :: '\x7b' :: rest
    | some (name, after) => env.reference name ++ expandChars env after
  | c :: rest => c :: expandChars env rest
termination_by cs.length
decreasing_by
  · have lengths := splitBrace?_length _h
    simp only [List.length_cons]
    omega
  · simp

/-- The text with each reference to a variable replaced. -/
def expand (env : Environment) (s : String) : String :=
  String.ofList (env.expandChars s.toList)

end Environment

end PlanetServer
