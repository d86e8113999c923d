import Mathlib.Logic.ExistsUnique
import Mathlib.Tactic.Common
import PlanetServer.Proofs.Text.Utf8
import PlanetServer.Settings.Basic

/-!
# References to variables

A text can be divided in exactly one way into references to variables and what stands around them. The
variables are replaced in one pass over this division, and what they are replaced by is not looked into.

* `Template` is a text with its references told apart, and `Template.text` is the text.
* `splitOpening?` finds the first opening of a reference, and `expandChars_eq` is the loop over these.
* `Template.existsUnique_text` says that a text has one division, and `Template.expandChars_text` that
  it is the one by which variables are replaced.
-/

namespace PlanetServer

namespace Environment

/-! ### Templates -/

/-- What a reference starts with. -/
def opening : List Char :=
  ['$', '\x7b']

/-- What a reference ends with. -/
def closing : Char :=
  '\x7d'

/-- Whether no reference is complete in a text: none is opened, or the first that is opened is never
closed. -/
def Finished (text : List Char) : Prop :=
  ¬ opening <:+: text
    ∨ ∃ before after, text = before ++ opening ++ after ∧ ¬ opening <:+: before ∧ closing ∉ after

/-- A text with its references told apart. -/
inductive Template where
  /-- What follows the last reference. -/
  | last (text : List Char) (finished : Finished text)
  /-- What stands before a reference, the name in the reference, and what follows it. -/
  | refer (before name : List Char) (rest : Template) (plain : ¬ opening <:+: before)
      (named : closing ∉ name)

namespace Template

/-- The text. -/
def text : Template → List Char
  | last text _ => text
  | refer before name rest _ _ => before ++ opening ++ (name ++ closing :: rest.text)

/-- The text with the references replaced. -/
def fill (value : List Char → List Char) : Template → List Char
  | last text _ => text
  | refer before name rest _ _ => before ++ value name ++ rest.fill value

end Template

/-! ### Where references start and end -/

/-- The text before the first opening of a reference and the text after it. -/
def splitOpening? : List Char → Option (List Char × List Char)
  | [] => none
  | '$' :: '\x7b' :: rest => some ([], rest)
  | c :: rest => (splitOpening? rest).map fun (before, after) => (c :: before, after)

/-- Where no reference is opened at the start of a text, all openings are in the rest. -/
theorem opens_cons_iff {c : Char} {rest : List Char}
    (other : ∀ rest', c = '$' → rest = '\x7b' :: rest' → False) :
  opening <:+: c :: rest ↔ opening <:+: rest
  := by
  have later : ¬ opening <+: c :: rest := by
    rintro ⟨rest', same⟩
    obtain ⟨rfl, rfl⟩ := List.cons.inj same
    apply other rest' rfl rfl
  rw [List.infix_cons_iff, or_iff_right later]

/-- A text has no opening exactly if none is found. -/
theorem splitOpening?_eq_none_iff {text : List Char} :
  splitOpening? text = none ↔ ¬ opening <:+: text
  := by
  fun_induction splitOpening? text with
  | case1 => simp [opening]
  | case2 rest =>
    have starts : opening <+: '$' :: '\x7b' :: rest := ⟨rest, rfl⟩
    simp [starts.isInfix]
  | case3 c rest other ih =>
    rw [Option.map_eq_none_iff, ih, opens_cons_iff other]

/-- The opening that is found is the first one. -/
theorem splitOpening?_eq_some_iff {text before after : List Char} :
  splitOpening? text = some (before, after)
    ↔ text = before ++ opening ++ after ∧ ¬ opening <:+: before
  := by
  fun_induction splitOpening? text generalizing before with
  | case1 => simp [opening]
  | case2 rest =>
    constructor
    · intro found
      obtain ⟨rfl, rfl⟩ := Prod.mk.inj (Option.some.inj found)
      exact ⟨rfl, by simp [opening]⟩
    · rintro ⟨same, plain⟩
      rcases before with _ | ⟨c, _ | ⟨d, before⟩⟩
      · obtain ⟨-, rfl⟩ := List.cons.inj (List.cons.inj same).2
        rfl
      · simp [opening] at same
      · obtain ⟨rfl, same'⟩ := List.cons.inj same
        obtain ⟨rfl, -⟩ := List.cons.inj same'
        have starts : opening <+: '$' :: '\x7b' :: before := ⟨before, rfl⟩
        apply absurd starts.isInfix plain
  | case3 c rest other ih =>
    rw [Option.map_eq_some_iff]
    constructor
    · rintro ⟨⟨inner, behind⟩, found, same⟩
      obtain ⟨rfl, rfl⟩ := Prod.mk.inj same
      obtain ⟨rfl, plain⟩ := ih.mp found
      refine ⟨rfl, ?_⟩
      rw [opens_cons_iff]
      · apply plain
      · rintro rest' rfl rfl
        apply other _ rfl rfl
    · rintro ⟨same, plain⟩
      cases before with
      | nil =>
        obtain ⟨rfl, rfl⟩ := List.cons.inj same
        cases other _ rfl rfl
      | cons d before =>
        obtain ⟨rfl, rfl⟩ := List.cons.inj same
        exact ⟨(before, after), ih.mpr ⟨rfl, fun inside => plain (List.infix_cons inside)⟩, rfl⟩

theorem splitBrace?_eq_none_iff {text : List Char} :
  splitBrace? text = none ↔ closing ∉ text
  := by
  fun_induction splitBrace? text with
  | case1 => simp
  | case2 => simp [closing]
  | case3 c rest other ih => simp [ih, closing, Ne.symm other]

/-- A name ends at the first closing. -/
theorem splitBrace?_eq_some_iff {text name after : List Char} :
  splitBrace? text = some (name, after) ↔ text = name ++ closing :: after ∧ closing ∉ name
  := by
  fun_induction splitBrace? text generalizing name with
  | case1 => simp
  | case2 rest =>
    constructor
    · intro found
      obtain ⟨rfl, rfl⟩ := Prod.mk.inj (Option.some.inj found)
      exact ⟨rfl, List.not_mem_nil⟩
    · rintro ⟨same, named⟩
      cases name with
      | nil =>
        obtain ⟨-, rfl⟩ := List.cons.inj same
        rfl
      | cons c name =>
        obtain ⟨rfl, -⟩ := List.cons.inj same
        apply absurd List.mem_cons_self named
  | case3 c rest other ih =>
    rw [Option.map_eq_some_iff]
    constructor
    · rintro ⟨⟨inner, behind⟩, found, same⟩
      obtain ⟨rfl, rfl⟩ := Prod.mk.inj same
      obtain ⟨rfl, named⟩ := ih.mp found
      have apart : closing ≠ c := Ne.symm other
      exact ⟨rfl, by simp [named, apart]⟩
    · rintro ⟨same, named⟩
      cases name with
      | nil => cases other (List.cons.inj same).1
      | cons d name =>
        obtain ⟨rfl, rfl⟩ := List.cons.inj same
        exact ⟨(name, after), ih.mpr ⟨rfl, fun inside => named (List.mem_cons_of_mem _ inside)⟩, rfl⟩

/-- One round of the replacement: the first reference is replaced, if it is complete, and then what
follows it. -/
theorem expandChars_eq (env : Environment) (text : List Char) :
  env.expandChars text
    = match splitOpening? text with
      | none => text
      | some (before, after) =>
        match splitBrace? after with
        | none => text
        | some (name, rest) => before ++ env.reference name ++ env.expandChars rest
  := by
  fun_induction splitOpening? text with
  | case1 => rw [expandChars]
  | case2 rest =>
    rw [expandChars]
    split
    · rename_i unclosed
      simp [unclosed]
    · rename_i name after closes
      simp [closes]
  | case3 c rest other ih =>
    have goes_on : env.expandChars (c :: rest) = c :: env.expandChars rest := by
      rw [expandChars]
      apply other
    rw [goes_on, ih]
    cases splitOpening? rest with
    | none => rfl
    | some parts =>
      obtain ⟨before, after⟩ := parts
      cases found : splitBrace? after with
      | none => simp [found]
      | some parts => simp [found]

/-! ### Templates and their texts -/

namespace Template

variable {before name text : List Char} {rest : Template} {t t' : Template}

theorem splitOpening?_text (plain : ¬ opening <:+: before) (named : closing ∉ name) :
  splitOpening? (refer before name rest plain named).text = some (before, name ++ closing :: rest.text)
  := splitOpening?_eq_some_iff.mpr ⟨rfl, plain⟩

/-- No reference is found in a text in which none is complete. -/
theorem splitBrace?_of_finished (finished : Finished text) {after : List Char}
    (found : splitOpening? text = some (before, after)) :
  splitBrace? after = none
  := by
  rcases finished with unopened | ⟨before', after', same, plain, unclosed⟩
  · rw [splitOpening?_eq_none_iff.mpr unopened] at found
    cases found
  · rw [splitOpening?_eq_some_iff.mpr ⟨same, plain⟩] at found
    obtain ⟨-, rfl⟩ := Prod.mk.inj (Option.some.inj found)
    apply splitBrace?_eq_none_iff.mpr unclosed

theorem last_ne_refer (finished : Finished text) (plain : ¬ opening <:+: before)
    (named : closing ∉ name) :
  text ≠ (refer before name rest plain named).text
  := by
  rintro rfl
  have unclosed := splitBrace?_of_finished finished (splitOpening?_text plain named)
  apply splitBrace?_eq_none_iff.mp unclosed
  simp

/-- A template is told by its text. -/
theorem text_injective (same : t.text = t'.text) :
  t = t'
  := by
  induction t generalizing t' with
  | last text finished =>
    cases t' with
    | last text' finished' =>
      obtain rfl : text = text' := same
      rfl
    | refer before name rest plain named => cases last_ne_refer finished plain named same
  | refer before name rest plain named ih =>
    cases t' with
    | last text finished => cases last_ne_refer finished plain named same.symm
    | refer before' name' rest' plain' named' =>
      have opens : splitOpening? (refer before name rest plain named).text
          = some (before, name ++ closing :: rest.text) := splitOpening?_text plain named
      rw [same, splitOpening?_text plain' named'] at opens
      obtain ⟨rfl, behind⟩ := Prod.mk.inj (Option.some.inj opens)
      have closes : splitBrace? (name ++ closing :: rest.text) = some (name, rest.text) :=
        splitBrace?_eq_some_iff.mpr ⟨rfl, named⟩
      rw [← behind, splitBrace?_eq_some_iff.mpr ⟨rfl, named'⟩] at closes
      obtain ⟨rfl, follows⟩ := Prod.mk.inj (Option.some.inj closes)
      obtain rfl := ih follows.symm
      rfl

theorem exists_text (text : List Char) :
  ∃ t : Template, t.text = text
  := by
  cases opens : splitOpening? text with
  | none => exact ⟨last text (.inl (splitOpening?_eq_none_iff.mp opens)), rfl⟩
  | some parts =>
    obtain ⟨before, after⟩ := parts
    obtain ⟨rfl, plain⟩ := splitOpening?_eq_some_iff.mp opens
    cases closes : splitBrace? after with
    | none =>
      exact ⟨last _ (.inr ⟨before, after, rfl, plain, splitBrace?_eq_none_iff.mp closes⟩), rfl⟩
    | some parts =>
      obtain ⟨name, behind⟩ := parts
      obtain ⟨rfl, named⟩ := splitBrace?_eq_some_iff.mp closes
      obtain ⟨rest, rfl⟩ := exists_text behind
      exact ⟨refer before name rest plain named, rfl⟩
termination_by text.length
decreasing_by
  subst_vars
  simp only [List.length_append, List.length_cons]
  omega

/-- Every text can be divided into references and what stands around them in exactly one way. -/
theorem existsUnique_text (text : List Char) :
  ∃! t : Template, t.text = text
  := by
  obtain ⟨t, rfl⟩ := exists_text text
  exact ⟨t, rfl, fun _ same => text_injective same⟩

/-- The references are replaced one after the other. -/
theorem expandChars_text (env : Environment) (t : Template) :
  env.expandChars t.text = t.fill env.reference
  := by
  induction t with
  | last text finished =>
    rw [expandChars_eq]
    cases opens : splitOpening? text with
    | none => simp [Template.text, fill, opens]
    | some parts => simp [Template.text, fill, opens, splitBrace?_of_finished finished opens]
  | refer before name rest plain named ih =>
    rw [expandChars_eq, splitOpening?_text, fill, ← ih]
    simp only [splitBrace?_eq_some_iff.mpr ⟨rfl, named⟩]

end Template

/-! ### Values of variables -/

variable {env : Environment} {name text : List Char}

/-- A variable stands for its value, if that is text. -/
theorem reference_of_text (named : name ≠ [])
    (value : env.bytes? (String.ofList name) = some (Utf8.encode text)) :
  env.reference name = text
  := by
  have read : env.text? (String.ofList name) = some (String.ofList text) := by
    rw [text?, value, Option.bind_some, Utf8.decode?, Utf8.decode_encode]
  simp [reference, named, read]

/-- A variable that is not set, or whose value is not text, stands for nothing. -/
theorem reference_of_no_text
    (none : ∀ text, env.bytes? (String.ofList name) ≠ some (Utf8.encode text)) :
  env.reference name = []
  := by
  have unread : env.text? (String.ofList name) = .none := by
    cases value : env.bytes? (String.ofList name) with
    | none => rw [text?, value, Option.bind_none]
    | some bytes =>
      rw [text?, value, Option.bind_some, Utf8.decode?]
      cases decoded : Utf8.decode bytes with
      | error => rfl
      | ok text =>
        rw [Utf8.decode_eq_ok_iff.mp decoded] at value
        cases none text value
  simp [reference, unread]

end Environment

/-! ### Settings -/

/-- The environment has an effect on the command only, after all settings are read. -/
theorem Settings.parse?_eq (env : Environment) (text : List Char) :
  parse? env text = ((Toml.read? text).bind ofEntries?).map (expandCommand env)
  := by
  rw [parse?]
  cases Toml.read? text with
  | none => rfl
  | some entries => cases found : ofEntries? entries <;> simp [found]

namespace Environment

/-! ### The whole replacement -/

/-- Variables are replaced in one pass. Every text has exactly one division into references and what
stands around them, and in the order of this division every reference is replaced by the value of its
variable, which is not looked into; the value is empty if there is no name, or the variable is not set,
or what it is set to is not text. Of the settings, only the command depends on the environment: whether
they can be read, the arguments, the time limit and the language are the same in all environments. -/
theorem expand_in_one_pass :
  (∀ s : String, (∃! t : Template, t.text = s.toList)
      ∧ ∀ t : Template, t.text = s.toList → ∀ env : Environment,
        (env.expand s).toList = t.fill env.reference)
    ∧ (∀ env : Environment, env.reference [] = []
      ∧ ∀ name ≠ [],
        (∀ text, env.bytes? (String.ofList name) = some (Utf8.encode text) → env.reference name = text)
          ∧ ((∀ text, env.bytes? (String.ofList name) ≠ some (Utf8.encode text)) →
            env.reference name = []))
    ∧ (∀ text, ∃ read : Option Settings, ∀ env, Settings.parse? env text = read.map fun s =>
        ⟨⟨env.expand s.build.command, s.build.args, s.build.timeout⟩, s.locale⟩)
    ∧ ∀ text env env', (Settings.parse? env text).isSome = (Settings.parse? env' text).isSome
      ∧ ∀ s ∈ Settings.parse? env text, ∀ s' ∈ Settings.parse? env' text,
        s.build.args = s'.build.args ∧ s.build.timeout = s'.build.timeout ∧ s.locale = s'.locale
  := by
  refine ⟨fun s => ⟨Template.existsUnique_text s.toList, fun t same env => ?_⟩, fun env => ?_,
    fun text => ?_, fun text env env' => ?_⟩
  · rw [expand, ← same, Template.expandChars_text, String.toList_ofList]
  · exact ⟨rfl, fun name named => ⟨fun text => reference_of_text named, reference_of_no_text⟩⟩
  · exact ⟨_, fun env => Settings.parse?_eq env text⟩
  · rw [Settings.parse?_eq, Settings.parse?_eq]
    cases (Toml.read? text).bind Settings.ofEntries? with
    | none => simp
    | some s => simp [Settings.expandCommand]

/-- A dollar sign before a reference, a value that looks like a reference, and a reference that is not
closed. -/
theorem expand_in_one_pass_unclosed :
  (Environment.mk [("a", Utf8.encodeString "$\x7bb\x7d")]).expand "$$\x7ba\x7d-$\x7bb"
    = "$$\x7bb\x7d-$\x7bb"
  := by
  let env : Environment := ⟨[("a", Utf8.encodeString "$\x7bb\x7d")]⟩
  let rest : Template :=
    .last ['-', '$', '\x7b', 'b'] (.inr ⟨['-'], ['b'], rfl, by decide, by decide⟩)
  let t : Template := .refer ['$'] ['a'] rest (by decide) (by decide)
  obtain ⟨expansion, values, -, -⟩ := expand_in_one_pass
  have value : env.reference ['a'] = ['$', '\x7b', 'b', '\x7d'] :=
    ((values env).2 ['a'] (by decide)).1 _ (by decide +kernel)
  have expanded := (expansion "$$\x7ba\x7d-$\x7bb").2 t (by decide +kernel) env
  apply String.toList_injective
  rw [expanded]
  simp only [t, rest, Template.fill, value]
  decide +kernel

end Environment

end PlanetServer
