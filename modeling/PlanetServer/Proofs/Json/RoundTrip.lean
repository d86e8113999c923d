import PlanetServer.Json.Writer
import PlanetServer.Proofs.Json.Numbers
import PlanetServer.Proofs.Text.Utf8

/-!
# Values read back

A value is read back from its compact text.

* `Json.Held` says which values there are: the names of the members of an object are in order, an
  integer lies within the bounds of those that are kept, and a decimal is read back from its text.
* `Json.depth` is the number of levels of lists and objects.
* `Json.value?_compact` reads a value back, whatever closes it. `Json.items?_compact` and
  `Json.members?_compact` are the steps for lists and objects.
-/

namespace PlanetServer.Json

/-- The values that messages consist of. Of a decimal it is assumed that it is read back from its
text. -/
inductive Held : Json → Prop where
  | null : Held .null
  | bool (value : Bool) : Held (.bool value)
  | int {value : Int} (fits : Number.fitsInteger value = true) : Held (.int value)
  | real {negative : Bool} {digits : Nat} {place : Int}
      (reads : Number.ReadsBack (.real negative digits place)) :
      Held (.number (.real negative digits place))
  | string (value : String) : Held (.string value)
  | array {items : List Json} (held : ∀ item ∈ items, Held item) : Held (.array items)
  | object {members : List (String × Json)} (sorted : members.Pairwise fun a b => a.1 < b.1)
      (held : ∀ member ∈ members, Held member.2) : Held (.object members)

mutual

/-- The number of levels of lists and objects in a value. -/
def depth : Json → Nat
  | .array items => depthItems items + 1
  | .object members => depthMembers members + 1
  | _ => 0

/-- The greatest number of levels in a list of values. -/
def depthItems : List Json → Nat
  | [] => 0
  | item :: items => max (depth item) (depthItems items)

/-- The greatest number of levels in the values of members. -/
def depthMembers : List (String × Json) → Nat
  | [] => 0
  | (_, value) :: members => max (depth value) (depthMembers members)

end

theorem depth_le_of_mem {item : Json} {items : List Json} (member : item ∈ items) :
  depth item ≤ depthItems items
  := by
  induction items with
  | nil => cases member
  | cons first items ih =>
    rw [depthItems]
    rcases List.mem_cons.mp member with rfl | later
    · apply Nat.le_max_left
    · apply Nat.le_trans (ih later) (Nat.le_max_right _ _)

theorem depth_le_of_mem_members {member : String × Json} {members : List (String × Json)}
    (known : member ∈ members) :
  depth member.2 ≤ depthMembers members
  := by
  induction members with
  | nil => cases known
  | cons first members ih =>
    rw [depthMembers]
    rcases List.mem_cons.mp known with rfl | later
    · apply Nat.le_max_left
    · apply Nat.le_trans (ih later) (Nat.le_max_right _ _)

/-! ### Texts -/

theorem hexValue?_hexDigit {n : Nat} (small : n < 16) :
  hexValue? (Text.hexDigit n) = some n
  := by
  revert n
  decide

theorem unicodeEscape?_control {n : Nat} (small : n < 0x20) (rest : List Char) :
  unicodeEscape? ('0' :: '0' :: Text.hexDigit (n / 16) :: Text.hexDigit (n % 16) :: rest)
    = some (Char.ofNat n, rest)
  := by
  have zero : hexValue? '0' = some 0 := by decide
  have value : n / 16 * 16 + n % 16 = n := by omega
  have plain : n < 0xD800 := by omega
  simp [unicodeEscape?, hexUnit?, zero, hexValue?_hexDigit (n := n / 16) (by omega),
    hexValue?_hexDigit (n := n % 16) (by omega), value, plain]

theorem stringBody?_plain {c : Char} (notQuote : c ≠ '"') (notBackslash : c ≠ '\\')
    (plain : ¬ c.toNat < 0x20) (fuel : Nat) (rest : List Char) :
  stringBody? (fuel + 1) (c :: rest)
    = (stringBody? fuel rest).map fun (text, rest) => (c :: text, rest)
  := by
  have stands : (c == '\\' || decide (c.toNat < 0x20)) = false := by simp [notBackslash, plain]
  rw [stringBody?, stands, Option.map_eq_bind]
  · rfl
  · apply notQuote
  · intro _ backslash
    apply absurd backslash notBackslash
  · intro _ _ backslash
    apply absurd backslash notBackslash

/-- The written form of a character is read as the character. -/
theorem stringBody?_quotedChar (fuel : Nat) (c : Char) (rest : List Char) :
  stringBody? (fuel + 1) (Text.quotedChar c ++ rest)
    = (stringBody? fuel rest).map fun (text, rest) => (c :: text, rest)
  := by
  unfold Text.quotedChar
  split
  iterate 7 · rw [Option.map_eq_bind]; rfl
  split
  · rename_i control
    simp only [List.cons_append, List.nil_append, stringBody?, unicodeEscape?_control control]
    rw [Char.ofNat_toNat, Option.map_eq_bind]
    rfl
  · apply stringBody?_plain <;> assumption

theorem stringBody?_quoted {fuel : Nat} {cs : List Char} (enough : cs.length < fuel)
    (rest : List Char) :
  stringBody? fuel (cs.flatMap Text.quotedChar ++ '"' :: rest) = some (cs, rest)
  := by
  induction cs generalizing fuel with
  | nil =>
    obtain ⟨fuel, rfl⟩ := Nat.exists_eq_add_one_of_ne_zero (Nat.ne_of_gt enough)
    rfl
  | cons c cs ih =>
    obtain ⟨fuel, rfl⟩ := Nat.exists_eq_add_one_of_ne_zero (Nat.ne_zero_of_lt enough)
    rw [List.flatMap_cons, List.append_assoc, stringBody?_quotedChar, ih (Nat.lt_of_succ_lt_succ enough)]
    rfl

/-- A text between quotes is read as the text. -/
theorem stringBody?_toList (s : String) (rest : List Char) :
  stringBody? ((s.toList.flatMap Text.quotedChar ++ '"' :: rest).length + 1)
      (s.toList.flatMap Text.quotedChar ++ '"' :: rest)
    = some (s.toList, rest)
  := by
  apply stringBody?_quoted
  have each (c : Char) : 1 ≤ (Text.quotedChar c).length := by
    unfold Text.quotedChar
    split
    iterate 7 · decide
    split <;> simp
  have longer (cs : List Char) : cs.length ≤ (cs.flatMap Text.quotedChar).length := by
    induction cs with
    | nil => apply Nat.le_refl
    | cons c cs ih =>
      rw [List.flatMap_cons, List.length_append, List.length_cons]
      have := each c
      omega
  have := longer s.toList
  rw [List.length_append]
  omega

/-! ### Members -/

/-- A member with a name after all others goes to the end. -/
theorem insertMember_of_lt {name : String} {value : Json} {members : List (String × Json)}
    (later : ∀ member ∈ members, member.1 < name) :
  insertMember name value members = members ++ [(name, value)]
  := by
  induction members with
  | nil => rfl
  | cons member members ih =>
    obtain ⟨first, others⟩ := List.forall_mem_cons.mp later
    have differs : name ≠ member.1 := by
      rintro rfl
      apply String.lt_irrefl _ first
    rw [insertMember, if_neg (String.lt_asymm first), if_neg differs, ih others]
    rfl

/-- Members in the order of their names stay as they are. -/
theorem foldl_insertMember (held members : List (String × Json))
    (sorted : (held ++ members).Pairwise fun a b => a.1 < b.1) :
  members.foldl (fun held member => insertMember member.1 member.2 held) held = held ++ members
  := by
  induction members generalizing held with
  | nil => rw [List.foldl_nil, List.append_nil]
  | cons member members ih =>
    have later : ∀ other ∈ held, other.1 < member.1 := by
      intro other known
      apply (List.pairwise_append.mp sorted).2.2 other known _ List.mem_cons_self
    rw [List.foldl_cons, insertMember_of_lt later, ih]
    · rw [List.append_assoc, List.singleton_append]
    · rwa [List.append_assoc, List.singleton_append]

theorem ofMembers_of_sorted {members : List (String × Json)}
    (sorted : members.Pairwise fun a b => a.1 < b.1) :
  ofMembers members = .object members
  := congrArg object (foldl_insertMember [] members sorted)

/-! ### Values -/

theorem skipSpace_cons {c : Char} (other : isSpace c = false) (rest : List Char) :
  skipSpace (c :: rest) = c :: rest
  := by
  rw [skipSpace, List.dropWhile_cons_of_neg]
  rw [other]
  decide

/-- What a reader of one value has to do: read it back in front of anything that closes it, with
enough fuel and levels. -/
def ReadsCompact (value : Json) : Prop :=
  ∀ fuel levels rest, 2 * value.compact.length ≤ fuel → value.depth ≤ levels → Closes rest →
    value? (fuel + 1) levels (value.compact ++ rest) = some (value, rest)

theorem closes_compactItems (items : List Json) (rest : List Char) :
  Closes (compactItems items ++ rest)
  := by
  cases items with
  | nil => simp [Closes, compactItems]
  | cons item items => simp [Closes, compactItems]

theorem closes_compactMembers (members : List (String × Json)) (rest : List Char) :
  Closes (compactMembers members ++ rest)
  := by
  rcases members with _ | ⟨⟨name, value⟩, members⟩
  · simp [Closes, compactMembers]
  · simp [Closes, compactMembers]

/-- The items of a list are read back. -/
theorem items?_compact {item : Json} {items : List Json}
    (reads : ∀ value ∈ item :: items, ReadsCompact value) {fuel levels : Nat}
    (enough : 2 * (item.compact ++ compactItems items).length ≤ fuel)
    (within : depthItems (item :: items) ≤ levels) (rest : List Char) :
  items? fuel levels (item.compact ++ (compactItems items ++ rest)) = some (item :: items, rest)
  := by
  induction items generalizing item fuel with
  | nil =>
    rw [List.length_append, compactItems, List.length_singleton] at enough
    obtain ⟨fuel, rfl⟩ : ∃ n, fuel = n + 2 := Nat.exists_eq_add_of_le' (by omega)
    rw [items?, reads item List.mem_cons_self fuel levels _ (by omega)
      (Nat.le_trans (depth_le_of_mem List.mem_cons_self) within) (closes_compactItems [] rest)]
    rfl
  | cons next items ih =>
    simp only [List.length_append, compactItems, List.length_cons] at enough
    obtain ⟨fuel, rfl⟩ : ∃ n, fuel = n + 2 := Nat.exists_eq_add_of_le' (by omega)
    rw [items?, reads item List.mem_cons_self fuel levels _ (by omega)
      (Nat.le_trans (depth_le_of_mem List.mem_cons_self) within) (closes_compactItems _ rest)]
    have later : items? (fuel + 1) levels (next.compact ++ (compactItems items ++ rest))
        = some (next :: items, rest) := by
      apply ih (List.forall_mem_cons.mp reads).2 _ (Nat.le_trans (Nat.le_max_right _ _) within)
      rw [List.length_append]
      omega
    simp only [compactItems, List.cons_append, List.append_assoc]
    rw [skipSpace_cons (by decide)]
    simp only [later]
    rfl

/-- One member is read, and then what follows it. -/
theorem members?_first {name : String} {value : Json} {fuel levels : Nat} {after : List Char}
    (read : value? fuel levels (value.compact ++ after) = some (value, after)) :
  members? (fuel + 1) levels (Text.quoted name.toList ++ ':' :: (value.compact ++ after))
    = match skipSpace after with
      | '\x7d' :: rest => some ([(name, value)], rest)
      | ',' :: rest =>
        (members? fuel levels rest).map fun (found, rest) => ((name, value) :: found, rest)
      | _ => none
  := by
  generalize answer : members? _ _ _ = result
  simp only [members?, Text.quoted, List.cons_append, List.append_assoc, List.nil_append] at answer
  rw [skipSpace_cons (by decide)] at answer
  simp only [stringBody?_toList, String.ofList_toList] at answer
  rw [skipSpace_cons (by decide)] at answer
  simp only [read] at answer
  exact answer.symm

/-- The members of an object are read back. -/
theorem members?_compact {name : String} {value : Json} {members : List (String × Json)}
    (reads : ∀ member ∈ (name, value) :: members, ReadsCompact member.2) {fuel levels : Nat}
    (enough : 2 * (Text.quoted name.toList ++ ':' :: value.compact ++ compactMembers members).length
      ≤ fuel)
    (within : depthMembers ((name, value) :: members) ≤ levels) (rest : List Char) :
  members? fuel levels
      (Text.quoted name.toList ++ ':' :: (value.compact ++ (compactMembers members ++ rest)))
    = some ((name, value) :: members, rest)
  := by
  have first : ReadsCompact value := reads _ List.mem_cons_self
  have shallow := Nat.le_trans (depth_le_of_mem_members List.mem_cons_self) within
  induction members generalizing name value fuel with
  | nil =>
    simp only [List.length_append, List.length_cons] at enough
    obtain ⟨fuel, rfl⟩ : ∃ n, fuel = n + 2 := Nat.exists_eq_add_of_le' (by omega)
    rw [members?_first (first fuel levels _ (by omega) shallow (closes_compactMembers [] rest))]
    rfl
  | cons next members ih =>
    obtain ⟨nextName, next⟩ := next
    simp only [List.length_append, List.length_cons, compactMembers] at enough
    obtain ⟨fuel, rfl⟩ : ∃ n, fuel = n + 2 := Nat.exists_eq_add_of_le' (by omega)
    rw [members?_first (first fuel levels _ (by omega) shallow (closes_compactMembers _ rest))]
    have reads' := (List.forall_mem_cons.mp reads).2
    have within' := Nat.le_trans (Nat.le_max_right _ _) within
    have later : members? (fuel + 1) levels
          (Text.quoted nextName.toList ++ ':' :: (next.compact ++ (compactMembers members ++ rest)))
        = some ((nextName, next) :: members, rest) := by
      apply ih reads' _ within' (reads' _ List.mem_cons_self)
        (Nat.le_trans (depth_le_of_mem_members List.mem_cons_self) within')
      simp only [List.length_append, List.length_cons]
      omega
    simp only [compactMembers, List.cons_append, List.append_assoc]
    rw [skipSpace_cons (by decide)]
    simp only [later]
    rfl

/-! ### Any value -/

/-- No number starts as another value does, or with a blank or the end of a list. -/
theorem number_start {c : Char} (first : c = '-' ∨ isDigit c = true) :
  c ∉ ['n', 't', 'f', '"', '[', '\x7b', ']'] ∧ isSpace c = false
  := by
  constructor
  · intro other
    simp only [List.mem_cons, List.not_mem_nil, or_false] at other
    rcases other with rfl | rfl | rfl | rfl | rfl | rfl | rfl <;> revert first <;> decide
  · cases space : isSpace c with
    | false => rfl
    | true =>
      simp only [isSpace, Bool.or_eq_true, beq_iff_eq] at space
      rcases space with ((rfl | rfl) | rfl) | rfl <;> revert first <;> decide

theorem readsCompact_number {number : Number} (reads : number.ReadsBack) :
  ReadsCompact (.number number)
  := by
  intro fuel levels rest _ _ closes
  have read := number?_append closes reads
  obtain ⟨c, cs, text, first⟩ := number?_head reads
  obtain ⟨other, space⟩ := number_start first
  rw [compact, value?]
  rw [text, List.cons_append] at read ⊢
  rw [skipSpace_cons space]
  split
  iterate 6
    rename_i same
    obtain ⟨rfl, -⟩ := List.cons.inj same
    apply absurd _ other
    decide
  rw [read]
  rfl

/-- The text of a value starts with neither a blank nor the end of a list. -/
theorem Held.compact_head {value : Json} (held : Held value) :
  ∃ c cs, value.compact = c :: cs ∧ isSpace c = false ∧ c ≠ ']'
  := by
  have number {number : Number} (reads : number.ReadsBack) :
      ∃ c cs, (Json.number number).compact = c :: cs ∧ isSpace c = false ∧ c ≠ ']' := by
    obtain ⟨c, cs, text, first⟩ := number?_head reads
    obtain ⟨other, space⟩ := number_start first
    refine ⟨c, cs, text, space, ?_⟩
    rintro rfl
    apply other
    decide
  cases held with
  | null => exact ⟨'n', _, rfl, by decide, by decide⟩
  | bool value =>
    cases value with
    | false => exact ⟨'f', _, rfl, by decide, by decide⟩
    | true => exact ⟨'t', _, rfl, by decide, by decide⟩
  | int fits => apply number (Number.readsBack_int fits)
  | real reads => apply number reads
  | string value => exact ⟨'"', _, rfl, by decide, by decide⟩
  | @array items held =>
    cases items with
    | nil => exact ⟨'[', _, rfl, by decide, by decide⟩
    | cons item items => exact ⟨'[', _, rfl, by decide, by decide⟩
  | @object members sorted held =>
    cases members with
    | nil => exact ⟨'\x7b', _, rfl, by decide, by decide⟩
    | cons member members => exact ⟨'\x7b', _, rfl, by decide, by decide⟩

theorem readsCompact_string (value : String) :
  ReadsCompact (.string value)
  := by
  intro fuel levels rest _ _ _
  rw [compact, Text.quoted]
  simp only [List.cons_append, List.append_assoc, List.nil_append, value?]
  rw [skipSpace_cons (by decide)]
  simp only [stringBody?_toList, Option.map_some, String.ofList_toList]

/-- A list is read back if its items are. -/
theorem readsCompact_array {items : List Json} (held : ∀ item ∈ items, Held item)
    (reads : ∀ item ∈ items, ReadsCompact item) :
  ReadsCompact (.array items)
  := by
  intro fuel levels rest enough within closes
  rw [depth] at within
  obtain ⟨levels, rfl⟩ := Nat.exists_eq_add_of_le' (Nat.le_trans (Nat.le_add_left 1 _) within)
  cases items with
  | nil => rfl
  | cons item items =>
    have shorter : 2 * (item.compact ++ compactItems items).length ≤ fuel := by
      simp only [compact, List.length_cons, List.cons_append] at enough
      omega
    have read := items?_compact reads shorter (Nat.le_of_succ_le_succ within) rest
    obtain ⟨c, cs, text, space, other⟩ := (held item List.mem_cons_self).compact_head
    simp only [compact, List.cons_append, List.append_assoc, value?]
    rw [skipSpace_cons (by decide)]
    rw [text, List.cons_append] at read ⊢
    simp only
    rw [skipSpace_cons space]
    split
    · rename_i same
      apply absurd (List.cons.inj same).1 other
    · rw [read]
      rfl

/-- An object is read back if the values of its members are, and their names are in order. -/
theorem readsCompact_object {members : List (String × Json)}
    (sorted : members.Pairwise fun a b => a.1 < b.1)
    (reads : ∀ member ∈ members, ReadsCompact member.2) :
  ReadsCompact (.object members)
  := by
  intro fuel levels rest enough within closes
  rw [depth] at within
  obtain ⟨levels, rfl⟩ := Nat.exists_eq_add_of_le' (Nat.le_trans (Nat.le_add_left 1 _) within)
  cases members with
  | nil => rfl
  | cons member members =>
    obtain ⟨name, value⟩ := member
    have shorter : 2 * (Text.quoted name.toList ++ ':' :: value.compact
        ++ compactMembers members).length ≤ fuel := by
      simp only [compact, List.length_cons, List.cons_append] at enough
      omega
    have read := members?_compact reads shorter (Nat.le_of_succ_le_succ within) rest
    simp only [compact, List.cons_append, List.append_assoc, value?]
    rw [skipSpace_cons (by decide)]
    simp only [Text.quoted, List.cons_append, List.append_assoc] at read ⊢
    rw [skipSpace_cons (by decide)]
    split
    · rename_i same
      cases (List.cons.inj same).1
    · rw [read, Option.map_some, ofMembers_of_sorted sorted]

/-- A value is read back from its compact text, whatever closes it. -/
theorem Held.readsCompact {value : Json} (held : Held value) :
  ReadsCompact value
  := by
  induction held with
  | null =>
    intro fuel levels rest _ _ _
    rfl
  | bool value =>
    intro fuel levels rest _ _ _
    cases value <;> rfl
  | int fits => apply readsCompact_number (Number.readsBack_int fits)
  | real reads => apply readsCompact_number reads
  | string value => apply readsCompact_string
  | array held reads => apply readsCompact_array held reads
  | object sorted _ reads => apply readsCompact_object sorted reads

/-- A value is read back from the bytes of its compact text. -/
theorem Held.read?_encode {value : Json} (held : Held value) (within : value.depth ≤ maxLevels) :
  read? (Utf8.encode value.compact) = some value
  := by
  have read := held.readsCompact (2 * value.compact.length) maxLevels [] (Nat.le_refl _) within
    closes_nil
  rw [List.append_nil] at read
  rw [read?, Utf8.decode_encode]
  simp only [readWithin?, read, Option.bind_eq_bind, Option.bind_some]
  rfl

end PlanetServer.Json
