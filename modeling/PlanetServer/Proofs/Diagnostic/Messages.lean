import Mathlib.Data.List.Forall2
import PlanetServer.Diagnostic.Analysis
import PlanetServer.Proofs.Rule.Ends
import PlanetServer.Proofs.Rule.Expectation
import PlanetServer.Proofs.Rule.SourceOrder

/-!
# Messages of diagnostics

What the messages of a document say is true of its failures.

* `Locale.Opens` tells the form of a message from its first characters, so that messages of different
  forms are different whatever they quote.
* `distinctNames_induct` is how the names in a message are found one after the other.
* `Failure.Speaks` gives the form of the message of a failure, with the rule that leads to it.
* `Stream.Precedes` says which significant token is the nearest before another token.
* `Truthful` says what the message of a diagnostic tells about the failure, and `analyze_truthful` that
  the messages of a document do so one by one.
-/

namespace PlanetServer

/-! ### Forms of messages -/

/-- What the messages to users are about. -/
inductive Form where
  /-- A statement has no end. -/
  | missingTerminator
  /-- An assignment stands where none can be. -/
  | malformedAssignment
  /-- Nothing that is allowed starts here. -/
  | noViableAlternative
  /-- One of the named things should stand here. -/
  | expectedOneOf
  /-- The code near the given text is not understood. -/
  | unknownSyntaxError

namespace Locale

/-- The characters with which the messages of a form start. -/
def opening : Locale → Form → List Char
  | en, .missingTerminator => ['A', ' ', 's']
  | en, .malformedAssignment => ['T', 'h', 'i']
  | en, .noViableAlternative => ['T', 'h', 'e']
  | en, .expectedOneOf => ['E', 'x', 'p']
  | en, .unknownSyntaxError => ['U', 'n', 'k']
  | ko, .missingTerminator => ['문', '장', ' ']
  | ko, .malformedAssignment => ['대', '입', '문']
  | ko, .noViableAlternative => ['이', ' ', '위']
  | ko, .expectedOneOf => ['여', '기', '서']
  | ko, .unknownSyntaxError => ['알', ' ', '수']

/-- The message starts as those of the form do. -/
def Opens (locale : Locale) (form : Form) (message : String) : Prop :=
  locale.opening form <+: message.toList

/-- A message is of one form only. -/
theorem Opens.unique {locale : Locale} {form form' : Form} {message : String}
    (opens : locale.Opens form message) (opens' : locale.Opens form' message) :
  form = form'
  := by
  have length : (locale.opening form).length = (locale.opening form').length := by
    cases locale <;> cases form <;> cases form' <;> rfl
  have same := (List.prefix_of_prefix_length_le opens opens' length.le).eq_of_length length
  cases locale <;> cases form <;> cases form' <;> first | rfl | simp [opening] at same

theorem Opens.append {locale : Locale} {form : Form} {message : String}
    (opens : locale.Opens form message) (more : String) :
  locale.Opens form (message ++ more)
  := by
  rw [Opens, String.toList_append]
  apply opens.trans (List.prefix_append _ _)

/-- A message of characters known from the start. -/
theorem Opens.of_eq {locale : Locale} {form : Form} {message : String} {more : List Char}
    (known : message = String.ofList (locale.opening form ++ more)) :
  locale.Opens form message
  := by
  rw [Opens, known, String.toList_ofList]
  apply List.prefix_append

theorem opens_missingTerminator (locale : Locale) :
  locale.Opens .missingTerminator locale.missingTerminator
  := by
  cases locale with
  | en => exact .of_eq rfl
  | ko => exact .of_eq rfl

theorem opens_malformedAssignment (locale : Locale) :
  locale.Opens .malformedAssignment locale.malformedAssignment
  := by
  cases locale with
  | en => exact .of_eq rfl
  | ko => exact .of_eq rfl

theorem opens_noViableAlternative (locale : Locale) :
  locale.Opens .noViableAlternative locale.noViableAlternative
  := by
  cases locale with
  | en => exact .of_eq rfl
  | ko => exact .of_eq rfl

theorem opens_expectedOneOf (locale : Locale) (names : List String) :
  locale.Opens .expectedOneOf (locale.expectedOneOf names)
  := by
  cases locale with
  | en => exact .append (.of_eq rfl) _
  | ko => exact .append (.append (.of_eq rfl) _) _

/-- What stands before the names in a message that tells what was expected. -/
def beforeNames : Locale → String
  | en => "Expected one of: "
  | ko => "여기서는 "

/-- What stands after them. -/
def afterNames : Locale → String
  | en => ""
  | ko => " 가(이) 올 수 있어요."

/-- A message that tells what was expected lists the names, with a comma and a space between each two of
them. -/
theorem expectedOneOf_eq (locale : Locale) (names : List String) :
  locale.expectedOneOf names = locale.beforeNames ++ ", ".intercalate names ++ locale.afterNames
  := by
  cases locale with
  | en =>
    symm
    apply String.append_empty
  | ko => rfl

theorem opens_unknownSyntaxError (locale : Locale) (near : String) :
  locale.Opens .unknownSyntaxError (locale.unknownSyntaxError near)
  := by
  cases locale with
  | en => exact .append (.append (.of_eq rfl) _) _
  | ko => exact .append (.append (.of_eq rfl) _) _

theorem append_append_injective (before after : String) :
  Function.Injective fun text : String => before ++ text ++ after
  := by
  intro text text' same
  have chars := congrArg String.toList same
  simp only [String.toList_append] at chars
  exact String.toList_inj.mp (List.append_cancel_left (List.append_cancel_right chars))

/-- A message about code that is not understood tells what it quotes. -/
theorem unknownSyntaxError_injective (locale : Locale) :
  Function.Injective locale.unknownSyntaxError
  := by
  cases locale with
  | en => apply append_append_injective
  | ko => apply append_append_injective

/-- No two kinds have the same name for users. -/
theorem friendlyName_injective (locale : Locale) :
  Function.Injective locale.friendlyName
  := by
  have distinct : (Kind.all.map locale.friendlyName).Nodup := by
    cases locale <;> decide +kernel
  intro k k' same
  exact List.inj_on_of_nodup_map distinct (Kind.mem_all k) (Kind.mem_all k') same

end Locale

/-! ### Names in a message -/

section

variable {P : List String → Prop} {found names : List String} {n : Nat}

/-- What is kept when one more name is found holds of the names in a message. -/
theorem distinctNames_induct
    (add : ∀ found, ∀ name ∈ names, name ∉ found → found.length < n → P found → P (found ++ [name]))
    (start : P found) (room : found.length < n) :
  P (distinctNames found n names)
  := by
  induction names generalizing found with
  | nil => exact start
  | cons name names ih =>
    have further := fun found u member => add found u (List.mem_cons_of_mem name member)
    rw [distinctNames]
    by_cases known : name ∈ found
    · rw [if_pos (List.contains_iff_mem.mpr known), if_neg (Nat.not_le_of_lt room)]
      apply ih further start room
    · have more := add found name List.mem_cons_self known room start
      rw [if_neg (mt List.contains_iff_mem.mp known)]
      split
      · exact more
      case isFalse room => exact ih further more (Nat.lt_of_not_le room)

theorem nodup_distinctNames (nodup : found.Nodup) (room : found.length < n) :
  (distinctNames found n names).Nodup
  := by
  refine distinctNames_induct (fun found name _ other _ nodup => ?_) nodup room
  rw [← List.concat_eq_append]
  apply nodup.concat other

theorem length_distinctNames_le (room : found.length < n) :
  (distinctNames found n names).length ≤ n
  := by
  refine distinctNames_induct (P := fun found => found.length ≤ n) (fun found name _ _ room _ => ?_)
    room.le room
  rw [List.length_append]
  exact room

theorem mem_of_mem_distinctNames (room : found.length < n) :
  ∀ name ∈ distinctNames found n names, name ∈ found ∨ name ∈ names
  := by
  refine distinctNames_induct (P := fun now => ∀ name ∈ now, name ∈ found ∨ name ∈ names)
    (fun now name member _ _ known => ?_) (fun _ => .inl) room
  apply List.forall_mem_append.mpr ⟨known, List.forall_mem_singleton.mpr (.inr member)⟩

/-- The first name is always in the message. -/
theorem distinctNames_ne_nil (holds : names ≠ []) (room : 1 < n) :
  distinctNames [] n names ≠ []
  := by
  obtain ⟨name, names, rfl⟩ := List.exists_cons_of_ne_nil holds
  have rest : distinctNames [name] n names ≠ [] :=
    distinctNames_induct (P := (· ≠ [])) (fun found name _ _ _ _ => by simp) (List.cons_ne_nil name []) room
  have first : ([] : List String).contains name = false := rfl
  rw [distinctNames, first, if_neg Bool.false_ne_true, List.nil_append]
  rwa [if_neg (show ¬ n ≤ [name].length from Nat.not_le_of_lt room)]

end

theorem KindSet.mem_toList {s : KindSet} {k : Kind} :
  k ∈ s.toList ↔ s.contains k
  := by
  rw [toList, List.mem_filter, and_iff_right (Kind.mem_all k)]

/-- The names in a message are those of expected kinds. -/
theorem mem_expectedNames {expected : KindSet} {locale : Locale} {name : String}
    (member : name ∈ expectedNames expected locale) :
  ∃ k, expected.contains k ∧ locale.friendlyName k = name
  := by
  rcases mem_of_mem_distinctNames (by decide) name member with none | among
  · cases none
  · obtain ⟨k, listed, named⟩ := List.mem_map.mp among
    exact ⟨k, KindSet.mem_toList.mp listed, named⟩

/-- A kind that is not expected is not named. -/
theorem friendlyName_not_mem_expectedNames {expected : KindSet} (locale : Locale) {k : Kind}
    (other : expected.contains k = false) :
  locale.friendlyName k ∉ expectedNames expected locale
  := by
  intro member
  obtain ⟨k', among, named⟩ := mem_expectedNames member
  rw [locale.friendlyName_injective named, other] at among
  cases among

theorem expectedNames_ne_nil {expected : KindSet} (holds : ∃ k, expected.contains k) (locale : Locale) :
  expectedNames expected locale ≠ []
  := by
  obtain ⟨k, among⟩ := holds
  apply distinctNames_ne_nil
  · exact List.ne_nil_of_mem (List.mem_map_of_mem (KindSet.mem_toList.mpr among))
  · decide

/-! ### The nearest significant token -/

namespace Stream

variable {s : Stream} {p t : Token}

/-- The first token is significant, and only hidden tokens stand between it and the second one. -/
def Precedes (s : Stream) (p t : Token) : Prop :=
  p.isHidden = false
    ∧ ∃ before between after, s.tokens = before ++ p :: (between ++ t :: after)
      ∧ ∀ u ∈ between, u.isHidden = true

theorem IsIndexed.index_eq (indexed : s.IsIndexed) {before after : List Token}
    (divided : s.tokens = before ++ t :: after) :
  t.index = before.length
  := by
  apply indexed
  rw [divided, List.getElem?_append_right le_rfl, Nat.sub_self]
  rfl

/-- Looking back from a token finds the nearest significant token before it. -/
theorem IsIndexed.significantBefore?_eq_some (indexed : s.IsIndexed) (member : t ∈ s.tokens) :
  s.significantBefore? t.index = some p ↔ s.Precedes p t
  := by
  obtain ⟨front, after, divided⟩ := List.append_of_mem member
  have index := indexed.index_eq divided
  have taken : s.tokens.take t.index = front := by rw [divided, index, List.take_left]
  rw [significantBefore?, taken, List.find?_eq_some_iff_append, Bool.not_eq_true']
  apply and_congr_right
  intro _
  constructor
  · rintro ⟨between, before, back, hidden⟩
    have forth : front = before.reverse ++ p :: between.reverse := by
      rw [← List.reverse_reverse front, back]
      simp
    use before.reverse, between.reverse, after
    constructor
    · rw [divided, forth]
      simp
    · intro u member
      simpa using hidden u (List.mem_reverse.mp member)
  · rintro ⟨before, between, after', divided', hidden⟩
    have whole : s.tokens = (before ++ p :: between) ++ t :: after' := by rw [divided']; simp
    have length := (indexed.index_eq whole).symm.trans index
    have forth : before ++ p :: between = front :=
      (List.append_inj (whole.symm.trans divided) length).1
    use between.reverse, before.reverse
    constructor
    · rw [← forth]
      simp
    · intro u member
      simpa using hidden u (List.mem_reverse.mp member)

/-- An equals sign is misplaced if the nearest significant token before it is a name. -/
theorem IsIndexed.isMisplacedAssignment_iff (indexed : s.IsIndexed) (member : t ∈ s.tokens) :
  s.isMisplacedAssignment t ↔ t.kind = .assign ∧ ∃ p, s.Precedes p t ∧ p.kind = .identifier
  := by
  simp only [isMisplacedAssignment, Bool.and_eq_true, decide_eq_true_eq, Option.any_eq_true,
    indexed.significantBefore?_eq_some member]

end Stream

/-! ### Messages of failures -/

namespace Failure

variable {f : Failure} {stream : Stream} {locale : Locale}

/-- A statement has no end where an end of a statement was expected. -/
theorem lacksTerminator_iff :
  f.lacksTerminator
    ↔ ∃ expected, f.cause = .mismatch expected ∧ (expected.contains .semicolon ∨ expected.contains .newline)
  := by
  rw [lacksTerminator, expected?]
  cases f.cause <;> simp

/-- The form of the message of a failure, with the rule that gives it: of the rules the first that applies
counts. -/
inductive Speaks (f : Failure) (stream : Stream) (locale : Locale) : Form → Prop where
  | missingTerminator (lacks : f.lacksTerminator)
      (message : f.friendlyMessage stream locale = locale.missingTerminator) :
      f.Speaks stream locale .missingTerminator
  | malformedAssignment (ended : ¬ f.lacksTerminator)
      (misplaced : f.offending.any stream.isMisplacedAssignment)
      (message : f.friendlyMessage stream locale = locale.malformedAssignment) :
      f.Speaks stream locale .malformedAssignment
  | noViableAlternative (ended : ¬ f.lacksTerminator)
      (other : ¬ f.offending.any stream.isMisplacedAssignment)
      (message : f.friendlyMessage stream locale = locale.noViableAlternative) :
      f.Speaks stream locale .noViableAlternative
  | expectedOneOf (ended : ¬ f.lacksTerminator)
      (other : ¬ f.offending.any stream.isMisplacedAssignment)
      (expected : KindSet) (cause : f.cause = .mismatch expected)
      (message : f.friendlyMessage stream locale = locale.expectedOneOf (expectedNames expected locale)) :
      f.Speaks stream locale .expectedOneOf
  | unknownSyntaxError (ended : ¬ f.lacksTerminator)
      (other : ¬ f.offending.any stream.isMisplacedAssignment)
      (cause : f.cause = .unreadable)
      (message : f.friendlyMessage stream locale
        = locale.unknownSyntaxError (f.offending.elim "EOF" fun t => "'" ++ t.text ++ "'")) :
      f.Speaks stream locale .unknownSyntaxError

/-- The message of a failure starts as those of its form do. -/
theorem exists_speaks (f : Failure) (stream : Stream) (locale : Locale) :
  ∃ form, f.Speaks stream locale form ∧ locale.Opens form (f.friendlyMessage stream locale)
  := by
  by_cases lacks : f.lacksTerminator
  · have message : f.friendlyMessage stream locale = locale.missingTerminator := by
      rw [friendlyMessage, if_pos lacks]
    exact ⟨_, .missingTerminator lacks message, message ▸ locale.opens_missingTerminator⟩
  by_cases misplaced : f.offending.any stream.isMisplacedAssignment
  · have message : f.friendlyMessage stream locale = locale.malformedAssignment := by
      rw [friendlyMessage, if_neg lacks, if_pos misplaced]
    exact ⟨_, .malformedAssignment lacks misplaced message, message ▸ locale.opens_malformedAssignment⟩
  cases cause : f.cause with
  | mismatch expected =>
    have message : f.friendlyMessage stream locale
        = locale.expectedOneOf (expectedNames expected locale) := by
      rw [friendlyMessage, if_neg lacks, if_neg misplaced, cause]
    exact ⟨_, .expectedOneOf lacks misplaced expected cause message, message ▸ locale.opens_expectedOneOf _⟩
  | noViable | tooDeep =>
    have message : f.friendlyMessage stream locale = locale.noViableAlternative := by
      rw [friendlyMessage, if_neg lacks, if_neg misplaced, cause]
    exact ⟨_, .noViableAlternative lacks misplaced message, message ▸ locale.opens_noViableAlternative⟩
  | unreadable =>
    have message : f.friendlyMessage stream locale
        = locale.unknownSyntaxError (f.offending.elim "EOF" fun t => "'" ++ t.text ++ "'") := by
      rw [friendlyMessage, if_neg lacks, if_neg misplaced, cause]
      cases f.offending <;> rfl
    exact ⟨_, .unknownSyntaxError lacks misplaced cause message,
      message ▸ locale.opens_unknownSyntaxError _⟩

/-- A message that starts as those of a form do is of that form. -/
theorem speaks_of_opens {form : Form} (opens : locale.Opens form (f.friendlyMessage stream locale)) :
  f.Speaks stream locale form
  := by
  obtain ⟨form', speaks, opens'⟩ := exists_speaks f stream locale
  rwa [opens.unique opens']

theorem friendlyMessage_eq_missingTerminator_iff :
  f.friendlyMessage stream locale = locale.missingTerminator ↔ f.lacksTerminator
  := by
  constructor
  · intro message
    have speaks : f.Speaks stream locale .missingTerminator := by
      apply speaks_of_opens
      rw [message]
      apply locale.opens_missingTerminator
    cases speaks with
    | missingTerminator lacks _ => exact lacks
  · intro lacks
    rw [friendlyMessage, if_pos lacks]

theorem friendlyMessage_eq_malformedAssignment_iff (ended : ¬ f.lacksTerminator) :
  f.friendlyMessage stream locale = locale.malformedAssignment
    ↔ f.offending.any stream.isMisplacedAssignment
  := by
  constructor
  · intro message
    have speaks : f.Speaks stream locale .malformedAssignment := by
      apply speaks_of_opens
      rw [message]
      apply locale.opens_malformedAssignment
    cases speaks with
    | malformedAssignment _ misplaced _ => exact misplaced
  · intro misplaced
    rw [friendlyMessage, if_neg ended, if_pos misplaced]

end Failure

/-! ### Truthful messages -/

/-- The names are offered to the user in place of what stands at the failure: there are from one to five of
them, all different, and they name kinds that were expected there, but no end of a statement and not what
stands there. -/
structure Failure.Offers (f : Failure) (locale : Locale) (names : List String) : Prop where
  /-- There are names. -/
  nonempty : 1 ≤ names.length
  /-- There are not too many of them. -/
  limited : names.length ≤ 5
  /-- No name is told twice. -/
  distinct : names.Nodup
  /-- Each is the name of an expected kind. -/
  expected : ∃ expected, f.cause = .mismatch expected
    ∧ ∀ name ∈ names, ∃ k, expected.contains k ∧ locale.friendlyName k = name
  /-- A semicolon is not offered. -/
  semicolon : locale.friendlyName .semicolon ∉ names
  /-- A line end is not offered. -/
  newline : locale.friendlyName .newline ∉ names
  /-- What stands there is not offered. -/
  offending : ∀ t, f.offending = some t → locale.friendlyName t.kind ∉ names

/-- What the diagnostic says is true of the failure. -/
structure Truthful (stream : Stream) (locale : Locale) (f : Failure) (d : Diagnostic) : Prop where
  /-- It says that a statement has no end exactly if one token was missing and a semicolon would have done. -/
  terminator : d.message = locale.missingTerminator
    ↔ ∃ expected, f.cause = .mismatch expected ∧ expected.contains .semicolon
  /-- Where one of the two ends of a statement was expected, so was the other. -/
  ends : ∀ expected, f.cause = .mismatch expected → expected.contains .semicolon = expected.contains .newline
  /-- If it says that a statement has no end, then a token is there that ends no statement. -/
  unended : d.message = locale.missingTerminator →
    ∃ t, f.offending = some t ∧ t.kind ≠ .semicolon ∧ t.kind ≠ .newline ∧ t.kind ≠ .rightBrace
  /-- Otherwise it says that an assignment is malformed exactly if there is an equals sign after a name. -/
  assignment : d.message ≠ locale.missingTerminator →
    (d.message = locale.malformedAssignment
      ↔ ∃ t, f.offending = some t ∧ t.kind = .assign ∧ ∃ p, stream.Precedes p t ∧ p.kind = .identifier)
  /-- If it tells what was expected, it lists names, with a comma and a space between each two of them,
  and offers these. -/
  offers : (∃ names, d.message = locale.expectedOneOf names) →
    ∃ names, d.message = locale.beforeNames ++ ", ".intercalate names ++ locale.afterNames
      ∧ f.Offers locale names
  /-- If it says that some code is not understood, that is the text of an unreadable token in quotes. -/
  quotes : ∀ near, d.message = locale.unknownSyntaxError near →
    ∃ t ∈ stream.tokens, f.offending = some t ∧ t.kind = .unknown ∧ near = "'" ++ t.text ++ "'"
  /-- It never says that the end of the document is not understood. -/
  known : d.message ≠ locale.unknownSyntaxError "EOF"

namespace Failure

variable {source : String} {f : Failure} (member : f ∈ (Program.ofText source).failures)

include member

theorem unended_of_mem :
  f.Unended
  := by
  rcases List.mem_append.mp member with lead | later
  · apply Rule.Blames.unended_of_unreadable lead
  · apply Parse.program_blames _ _ _ f later

theorem honest_of_mem :
  f.Honest KindSet.IsNamed
  := by
  rcases List.mem_append.mp member with lead | later
  · apply Rule.honest_unreadable lead
  · apply Parse.program_honest _ _ _ f later

/-- The failures for which no token is readable are those of the unreadable tokens. -/
theorem unknown_of_mem (cause : f.cause = .unreadable) :
  ∃ t ∈ (Stream.ofText source).tokens, f.offending = some t ∧ t.kind = .unknown
  := by
  have among : f ∈ Rule.unreadable (Stream.ofText source).tokens := by
    rw [← Program.filter_unreadable Parse.maxDepth]
    apply List.mem_filter.mpr ⟨member, decide_eq_true cause⟩
  obtain ⟨t, known, rfl⟩ := List.mem_map.mp among
  obtain ⟨member, kind⟩ := List.mem_filter.mp known
  exact ⟨t, member, rfl, of_decide_eq_true kind⟩

theorem offers_of_mem {expected : KindSet} (cause : f.cause = .mismatch expected)
    (ended : ¬ f.lacksTerminator) (locale : Locale) :
  f.Offers locale (expectedNames expected locale)
  := by
  obtain ⟨⟨holds, -⟩, other⟩ := honest_of_mem member expected cause
  have no : ¬ (expected.contains .semicolon ∨ expected.contains .newline) :=
    fun ends => ended (lacksTerminator_iff.mpr ⟨expected, cause, ends⟩)
  constructor
  case nonempty => exact List.length_pos_of_ne_nil (expectedNames_ne_nil holds locale)
  case limited => exact length_distinctNames_le (by decide)
  case distinct => exact nodup_distinctNames List.nodup_nil (by decide)
  case expected => exact ⟨expected, cause, fun _ => mem_expectedNames⟩
  case semicolon => exact friendlyName_not_mem_expectedNames locale (eq_false_of_ne_true (no ∘ .inl))
  case newline => exact friendlyName_not_mem_expectedNames locale (eq_false_of_ne_true (no ∘ .inr))
  case offending => exact fun t fault => friendlyName_not_mem_expectedNames locale (other t fault)

/-- Where one of the two ends of a statement was expected, so was the other. -/
theorem ends_of_mem {expected : KindSet} (cause : f.cause = .mismatch expected) :
  expected.contains .semicolon = expected.contains .newline
  := by
  have both := unended_of_mem member expected cause
  apply Bool.eq_iff_iff.mpr
  exact ⟨fun semicolon => (both (.inl semicolon)).2.1, fun newline => (both (.inr newline)).1⟩

theorem lacksTerminator_iff_of_mem :
  f.lacksTerminator ↔ ∃ expected, f.cause = .mismatch expected ∧ expected.contains .semicolon
  := by
  rw [lacksTerminator_iff]
  constructor
  · rintro ⟨expected, cause, ends⟩
    exact ⟨expected, cause, (unended_of_mem member expected cause ends).1⟩
  · rintro ⟨expected, cause, semicolon⟩
    exact ⟨expected, cause, .inl semicolon⟩

theorem misplaced_iff_of_mem :
  f.offending.any (Stream.ofText source).isMisplacedAssignment
    ↔ ∃ t, f.offending = some t ∧ t.kind = .assign
      ∧ ∃ p, (Stream.ofText source).Precedes p t ∧ p.kind = .identifier
  := by
  rw [Option.any_eq_true]
  apply exists_congr
  intro t
  apply and_congr_right
  intro fault
  apply (Stream.isIndexed_ofText source).isMisplacedAssignment_iff
  apply Program.mem_tokens_of_mem member fault

theorem quotes_of_mem {locale : Locale} {near : String}
    (message : f.friendlyMessage (.ofText source) locale = locale.unknownSyntaxError near) :
  ∃ t ∈ (Stream.ofText source).tokens,
    f.offending = some t ∧ t.kind = .unknown ∧ near = "'" ++ t.text ++ "'"
  := by
  have speaks : f.Speaks (.ofText source) locale .unknownSyntaxError := by
    apply speaks_of_opens
    rw [message]
    apply locale.opens_unknownSyntaxError
  cases speaks with
  | unknownSyntaxError _ _ cause message' =>
    obtain ⟨t, token, fault, unknown⟩ := unknown_of_mem member cause
    rw [message, fault] at message'
    exact ⟨t, token, fault, unknown, locale.unknownSyntaxError_injective message'⟩

/-- The diagnostic of a failure of a document says what is true of it. -/
theorem diagnostic_truthful (locale : Locale) :
  Truthful (.ofText source) locale f (f.diagnostic (.ofText source) locale)
  := by
  constructor
  case terminator =>
    exact friendlyMessage_eq_missingTerminator_iff.trans (lacksTerminator_iff_of_mem member)
  case ends => exact fun expected => ends_of_mem member
  case unended =>
    intro message
    obtain ⟨expected, cause, ends⟩ :=
      lacksTerminator_iff.mp (friendlyMessage_eq_missingTerminator_iff.mp message)
    exact (unended_of_mem member expected cause ends).2.2
  case assignment =>
    intro message
    have ended := mt friendlyMessage_eq_missingTerminator_iff.mpr message
    exact (friendlyMessage_eq_malformedAssignment_iff ended).trans (misplaced_iff_of_mem member)
  case offers =>
    rintro ⟨names, message⟩
    have speaks : f.Speaks (.ofText source) locale .expectedOneOf := by
      apply speaks_of_opens
      rw [show f.friendlyMessage _ locale = _ from message]
      apply locale.opens_expectedOneOf
    cases speaks with
    | expectedOneOf ended _ expected cause message' =>
      exact ⟨_, message'.trans (locale.expectedOneOf_eq _), offers_of_mem member cause ended locale⟩
  case quotes => exact fun near => quotes_of_mem member
  case known =>
    intro message
    obtain ⟨t, -, -, -, quoted⟩ := quotes_of_mem member message
    have chars := congrArg String.toList quoted
    rw [String.toList_append, String.toList_append] at chars
    cases chars

end Failure

/-- What the diagnostics of a document say is true of its failures, one by one. -/
theorem analyze_truthful (source : String) (locale : Locale) :
  List.Forall₂ (Truthful (.ofText source) locale) (Program.ofText source).failures (analyze locale source)
  := by
  apply List.forall₂_map_right_iff.mpr
  apply List.forall₂_same.mpr
  intro f member
  apply Failure.diagnostic_truthful member

-- The four messages about which something is said, and the one with names once more in Korean.
example : (analyze .en "x y\nf(a = 1)\nf(a b)\n@").map Diagnostic.message
    = ["A statement needs an end. Finish it with a semicolon(;) or a newline(Enter).",
      "This assignment is malformed. e.g. i = i + 1  (end the statement with ; or a newline)",
      "Expected one of: '(', ')', ',', '.', '||'",
      "Unknown syntax error: could not understand the code near '@'."] := by
  decide +kernel

example : (analyze .ko "f(a b)").map Diagnostic.message
    = ["여기서는 '(', ')', ',', '.', '||' 가(이) 올 수 있어요."] := by
  decide +kernel

end PlanetServer
