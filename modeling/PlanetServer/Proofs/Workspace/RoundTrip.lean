import PlanetServer.Proofs.Workspace.Components
import PlanetServer.Proofs.Workspace.FileNames
import PlanetServer.Session.Server

/-!
# Names of files are read back

The name of a path stands for the path, whatever bytes its components hold: what has a meaning in names
is written by percent signs, and only the slashes between the components are left. So the root that a
client gives back is the root, and what the compiler reports has a name below it.

* `Text.isPlain` says which characters have no meaning in names, and `Text.isPlain_percentEncode` that
  components are written by these.
* `Uri.decode_of_isStop` and `Uri.decode_of_isTwoStops` say that what stands for full stops is read as
  full stops, so no other component is taken for them.
* `Uri.nameOf` is the name of components, and `Uri.toPath?_nameOf` reads it back.
-/

namespace PlanetServer

open Utf8 (Bytes)

namespace Text

/-! ### How components are written -/

/-- Whether a character has no meaning in the name of a file: it can be seen, it does not divide
segments, and it does not end the path. -/
def isPlain (c : Char) : Bool :=
  0x20 < c.toNat && !Scheme.file.divides c && !Uri.endsPath c

theorem isPlain_encodeByte (b : UInt8) :
  (encodeByte b).all isPlain = true
  := by
  apply forall_byte (P := fun b => (encodeByte b).all isPlain = true)
  decide +kernel

theorem isPlain_percentEncode (component : Bytes) :
  ∀ c ∈ percentEncode component, isPlain c = true
  := by
  intro c member
  obtain ⟨b, -, member⟩ := List.mem_flatMap.mp member
  apply List.all_eq_true.mp (isPlain_encodeByte b) c member

theorem not_isSkipped_of_isPlain {c : Char} (plain : isPlain c = true) :
  Uri.isSkipped c = false
  := by
  cases skipped : Uri.isSkipped c with
  | false => rfl
  | true =>
    have which : (c = '\t' ∨ c = '\n') ∨ c = '\r' := by simpa [Uri.isSkipped] using skipped
    rcases which with (rfl | rfl) | rfl
    · cases plain
    · cases plain
    · cases plain

theorem percentEncode_ne_nil {component : Bytes} (nonempty : component ≠ []) :
  percentEncode component ≠ []
  := by
  intro none
  apply nonempty
  rw [← percentDecode_percentEncode component, none]
  rfl

end Text

namespace Uri

open Text (percentEncode percentDecode isPlain)

/-! ### Full stops -/

theorem eq_of_lower {c d : Char} (small : Domain.lower c = d) (other : d.toNat < 0x61) :
  c = d
  := by
  unfold Domain.lower at small
  split at small
  · rename_i capital
    have least : 0x41 ≤ c.toNat := capital.1
    have most : c.toNat ≤ 0x5A := capital.2
    rw [← small, Utf8.toNat_char (by omega)] at other
    omega
  · apply small

theorem eq_of_lower_e {c : Char} (small : Domain.lower c = 'e') :
  c = 'e' ∨ c = 'E'
  := by
  unfold Domain.lower at small
  split at small
  · rename_i capital
    have most : c.toNat ≤ 0x5A := capital.2
    have value := congrArg Char.toNat small
    rw [Utf8.toNat_char (by omega)] at value
    right
    apply Char.toNat_inj.mp
    have e : 'e'.toNat = 0x65 := rfl
    have E : 'E'.toNat = 0x45 := rfl
    omega
  · exact .inl small

theorem isStop_cases {segment : List Char} (stops : isStop segment = true) :
  segment = ['.'] ∨ segment = ['%', '2', 'e'] ∨ segment = ['%', '2', 'E']
  := by
  rw [isStop, Bool.or_eq_true, decide_eq_true_eq, decide_eq_true_eq] at stops
  rcases stops with one | written
  · exact .inl one
  right
  obtain ⟨a, rest, rfl, first, written⟩ := List.map_eq_cons_iff.mp written
  obtain ⟨b, rest, rfl, second, written⟩ := List.map_eq_cons_iff.mp written
  obtain ⟨c, rest, rfl, third, written⟩ := List.map_eq_cons_iff.mp written
  obtain rfl := List.map_eq_nil_iff.mp written
  obtain rfl := eq_of_lower first (by decide)
  obtain rfl := eq_of_lower second (by decide)
  rcases eq_of_lower_e third with rfl | rfl
  · exact .inl rfl
  · exact .inr rfl

/-- A segment that stands for a full stop is read as one. -/
theorem decode_of_isStop {segment : List Char} (stops : isStop segment = true) (rest : Bytes) :
  percentDecode (Utf8.encode segment ++ rest) = Path.stop :: percentDecode rest
  := by
  rcases isStop_cases stops with rfl | rfl | rfl
  · exact Text.percentDecode_cons_of_ne (by decide) rest
  · rfl
  · rfl

theorem append_of_mem_halves {segment : List Char} {parts : List Char × List Char}
    (known : parts ∈ halves segment) :
  segment = parts.1 ++ parts.2
  := by
  induction segment generalizing parts with
  | nil =>
    obtain rfl := List.mem_singleton.mp known
    rfl
  | cons c segment ih =>
    rcases List.mem_cons.mp known with rfl | later
    · rfl
    · obtain ⟨parts, inner, rfl⟩ := List.mem_map.mp later
      rw [List.cons_append, ← ih inner]

/-- A segment that stands for two full stops is read as these. -/
theorem decode_of_isTwoStops {segment : List Char} (stops : isTwoStops segment = true) :
  percentDecode (Utf8.encode segment) = [Path.stop, Path.stop]
  := by
  obtain ⟨⟨first, second⟩, known, both⟩ := List.any_eq_true.mp stops
  obtain ⟨one, other⟩ := Bool.and_eq_true_iff.mp both
  have whole : Utf8.encode (first ++ second) = Utf8.encode first ++ (Utf8.encode second ++ []) := by
    rw [List.append_nil, Utf8.encode, List.flatMap_append]
    rfl
  rw [append_of_mem_halves known, whole, decode_of_isStop one, decode_of_isStop other]
  rfl

variable {component : Bytes} {components : List Bytes}

theorem isStop_percentEncode (valid : Path.IsComponent component) :
  isStop (percentEncode component) = false
  := by
  cases stops : isStop (percentEncode component) with
  | false => rfl
  | true =>
    have read := decode_of_isStop stops []
    rw [List.append_nil, Text.percentDecode_percentEncode] at read
    cases valid.ne_stop read

theorem isTwoStops_percentEncode (valid : Path.IsComponent component) :
  isTwoStops (percentEncode component) = false
  := by
  cases stops : isTwoStops (percentEncode component) with
  | false => rfl
  | true =>
    have read := decode_of_isTwoStops stops
    rw [Text.percentDecode_percentEncode] at read
    cases valid.ne_stops read

/-! ### Segments -/

theorem counted_of_plain {cs : List Char} (plain : ∀ c ∈ cs, isPlain c = true) :
  counted cs = cs
  := by
  rw [counted, List.filter_eq_self]
  intro c known
  rw [Text.not_isSkipped_of_isPlain (plain c known), Bool.not_false]

/-- A piece goes on up to the next character that divides segments. -/
theorem pieces_append {scheme : Scheme} {cs rest piece : List Char} {more : List (List Char)}
    (inner : ∀ c ∈ cs, scheme.divides c = false) (follows : pieces scheme rest = piece :: more) :
  pieces scheme (cs ++ rest) = (cs ++ piece) :: more
  := by
  induction cs with
  | nil => apply follows
  | cons c cs ih =>
    obtain ⟨other, inner⟩ := List.forall_mem_cons.mp inner
    rw [List.cons_append, pieces, other, ih inner]
    rfl

/-- The pieces of written components are the components as they are written, after an empty one. -/
theorem pieces_written (components : List Bytes) :
  pieces .file (written components) = [] :: components.map percentEncode
  := by
  induction components with
  | nil => rfl
  | cons component components ih =>
    have inner : ∀ c ∈ percentEncode component, Scheme.file.divides c = false := by
      intro c known
      have plain := Text.isPlain_percentEncode component c known
      simp only [isPlain, Bool.and_eq_true, Bool.not_eq_true'] at plain
      apply plain.1.2
    have first : written (component :: components)
        = '/' :: (percentEncode component ++ written components) := rfl
    rw [first, pieces, pieces_append inner ih, List.append_nil]
    rfl

/-- Segments that mean nothing else stay as they are after the first one. -/
theorem walk_written {done : List (List Char)} (nonempty : done ≠ [])
    (valid : ∀ component ∈ components, Path.IsComponent component) :
  walk .file done (components.map percentEncode) = (done ++ components.map percentEncode, false)
  := by
  induction components generalizing done with
  | nil => simp [walk]
  | cons component components ih =>
    obtain ⟨first, valid⟩ := List.forall_mem_cons.mp valid
    have later : done ++ [percentEncode component] ≠ [] := by simp
    rw [List.map_cons, walk, counted_of_plain (Text.isPlain_percentEncode component)]
    simp only [isTwoStops_percentEncode first, isStop_percentEncode first, Bool.false_eq_true, nonempty,
      and_false, ↓reduceIte]
    rw [ih later valid, List.append_assoc, List.singleton_append]

theorem mem_written {c : Char} (member : c ∈ written components) :
  c = '/' ∨ isPlain c = true
  := by
  obtain ⟨component, -, member⟩ := List.mem_flatMap.mp member
  apply (List.mem_cons.mp member).imp_right
  apply Text.isPlain_percentEncode component

/-- Nothing that is written of components ends the path. -/
theorem takeWhile_endsPath_written (components : List Bytes) :
  (written components).takeWhile (fun c => !endsPath c) = written components
  := by
  have inside : ∀ c ∈ written components, (!endsPath c) = true := by
    intro c member
    rcases mem_written member with rfl | plain
    · rfl
    · simp only [isPlain, Bool.and_eq_true] at plain
      apply plain.2
  rw [← List.append_nil (written components), List.takeWhile_append_of_pos inside, List.takeWhile_nil]

/-- What is written of components is resolved to what is written of each. -/
theorem resolve_written (nonempty : components ≠ [])
    (valid : ∀ component ∈ components, Path.IsComponent component) :
  (resolve .file (written components)).1 = components.map percentEncode
  := by
  have start : walk .file [] ([] :: components.map percentEncode)
      = walk .file [[]] (components.map percentEncode) := rfl
  rw [resolve, takeWhile_endsPath_written, pieces_written, start, walk_written (by simp) valid]
  obtain ⟨first, rest, rfl⟩ := List.exists_cons_of_ne_nil nonempty
  have visible := Text.percentEncode_ne_nil (valid first List.mem_cons_self).ne_nil
  simp [dropEmpty, visible]

/-! ### Whole names -/

/-- A name without blanks and controls is read as it is. -/
theorem trimmed_of_visible {cs : List Char} (visible : ∀ c ∈ cs, 0x20 < c.toNat) :
  trimmed cs = cs
  := by
  have stays (ds : List Char) (visible : ∀ c ∈ ds, 0x20 < c.toNat) :
      ds.dropWhile (fun c => decide (c.toNat ≤ 0x20)) = ds := by
    cases ds with
    | nil => rfl
    | cons d ds => rw [List.dropWhile_cons_of_neg (by simpa using visible d List.mem_cons_self)]
  rw [trimmed, stays cs visible, stays cs.reverse (by simpa using visible), List.reverse_reverse]

/-- The name of a file of this machine is resolved from its third slash on. -/
theorem parse?_file {path : List Char} (visible : ∀ c ∈ path, 0x20 < c.toNat) :
  parse? ("file:///".toList ++ path) = some ⟨.unnamed, some (resolve .file ('/' :: path)).1⟩
  := by
  have start : ("file:///".toList.all fun c => 0x20 < c.toNat) = true := by decide
  have whole : ∀ c ∈ "file:///".toList ++ path, 0x20 < c.toNat := by
    intro c member
    rcases List.mem_append.mp member with before | inside
    · apply of_decide_eq_true (List.all_eq_true.mp start c before)
    · apply visible c inside
  rw [parse?, trimmed_of_visible whole]
  rfl

theorem segmentsPath_written (nonempty : components ≠ []) :
  segmentsPath (components.map percentEncode)
    = ⟨closeDrive (Path.ofComponents components).bytes⟩
  := by
  rw [segmentsPath, Path.ofComponents, cons_intercalate _ nonempty, List.flatMap_map]
  simp only [Text.percentDecode_percentEncode]

theorem closeDrive_cases (bytes : Bytes) :
  closeDrive bytes = bytes ∨ closeDrive bytes = bytes ++ [Path.slash]
  := by
  unfold closeDrive
  split
  · split
    · exact .inr rfl
    · exact .inl rfl
  · exact .inl rfl

/-- A path that was closed by a slash is the same path. -/
theorem same_closeDrive (components : List Bytes) :
  (⟨closeDrive (Path.ofComponents components).bytes⟩ : Path).Same (Path.ofComponents components)
  := by
  rcases closeDrive_cases (Path.ofComponents components).bytes with same | closed
  · rw [same]
    apply Path.Same.refl
  · rw [closed]
    exact ⟨rfl, Path.components_append_slash _⟩

/-- The name of the file that components lead to. -/
def nameOf (components : List Bytes) : String :=
  if components = [] then "file:///" else "file://" ++ String.ofList (written components)

theorem ofPath?_eq_nameOf {p : Path} (absolute : p.isAbsolute = true) :
  ofPath? p = some (nameOf p.components)
  := by
  by_cases root : p.components = []
  · rw [ofPath?_of_nil absolute root, nameOf, if_pos root]
  · rw [ofPath?_of_ne_nil absolute root, nameOf, if_neg root]

/-- The name of components is read back as the path through them, perhaps with a slash at its end. -/
theorem toPath?_nameOf (valid : ∀ component ∈ components, Path.IsComponent component) :
  toPath? (nameOf components) = some ⟨closeDrive (Path.ofComponents components).bytes⟩
  := by
  by_cases none : components = []
  · subst none
    decide +kernel
  · obtain ⟨first, rest, rfl⟩ := List.exists_cons_of_ne_nil none
    have visible : ∀ c ∈ percentEncode first ++ written rest, 0x20 < c.toNat := by
      intro c member
      have among : c ∈ written (first :: rest) := List.mem_cons_of_mem _ member
      rcases mem_written among with rfl | plain
      · decide
      · simp only [isPlain, Bool.and_eq_true, decide_eq_true_eq] at plain
        apply plain.1.1
    have text : (nameOf (first :: rest)).toList
        = "file:///".toList ++ (percentEncode first ++ written rest) := by
      rw [nameOf, if_neg none]
      simp only [String.toList_append, String.toList_ofList]
      rfl
    have resolved := resolve_written none valid
    rw [toPath?, text, parse?_file visible]
    change some (segmentsPath (resolve .file (written (first :: rest))).1) = _
    rw [resolved, segmentsPath_written none]

/-! ### Names below a root -/

/-- The name of a path below a root is the name of the root, a slash, and the components of the path as
they are written. -/
theorem nameOf_append {reported : List Bytes} (inside : components ≠ []) (nonempty : reported ≠ []) :
  nameOf (components ++ reported)
    = nameOf components ++ "/" ++ "/".intercalate (reported.map fun c => String.ofList (percentEncode c))
  := by
  have parts : reported.map percentEncode ≠ [] := by simpa using nonempty
  have joined := cons_intercalate '/' parts
  have below : written reported = '/' :: ['/'].intercalate (reported.map percentEncode) := by
    rw [joined, List.flatMap_map]
    rfl
  have split : written (components ++ reported) = written components ++ written reported :=
    List.flatMap_append
  apply String.toList_injective
  rw [nameOf, nameOf, if_neg inside, if_neg (by simp [inside]), split, below]
  simp [String.toList_intercalate, Function.comp_def]

theorem encode_intercalate (parts : List (List Char)) :
  Utf8.encode (['/'].intercalate parts) = [Path.slash].intercalate (parts.map Utf8.encode)
  := by
  induction parts with
  | nil => rfl
  | cons first parts ih =>
    cases parts with
    | nil => simp
    | cons second parts =>
      rw [List.map_cons, List.map_cons, List.intercalate_cons_cons, List.intercalate_cons_cons,
        ← List.map_cons, ← ih, Utf8.encode, List.flatMap_append, List.flatMap_append]
      rfl

/-- The bytes of a path that is joined of texts. -/
theorem ofString_intercalate (reported : List String) :
  Path.ofString ("/".intercalate reported)
    = ⟨[Path.slash].intercalate (reported.map Utf8.encodeString)⟩
  := by
  rw [Path.ofString, Utf8.encodeString, String.toList_intercalate]
  change (⟨Utf8.encode (['/'].intercalate _)⟩ : Path) = _
  rw [encode_intercalate, List.map_map]
  rfl

variable {root : Path} {reported : List String}

/-- A path that is reported below a root leads through the components of both. -/
theorem components_reportedPath (absolute : root.isAbsolute = true) (nonempty : reported ≠ [])
    (valid : ∀ c ∈ reported, Path.IsComponent (Utf8.encodeString c)) :
  (reportedPath root ("/".intercalate reported)).isAbsolute = true
    ∧ (reportedPath root ("/".intercalate reported)).components
      = root.components ++ reported.map Utf8.encodeString
  := by
  have valid' : ∀ c ∈ reported.map Utf8.encodeString, Path.IsComponent c := by
    simpa using valid
  have relative := Path.isAbsolute_intercalate valid'
  rw [reportedPath, ofString_intercalate]
  constructor
  · apply Path.isAbsolute_join absolute relative
  · rw [Path.components_join absolute relative,
      Path.components_intercalate (by simpa using nonempty) valid']

/-! ### The root of the workspace -/

/-- A session that is started with a name of a file has the file as the root of the workspace. -/
theorem root_answer_initialize {s : Server} {directory p : Path} {id params : Json}
    {given : Params.Initialize} {name : String} (fresh : s.initialized = false)
    (read : Server.initializeParams? params = some given) (named : given.rootUri = some name)
    (found : toPath? name = some p) :
  (s.answer directory id "initialize" params).1.root = some p
  := by
  have root : given.root? = some p := by
    simp [Params.Initialize.root?, named, found]
  simp [Server.answer, fresh, Server.openSession, read, root]

/-! ### There and back -/

/-- Paths survive the trip through names of files. The name of every path from the root stands for this
path, whatever its components hold. The first of them may look like a drive, with a colon or a bar: the
names of paths have three slashes, behind which it is read as it is written. Unless it is the root of
all files, a session that is started with its name has it as the root of the workspace, and what the
compiler reports below it gets a name that stands for the reported path: the name of the root, a slash,
and the reported components as they are written. -/
theorem paths_survive (components : List Bytes)
    (valid : ∀ component ∈ components, Path.IsComponent component) :
  let root := Path.ofComponents components
  ∃ name, ofPath? root = some name
    ∧ (∃ read, toPath? name = some read
      ∧ (read = root ∨ read.bytes = root.bytes ++ [Path.slash]) ∧ read.Same root)
    ∧ (components ≠ [] →
      (∀ (s : Server) (directory : Path) (id params : Json) (given : Params.Initialize),
        s.initialized = false → Server.initializeParams? params = some given →
          given.rootUri = some name →
          ∃ known, (s.answer directory id "initialize" params).1.root = some known ∧ known.Same root)
      ∧ ∀ reported : List String, reported ≠ [] →
        (∀ c ∈ reported, Path.IsComponent (Utf8.encodeString c)) →
        ∀ known : Path, known.Same root →
          let path := "/".intercalate reported
          let document := name ++ "/"
            ++ "/".intercalate (reported.map fun c => String.ofList (percentEncode (Utf8.encodeString c)))
          ofReported? known path = some document
            ∧ ∃ read, toPath? document = some read ∧ read.Same (root.join (.ofString path)))
  := by
  intro root
  have absolute : root.isAbsolute = true := Path.isAbsolute_ofComponents components
  have through : root.components = components := Path.components_ofComponents valid
  have named : ofPath? root = some (nameOf components) := by rw [ofPath?_eq_nameOf absolute, through]
  have read := toPath?_nameOf valid
  have same := same_closeDrive components
  refine ⟨nameOf components, named, ⟨_, read, ?_, same⟩, fun inside => ⟨?_, ?_⟩⟩
  · rcases closeDrive_cases root.bytes with open' | closed
    · exact .inl (congrArg Path.mk open')
    · exact .inr closed
  · intro s directory id params given fresh decoded asked
    exact ⟨_, root_answer_initialize fresh decoded asked read, same⟩
  · intro reported nonempty valid' known same' path document
    have all : ∀ c ∈ components ++ reported.map Utf8.encodeString, Path.IsComponent c := by
      intro c member
      rcases List.mem_append.mp member with old | new
      · apply valid c old
      · obtain ⟨text, spelled, rfl⟩ := List.mem_map.mp new
        apply valid' text spelled
    have written : document = nameOf (components ++ reported.map Utf8.encodeString) := by
      rw [nameOf_append inside (by simpa using nonempty), List.map_map]
      rfl
    have below := components_reportedPath absolute nonempty valid'
    have below' := components_reportedPath (same'.1.trans absolute) nonempty valid'
    refine ⟨?_, _, written ▸ toPath?_nameOf all, ?_⟩
    · rw [ofReported?, ofPath?_eq_nameOf below'.1, below'.2, same'.2, through, written]
    · have closed := same_closeDrive (components ++ reported.map Utf8.encodeString)
      rw [through] at below
      exact ⟨closed.1.trans below.1.symm,
        closed.2.trans ((Path.components_ofComponents all).trans below.2.symm)⟩

/-- Blanks, number signs and percent signs, and a path that ends like a drive and so is given back with
a slash at its end. -/
theorem paths_survive_drive :
  let root := Path.ofComponents [Utf8.encodeString "w #", Utf8.encodeString "c:"]
  let server := Server.new .default
  ∃ name known document read, ofPath? root = some name
    ∧ (server.answer root .null "initialize" (.object [("rootUri", .string name)])).1.root = some known
    ∧ known.Same root
    ∧ ofReported? known "a%/b" = some document
    ∧ toPath? document = some read
    ∧ read.Same (root.join (.ofString "a%/b"))
  := by
  intro root server
  obtain ⟨name, named, -, below⟩ := paths_survive [Utf8.encodeString "w #", Utf8.encodeString "c:"]
    (by decide +kernel)
  obtain ⟨opens, reports⟩ := below (by simp)
  obtain ⟨known, answered, same⟩ := opens server root .null (.object [("rootUri", .string name)])
    ⟨some name, none, none⟩ rfl rfl rfl
  obtain ⟨written, read, found, there⟩ := reports ["a%", "b"] (by simp) (by decide +kernel) known same
  exact ⟨name, known, _, read, named, answered, same, written, found, there⟩

end Uri

end PlanetServer
