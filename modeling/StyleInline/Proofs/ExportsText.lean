import StyleInline.Lookup.Supply
import StyleInline.Proofs.Members

/-! Which texts are exports: the renderings of lists of pairs, and no others. A rendering is an object of strings by
the grammar of JSON, with white space and escapes wherever that allows them. The table is made of the pairs as they
are written, so it does not hang on the rendering. What a reader meets in a text that goes wrong is followed up to
the place where it does, whatever comes behind. -/
namespace StyleInline.ExportsText
open Json Grammar Gathering Reading Literals Members

/-! ### Renderings -/

/-- The pairs as the members of an object, each with its second string as value. -/
def membersOf (pairs : List (String × String)) : List (String × Value) :=
  pairs.map fun pair => (pair.1, .string pair.2)

/-- The text renders the pairs in their order, repeated first strings included. -/
def Renders (text : List Char) (pairs : List (String × String)) : Prop :=
  Means text (.object (membersOf pairs))

theorem each_string_iff (value : Value) (pairs : List (String × String)) :
    Each (fun inner text => inner = .string text) value pairs ↔ value = .object (membersOf pairs) := by
  constructor
  · rintro ⟨members, rfl, each⟩
    congr 1
    induction each with
    | nil => rfl
    | cons here _ ih =>
      rw [membersOf, List.map_cons, ih, here.1, ← here.2]
      rfl
  · rintro rfl
    refine ⟨_, rfl, ?_⟩
    induction pairs with
    | nil => exact .nil
    | cons pair others ih => exact .cons ⟨rfl, rfl⟩ ih

/-- An object of strings is read with its pairs. -/
theorem reads_pairs : Reads (readMap (string "a string")) (fun value pairs => value = .object (membersOf pairs)) :=
  reads_congr (reads_map_of (reads_string "a string")) each_string_iff

theorem reads_table : Reads Exports.reader.read
    (fun value exports => ∃ pairs, value = .object (membersOf pairs) ∧ exports = Table.ofList pairs) :=
  reads_map reads_pairs Table.ofList

/-- A text of exports is a rendering. -/
theorem parse_iff_renders (text : String) (exports : Exports) : Exports.parse text = .ok exports ↔
    ∃ pairs, Renders text.toList pairs ∧ exports = Table.ofList pairs := by
  have read := read_all_iff reads_table text exports
  refine read.trans ?_
  constructor
  · rintro ⟨_, means, pairs, rfl, rfl⟩
    exact ⟨pairs, means, rfl⟩
  · rintro ⟨pairs, means, rfl⟩
    exact ⟨_, means, pairs, rfl, rfl⟩

/-- The exports of a stylesheet are those that the text in the file beside it renders. -/
theorem exports_of_file_iff {files : FileReader} {stylesheet : Path} {exports : Exports} :
    files.exportsOf stylesheet = .ok exports ↔
      ∃ (text : String) (pairs : List (String × String)), files stylesheet.sidecar = .ok text.toUTF8 ∧
        Renders text.toList pairs ∧ exports = Table.ofList pairs := by
  unfold FileReader.exportsOf
  constructor
  · intro answered
    cases read : files.readText stylesheet.sidecar with
    | error reason => simp [read] at answered
    | ok text =>
      cases parsed : Exports.parse text with
      | error report => simp [read, parsed] at answered
      | ok found =>
        obtain rfl : found = exports := by simpa [read, parsed] using answered
        obtain ⟨pairs, rendered, made⟩ := (parse_iff_renders text found).mp parsed
        exact ⟨text, pairs, FileReader.readText_eq_ok_iff.mp read, rendered, made⟩
  · rintro ⟨text, pairs, stored, rendered, made⟩
    have read := FileReader.readText_eq_ok_iff.mpr stored
    have parsed := (parse_iff_renders text exports).mpr ⟨pairs, rendered, made⟩
    simp only [read, parsed]

/-- A text renders one list of pairs at most. -/
theorem renders_unique {text : List Char} {pairs others : List (String × String)} (here : Renders text pairs)
    (there : Renders text others) : pairs = others := by
  have whole := String.toList_ofList (l := text)
  have first := (read_all_iff reads_pairs (String.ofList text) pairs).mpr ⟨_, by rwa [whole], rfl⟩
  have second := (read_all_iff reads_pairs (String.ofList text) others).mpr ⟨_, by rwa [whole], rfl⟩
  exact Except.ok.inj (first.symm.trans second)

/-- Space around a rendering is space around the object. -/
theorem renders_padded {before text after : List Char} {pairs : List (String × String)} (left : Space before)
    (rendered : Renders text pairs) (right : Space after) : Renders (before ++ text ++ after) pairs := by
  obtain @⟨gap, core, tail, _, inner, spelled, outer⟩ := rendered
  have wider := Padded.around (space_append left inner) spelled (space_append outer right)
  simpa [Renders, Means] using wider

/-! ### Strings that go wrong -/

/-- Behind a backslash and a `u`, the number of a half: a second one that comes first, or a first one that no
second one follows. -/
inductive Lone : List Char → Prop where
  | second {digits rest : List Char} {low : Nat} (number : HexUnit digits low)
      (isLow : 0xDC00 ≤ low ∧ low < 0xE000) : Lone (digits ++ rest)
  | first {digits rest : List Char} {high : Nat} (number : HexUnit digits high)
      (isHigh : 0xD800 ≤ high ∧ high < 0xDC00)
      (unpaired : ¬ ∃ others low more, rest = '\\' :: 'u' :: others ++ more ∧ HexUnit others low ∧
        0xDC00 ≤ low ∧ low < 0xE000) : Lone (digits ++ rest)

/-- What no string goes on with: a control character, or half of a pair by itself. -/
inductive Unwritable : List Char → Prop where
  | control {c : Char} {rest : List Char} (hidden : c < ' ') : Unwritable (c :: rest)
  | half {rest : List Char} (lone : Lone rest) : Unwritable ('\\' :: 'u' :: rest)

theorem read_lone {text : List Char} (lone : Lone text) : ∃ fault, readEscape ('u' :: text) = .error fault := by
  cases lone with
  | @second digits rest low number isLow =>
    have reading := (exactly_read_unit (digits ++ rest) low rest).mpr ⟨digits, rfl, number⟩
    exact ⟨.before .loneSurrogate rest, by simp [readEscape, reading, (low_surrogate_iff low).mpr isLow]⟩
  | @first digits rest high number isHigh unpaired =>
    rw [read_high_half number isHigh]
    cases half : readLowHalf high rest with
    | error fault => exact ⟨fault, rfl⟩
    | ok pair =>
      obtain ⟨_, shape, others, low, rfl, second, isLow, -⟩ := (exactly_read_low_half isHigh _ _ _).mp half
      exact absurd ⟨others, low, pair.2, shape, second, isLow⟩ unpaired

/-- A string is followed as far as it is well written, and refused where it is not. -/
theorem read_literal_refused {body chars rest : List Char} (written : Written body chars) (bad : Unwritable rest)
    (seen : String) : ∃ fault, readLiteral seen (body ++ rest) = .error fault := by
  induction written generalizing seen with
  | nil =>
    cases bad with
    | @control c rest hidden =>
      refine ⟨.before .controlCharacter rest, ?_⟩
      rw [List.nil_append, readLiteral, if_pos hidden]
      · rintro rfl
        exact absurd hidden (by decide)
      · rintro rfl
        exact absurd hidden (by decide)
    | @half rest lone =>
      obtain ⟨fault, refused⟩ := read_lone lone
      exact ⟨fault, read_literal_stopped refused seen⟩
  | @plain c text chars visible noQuote noBackslash _ ih =>
    rw [List.cons_append, read_literal_plain visible noQuote noBackslash]
    exact ih (seen.push c)
  | @escaped word text chars c one _ ih =>
    have reading := (exactly_read_escape (word ++ (text ++ rest)) c _).mpr ⟨word, rfl, one⟩
    rw [List.cons_append, List.cons_append, List.append_assoc, read_literal_escape reading]
    exact ih (seen.push c)

/-! ### Objects that go wrong -/

/-- Whole members with strings as values, one after another. The flags hold before the first member of an
object: in front of these members, and behind them. -/
inductive Begun : Bool → List Char → Bool → Prop where
  | nothing {first : Bool} : Begun first [] first
  | member {first still : Bool} {gap core rest : List Char} {key text : String} (lead : Lead first gap)
      (spelled : Member Spells core (key, .string text)) (more : Begun false rest still) :
      Begun first (gap ++ core ++ rest) still

/-- What no member comes of: a comma with nothing behind it, a name or a string that goes wrong, and a value
that is no string. Nothing is said of what follows. -/
inductive Broken : Bool → List Char → Prop where
  | comma {before after rest : List Char} (left : Space before) (right : Space after) :
      Broken false (before ++ ',' :: (after ++ '}' :: rest))
  | name {first : Bool} {gap body chars rest : List Char} (lead : Lead first gap) (written : Written body chars)
      (bad : Unwritable rest) : Broken first (gap ++ '"' :: (body ++ rest))
  | value {first : Bool} {gap name before after body chars rest : List Char} {key : String}
      (lead : Lead first gap) (named : StringText name key) (left : Space before) (right : Space after)
      (written : Written body chars) (bad : Unwritable rest) :
      Broken first (gap ++ name ++ before ++ ':' :: (after ++ '"' :: (body ++ rest)))
  | noString {first : Bool} {gap name before after rest : List Char} {key : String} {c : Char}
      (lead : Lead first gap) (named : StringText name key) (left : Space before) (right : Space after)
      (other : c ∉ ['"', ' ', '\t', '\n', '\r']) :
      Broken first (gap ++ name ++ before ++ ':' :: (after ++ c :: rest))

/-- Texts that render nothing: those that begin with something else than an object, objects that go wrong at
some member, and renderings with more than space behind them. -/
inductive Spoiled : List Char → Prop where
  | noObject {space rest : List Char} {c : Char} (blank : Space space)
      (other : c ∉ ['{', ' ', '\t', '\n', '\r']) : Spoiled (space ++ c :: rest)
  | member {space word rest : List Char} {still : Bool} (blank : Space space) (begun : Begun true word still)
      (broken : Broken still rest) : Spoiled (space ++ '{' :: (word ++ rest))
  | behind {text rest : List Char} {pairs : List (String × String)} (rendered : Renders text pairs)
      (more : ¬ Space rest) : Spoiled (text ++ rest)

/-- Members that are whole are passed. -/
theorem read_begun {first still : Bool} {word : List Char} (begun : Begun first word still) (rest : List Char)
    (held : Array (String × String)) : ∃ more,
      readMembers (collect (string "a string")) held first (word ++ rest) =
        readMembers (collect (string "a string")) more still rest := by
  induction begun generalizing held with
  | nothing => exact ⟨held, rfl⟩
  | @member _ _ gap _ tail key text lead spelled _ ih =>
    obtain ⟨body, rfl⟩ := member_quote spelled
    have one := (exactly_read_member (fits_collect (reads_string "a string")) held (body ++ (tail ++ rest))
      (held.push (key, text)) _).mpr ⟨body, rfl, _, _, spelled, text, rfl, rfl⟩
    obtain ⟨more, same⟩ := ih (held.push (key, text))
    refine ⟨more, ?_⟩
    rw [List.append_assoc, List.append_assoc, List.cons_append,
      read_members_key ((next_member_key_iff _ _ _).mpr ⟨_, lead, rfl⟩) one]
    exact same

/-- A value is refused that is no string, or one that goes wrong. -/
theorem read_string_refused {text after rest : List Char} {c : Char} (blank : Space after)
    (visible : isSpace c = false) (shape : text = after ++ c :: rest)
    (bad : c = '"' → ∃ fault, readLiteral "" rest = .error fault) :
    ∃ fault, readString "a string" text = .error fault := by
  subst shape
  have start := skip_space_append rest blank visible
  by_cases quote : c = '"'
  · subst quote
    obtain ⟨fault, refused⟩ := bad rfl
    exact ⟨fault, by simp only [readString, start, refused]⟩
  · refine ⟨mismatch "a string" (c :: rest), ?_⟩
    unfold readString
    split
    · rename_i nothing
      cases start.symm.trans nothing
    · rename_i found
      cases start.symm.trans found
      exact absurd rfl quote
    · rename_i found
      rw [start]

/-- A member is refused when its value is. -/
theorem read_member_refused {name before text : List Char} {key : String} {fault : Fault}
    (named : StringText ('"' :: name) key) (left : Space before)
    (refused : readString "a string" text = .error fault) (held : Array (String × String)) :
    readMember (collect (string "a string")) held (name ++ before ++ ':' :: text) = .error fault := by
  have literal := (exactly_read_literal (name ++ (before ++ ':' :: text)) key _).mpr ⟨name, rfl, named⟩
  have colon := (read_colon_iff (before ++ ':' :: text) text).mpr ⟨before, left, rfl⟩
  rw [List.append_assoc]
  simp only [readMember, literal, collect, colon, Reader.map, Reader.andThen, string, refused]

theorem read_broken {first : Bool} {text : List Char} (broken : Broken first text)
    (held : Array (String × String)) :
    ∃ fault, readMembers (collect (string "a string")) held first text = .error fault := by
  -- A member that is refused, after what leads to it.
  have member {first : Bool} {gap inner : List Char} {fault : Fault} (lead : Lead first gap)
      (refused : readMember (collect (string "a string")) held inner = .error fault) :
      ∃ fault, readMembers (collect (string "a string")) held first (gap ++ '"' :: inner) = .error fault :=
    ⟨fault, read_members_refused ((next_member_key_iff _ _ _).mpr ⟨gap, lead, rfl⟩) refused⟩
  cases broken with
  | @comma before after rest left right =>
    have comma := skip_space_append (c := ',') (after ++ '}' :: rest) left rfl
    have brace := skip_space_append (c := '}') rest right rfl
    exact ⟨.into .trailingComma ('}' :: rest), read_members_stopped (by simp [nextMember, comma, brace])⟩
  | @name _ gap body chars rest lead written bad =>
    obtain ⟨fault, refused⟩ := read_literal_refused written bad ""
    exact member lead (by rw [readMember, refused])
  | @value _ gap name before after body chars rest key lead named left right written bad =>
    obtain ⟨inner, rfl, known⟩ := id named
    have literal := read_literal_refused written bad ""
    obtain ⟨fault, refused⟩ := read_string_refused right (c := '"') rfl rfl fun _ => literal
    have whole := member lead (read_member_refused named left refused held)
    simpa using whole
  | @noString _ gap name before after rest key c lead named left right other =>
    obtain ⟨inner, rfl, known⟩ := id named
    simp only [List.mem_cons, not_or] at other
    have visible : isSpace c = false := by simp [isSpace, other]
    obtain ⟨fault, refused⟩ := read_string_refused right visible rfl fun quote => absurd quote other.1
    have whole := member lead (read_member_refused named left refused held)
    simpa using whole

/-- A spoiled text is no exports. -/
theorem parse_spoiled {text : String} (spoiled : Spoiled text.toList) :
    ∃ report, Exports.parse text = .error report := by
  -- It is enough that the reader does not answer, or leaves more than space.
  have refused (fault : Fault) (members : readMap (string "a string") text.toList = .error fault) :
      ∃ report, Exports.parse text = .error report :=
    ⟨.ofFault text.toList fault, by
      simp only [Exports.parse, readAll, Exports.reader, Json.map, Reader.map, Reader.andThen, members]⟩
  generalize shape : text.toList = chars at spoiled refused
  cases spoiled with
  | @noObject space rest c blank other =>
    simp only [List.mem_cons, not_or] at other
    have start := skip_space_append (c := c) rest blank (by simp [isSpace, other])
    refine refused (mismatch "a map" (c :: rest)) ?_
    unfold readMap
    split
    · rename_i nothing
      cases start.symm.trans nothing
    · rename_i found
      cases start.symm.trans found
      exact absurd rfl other.1
    · rw [start]
  | @member space word rest still blank begun broken =>
    have start := skip_space_append (c := '{') (word ++ rest) blank rfl
    obtain ⟨held, same⟩ := read_begun begun rest #[]
    obtain ⟨fault, stopped⟩ := read_broken broken held
    exact refused fault (by simp only [readMap, start, same, stopped])
  | @behind text rest pairs rendered more =>
    obtain @⟨before, core, after, _, left, spelled, _⟩ := rendered
    have reading := (reads_table (before ++ core ++ (after ++ rest)) (Table.ofList pairs) (after ++ rest)).mpr
      ⟨before ++ core, rfl, before, core, _, rfl, left, spelled, pairs, rfl, rfl⟩
    have junk : skipSpace (after ++ rest) ≠ [] := by
      intro nothing
      have blank := (skip_space_nil_iff _).mp nothing
      exact more fun c inside => blank c (List.mem_append_right after inside)
    obtain ⟨c, tail, left⟩ := List.exists_cons_of_ne_nil junk
    refine ⟨.ofFault text.toList (.into .trailingCharacters (c :: tail)), ?_⟩
    rw [← List.append_assoc] at reading
    simp only [Exports.parse, readAll, shape, reading, left]

/-! ### Every list of pairs is rendered -/

theorem renders_exists (pairs : List (String × String)) : ∃ text, Renders text pairs := by
  have listing : ∀ first, ∃ word, Listing '}' (Member Spells) first word (membersOf pairs) := by
    induction pairs with
    | nil => exact fun first => ⟨_, .close space_nil⟩
    | cons pair others ih =>
      intro first
      obtain ⟨tail, rest⟩ := ih false
      obtain ⟨name, named⟩ := string_text_exists pair.1
      obtain ⟨value, quoted⟩ := string_text_exists pair.2
      have member := Member.colon named space_nil space_nil (Spells.string quoted)
      cases first with
      | true => exact ⟨_, .word (.first space_nil) member rest⟩
      | false => exact ⟨_, .word (.later space_nil space_nil) member rest⟩
  obtain ⟨word, listed⟩ := listing true
  exact ⟨_, .around space_nil (.object (inside_iff_listing.mpr listed)) space_nil⟩

/-- A text is read as exports just when it is an object of strings by the grammar of JSON, with space around it,
and then it is read as the table of its pairs in the order they are written in: each selector where it is first
mentioned, with what stands for it last. A text has one list of pairs, a list has a text, and all the texts of a
list are read alike. Whatever else there is in a text, it is refused. -/
theorem exports_exactly_rendered :
    (∀ text exports, Exports.parse text = .ok exports ↔
      ∃ pairs, Renders text.toList pairs ∧ exports = Table.ofList pairs) ∧
    (∀ text pairs others, Renders text pairs → Renders text others → pairs = others) ∧
    (∀ text pairs, Renders text.toList pairs → Exports.parse text = .ok (Table.ofList pairs)) ∧
    (∀ pairs, (∃ text, Renders text pairs) ∧ Gathers pairs (Table.ofList pairs)) ∧
    (∀ text, (∀ pairs, ¬ Renders text.toList pairs) → ∃ report, Exports.parse text = .error report) ∧
    ∀ text, Spoiled text.toList → ∃ report, Exports.parse text = .error report := by
  refine ⟨parse_iff_renders, fun _ _ _ => renders_unique, ?_,
    fun pairs => ⟨renders_exists pairs, gathers_of_list pairs⟩, ?_, fun _ => parse_spoiled⟩
  · intro text pairs rendered
    exact (parse_iff_renders text _).mpr ⟨pairs, rendered, rfl⟩
  · intro text outside
    cases answered : Exports.parse text with
    | error report => exact ⟨report, rfl⟩
    | ok exports =>
      obtain ⟨pairs, rendered, -⟩ := (parse_iff_renders text exports).mp answered
      exact absurd rendered (outside pairs)

/-- Two names may be equal only once they are read. -/
theorem names_equal_once_read :
    Renders "\x7b\"a\":\"1\" ,\"\\u0061\" :\"2\"\x7d\n".toList [("a", "1"), ("a", "2")] ∧
      Exports.parse "\x7b\"a\":\"1\" ,\"\\u0061\" :\"2\"\x7d\n" = .ok (Table.ofList [("a", "2")]) ∧
      Spoiled "\x7b\"a\":\"1\",\x7d".toList ∧
      (∃ report, Exports.parse "\x7b\"a\":\"1\",\x7d" = .error report) ∧
      (∀ pairs, ¬ Renders "[]".toList pairs) ∧ ∃ report, Exports.parse "[]" = .error report := by
  have selector := string_text_plain "a" (by simp)
  have one := Spells.string (string_text_plain "1" (by simp))
  have two := Spells.string (string_text_plain "2" (by simp))
  have number : HexUnit ['0', '0', '6', '1'] (0 * 16 ^ 3 + 0 * 16 ^ 2 + 6 * 16 + 1) :=
    .digits (.inl (by decide)) (.inl (by decide)) (.inl (by decide)) (.inl (by decide))
  have escaped : StringText "\"\\u0061\"".toList "a" :=
    ⟨_, rfl, .escaped (.unit (c := 'a') number) .nil⟩
  have blank : Space [' '] := by simp [Space]
  have line : Space ['\n'] := by simp [Space]
  have first := Member.colon selector space_nil space_nil one
  have second := Member.colon escaped blank space_nil two
  have object := Spells.object (inside_iff_listing.mpr
    (.word (.first space_nil) first (.word (.later blank space_nil) second (.close space_nil))))
  have padded := Padded.around space_nil object line
  have rendered : Renders "\x7b\"a\":\"1\" ,\"\\u0061\" :\"2\"\x7d\n".toList [("a", "1"), ("a", "2")] := padded
  have table : Table.ofList [("a", "1"), ("a", "2")] = Table.ofList [("a", "2")] := rfl
  have spoiled : Spoiled "\x7b\"a\":\"1\",\x7d".toList :=
    .member space_nil (.member (.first space_nil) first .nothing)
      (.comma space_nil space_nil : Broken false ([] ++ ',' :: ([] ++ ['\x7d'])))
  have outside : ∀ pairs, ¬ Renders "[]".toList pairs := by
    intro pairs rendered
    have answered := exports_exactly_rendered.2.2.1 "[]" pairs rendered
    have bracket : Spoiled ([] ++ '[' :: [']']) := .noObject space_nil (by decide)
    obtain ⟨report, refused⟩ := exports_exactly_rendered.2.2.2.2.2 "[]" bracket
    cases answered.symm.trans refused
  exact ⟨rendered, table ▸ exports_exactly_rendered.2.2.1 _ _ rendered, spoiled,
    exports_exactly_rendered.2.2.2.2.2 _ spoiled, outside, exports_exactly_rendered.2.2.2.2.1 _ outside⟩

end StyleInline.ExportsText
