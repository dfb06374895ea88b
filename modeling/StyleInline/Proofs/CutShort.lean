import StyleInline.Proofs.ExportsText

/-! Files of exports that are only half written. Wherever the text is cut before its closing brace, every reader
that is under way meets the end of the text where it looks for more, and blames that and nothing else; so what has
been read up to there is never taken for exports. A cut through the bytes of one character leaves no text at
all. -/
namespace StyleInline.CutShort
open Text Json Grammar Reading Literals Members ExportsText

/-! ### Words without their end -/

/-- The word goes on behind this part of it. -/
def Cut (part word : List Char) : Prop :=
  ∃ c missing, word = part ++ c :: missing

theorem not_cut_nil {part : List Char} : ¬ Cut part [] := by
  rintro ⟨c, missing, shape⟩
  simp at shape

theorem cut_cons {c : Char} {part word : List Char} (cut : Cut part (c :: word)) :
    part = [] ∨ ∃ inner, part = c :: inner ∧ Cut inner word := by
  obtain ⟨other, missing, shape⟩ := cut
  cases part with
  | nil => exact .inl rfl
  | cons first inner =>
    rw [List.cons_append, List.cons.injEq] at shape
    obtain ⟨rfl, shape⟩ := shape
    exact .inr ⟨inner, rfl, other, missing, shape⟩

/-- A cut falls into the first of two words or into the second. -/
theorem cut_append {first second part : List Char} (cut : Cut part (first ++ second)) :
    Cut part first ∨ ∃ inner, part = first ++ inner ∧ Cut inner second := by
  induction first generalizing part with
  | nil => exact .inr ⟨part, rfl, cut⟩
  | cons c rest ih =>
    rcases cut_cons cut with rfl | ⟨inner, rfl, within⟩
    · exact .inl ⟨c, rest, rfl⟩
    · rcases ih within with ⟨other, missing, rfl⟩ | ⟨more, rfl, behind⟩
      · exact .inl ⟨other, missing, rfl⟩
      · exact .inr ⟨more, rfl, behind⟩

/-- What is cut before a mark, or in the space that leads to it, is space. -/
theorem cut_mark {space word part : List Char} {c : Char} (blank : Space space) (cut : Cut part (space ++ c :: word)) :
    Space part ∨ ∃ inner, part = space ++ c :: inner ∧ Cut inner word := by
  rcases cut_append cut with ⟨other, missing, rfl⟩ | ⟨marked, rfl, behind⟩
  · exact .inl fun c member => blank c (List.mem_append_left _ member)
  · rcases cut_cons behind with rfl | ⟨inner, rfl, further⟩
    · rw [List.append_nil]
      exact .inl blank
    · exact .inr ⟨inner, rfl, further⟩

theorem cut_before_end {part word : List Char} (c : Char) (start : part <+: word) : Cut part (word ++ [c]) := by
  obtain ⟨rest, rfl⟩ := start
  cases rest with
  | nil => exact ⟨c, [], by simp⟩
  | cons first others => exact ⟨first, others ++ [c], by simp⟩

/-! ### Readers that meet the end -/

variable {α β : Type}

/-- The reader has failed because the text ends too early. -/
def EndsEarly (result : Except Fault α) : Prop :=
  ∃ fault, result = .error fault ∧ fault.cause.category = .endOfText

/-- Cut anywhere, the words of the values that are read make the reader meet the end of the text. -/
def Stops (read : List Char → Except Fault (α × List Char)) (A : Value → α → Prop) : Prop :=
  ∀ word a part, Stands A word a → Cut part word → EndsEarly (read part)

theorem stops_congr {read : List Char → Except Fault (α × List Char)} {A B : Value → α → Prop}
    (stops : Stops read A) (same : ∀ value a, A value a ↔ B value a) : Stops read B := by
  rintro word a part ⟨space, core, value, parts, blank, spelled, stands⟩ cut
  exact stops word a part ⟨space, core, value, parts, blank, spelled, (same value a).mpr stands⟩ cut

theorem stops_map {reader : Reader α} {A : Value → α → Prop} (stops : Stops reader.read A) (f : α → β) :
    Stops (reader.map f).read (fun value b => ∃ a, A value a ∧ b = f a) := by
  rintro word b part ⟨space, core, value, parts, blank, spelled, a, stands, -⟩ cut
  obtain ⟨fault, failed, early⟩ := stops word a part ⟨space, core, value, parts, blank, spelled, stands⟩ cut
  exact ⟨fault, by simp [Reader.map, Reader.andThen, failed], early⟩

/-! ### Strings -/

/-- A hexadecimal digit takes one byte. -/
theorem hex_digit_byte {c : Char} {value : Nat} (digit : HexDigit c value) : c.utf8Size = 1 := by
  rcases digit with small | capital
  · have every : ∀ pair ∈ "0123456789abcdef".toList.zipIdx, pair.1.utf8Size = 1 := by decide
    exact every _ small
  · have every : ∀ pair ∈ "0123456789ABCDEF".toList.zipIdx, pair.1.utf8Size = 1 := by decide
    exact every _ capital

/-- Fewer than four digits are fewer than four bytes. -/
theorem unit_cut {word part : List Char} {unit : Nat} (number : HexUnit word unit) (cut : Cut part word) :
    readUnit part = .error ⟨.endInString, 0⟩ := by
  obtain ⟨first, second, third, _⟩ := number
  have one := hex_digit_byte first
  have two := hex_digit_byte second
  have three := hex_digit_byte third
  rcases cut_cons cut with rfl | ⟨_, rfl, behindFirst⟩
  · rfl
  · rcases cut_cons behindFirst with rfl | ⟨_, rfl, behindSecond⟩
    · simp [readUnit, byteCount, one]
    · rcases cut_cons behindSecond with rfl | ⟨_, rfl, behindThird⟩
      · simp [readUnit, byteCount, one, two]
      · rcases cut_cons behindThird with rfl | ⟨_, -, behindFourth⟩
        · simp [readUnit, byteCount, one, two, three]
        · exact absurd behindFourth not_cut_nil

theorem low_half_cut {digits part : List Char} {low : Nat} (number : HexUnit digits low)
    (cut : Cut part ('\\' :: 'u' :: digits)) (high : Nat) : EndsEarly (readLowHalf high part) := by
  rcases cut_cons cut with rfl | ⟨_, rfl, behind⟩
  · exact ⟨_, rfl, rfl⟩
  · rcases cut_cons behind with rfl | ⟨inner, rfl, within⟩
    · exact ⟨_, rfl, rfl⟩
    · exact ⟨⟨.endInString, 0⟩, by simp [readLowHalf, unit_cut number within], rfl⟩

/-- Within an escape, and between the two halves of one, more is looked for. -/
theorem escape_cut {word part : List Char} {c : Char} (escape : Escape word c) (cut : Cut part word) :
    EndsEarly (readEscape part) := by
  cases escape with
  | short =>
    rcases cut_cons cut with rfl | ⟨_, -, behind⟩
    · exact ⟨_, rfl, rfl⟩
    · exact absurd behind not_cut_nil
  | unit number =>
    rcases cut_cons cut with rfl | ⟨inner, rfl, within⟩
    · exact ⟨_, rfl, rfl⟩
    · exact ⟨⟨.endInString, 0⟩, by simp [readEscape, unit_cut number within], rfl⟩
  | @pair first second high low _ leads trails isHigh =>
    rcases cut_cons cut with rfl | ⟨inner, rfl, behind⟩
    · exact ⟨_, rfl, rfl⟩
    · rcases cut_append behind with within | ⟨more, rfl, between⟩
      · exact ⟨⟨.endInString, 0⟩, by simp [readEscape, unit_cut leads within], rfl⟩
      · rw [read_high_half leads isHigh]
        exact low_half_cut trails between high

/-- A literal is read up to its quote, so it ends nowhere before. -/
theorem literal_cut {body chars part : List Char} (written : Written body chars) (cut : Cut part (body ++ ['"']))
    (seen : String) : EndsEarly (readLiteral seen part) := by
  have empty (seen : String) : EndsEarly (readLiteral seen []) := ⟨.before .endInString [], by rw [readLiteral], rfl⟩
  induction written generalizing part seen with
  | nil =>
    rcases cut_cons cut with rfl | ⟨_, -, behind⟩
    · exact empty seen
    · exact absurd behind not_cut_nil
  | @plain c text chars visible noQuote noBackslash _ ih =>
    rcases cut_cons cut with rfl | ⟨inner, rfl, behind⟩
    · exact empty seen
    · rw [read_literal_plain visible noQuote noBackslash]
      exact ih behind (seen.push c)
  | @escaped word text chars c one _ ih =>
    rw [List.cons_append, List.cons_append, List.append_assoc] at cut
    rcases cut_cons cut with rfl | ⟨inner, rfl, within⟩
    · exact empty seen
    · rcases cut_append within with inEscape | ⟨more, rfl, behind⟩
      · obtain ⟨fault, stopped, early⟩ := escape_cut one inEscape
        exact ⟨fault, read_literal_stopped stopped seen, early⟩
      · have reading := (exactly_read_escape (word ++ more) c more).mpr ⟨word, rfl, one⟩
        rw [read_literal_escape reading]
        exact ih behind (seen.push c)

/-- Where a value is looked for there is none in space. -/
theorem string_blank {part : List Char} (blank : Space part) (expected : String) :
    EndsEarly (readString expected part) := by
  have nothing := (skip_space_nil_iff part).mpr blank
  exact ⟨.into .endInValue [], by simp only [readString, nothing], rfl⟩

theorem stops_string (expected : String) : Stops (string expected).read (fun value text => value = .string text) := by
  rintro word text part ⟨space, core, _, rfl, blank, spelled, rfl⟩ cut
  obtain ⟨body, rfl, written⟩ := spells_string spelled
  rcases cut_mark blank cut with empty | ⟨inner, rfl, within⟩
  · exact string_blank empty expected
  · obtain ⟨fault, failed, early⟩ := literal_cut written within ""
    have start := skip_space_append (c := '"') inner blank rfl
    exact ⟨fault, by simp only [string, readString, start, failed], early⟩

/-! ### Objects -/

variable {reader : Reader α} {A : Value → α → Prop}

/-- A cut member ends within its name, before its colon, or within its value. -/
theorem member_cut (stops : Stops reader.read A) {word part : List Char} {key : String} {value : Value} {a : α}
    (member : Member Spells ('"' :: word) (key, value)) (stands : A value a) (cut : Cut part word)
    (held : Array (String × α)) : EndsEarly (readMember (collect reader) held part) := by
  generalize shape : '"' :: word = whole at member
  obtain @⟨name, before, after, core, _, _, named, left, right, spelled⟩ := member
  obtain ⟨body, rfl, written⟩ := id named
  obtain rfl : word = body ++ ['"'] ++ (before ++ ':' :: (after ++ core)) := by simpa using shape
  rcases cut_append cut with inName | ⟨inner, rfl, behind⟩
  · obtain ⟨fault, failed, early⟩ := literal_cut written inName ""
    exact ⟨fault, by simp only [readMember, failed], early⟩
  · have literal := (exactly_read_literal (body ++ ['"'] ++ inner) key inner).mpr ⟨_, rfl, named⟩
    rcases cut_mark left behind with blank | ⟨more, rfl, inValue⟩
    · have nothing := (skip_space_nil_iff inner).mpr blank
      exact ⟨.into .endInObject [], by simp only [readMember, literal, collect, readColon, nothing], rfl⟩
    · have colon := (read_colon_iff (before ++ ':' :: more) more).mpr ⟨before, left, rfl⟩
      have early := stops_map stops (fun v => held.push (key, v)) _ _ more
        ⟨after, core, value, rfl, right, spelled, a, stands, rfl⟩ inValue
      simpa only [readMember, literal, collect, colon] using early

/-- Where a member is looked for there is none in space. -/
theorem next_member_blank {part : List Char} (blank : Space part) (first : Bool) :
    nextMember first part = .error (.into .endInObject []) := by
  have nothing := (skip_space_nil_iff part).mpr blank
  simp only [nextMember, nothing]

/-- Before a member there is space, and a comma within it, behind which more is looked for. -/
theorem lead_cut {first : Bool} {gap rest part : List Char} (lead : Lead first gap)
    (cut : Cut part (gap ++ '"' :: rest)) :
    EndsEarly (nextMember first part) ∨ ∃ inner, part = gap ++ '"' :: inner ∧ Cut inner rest := by
  have empty {part : List Char} {first : Bool} (blank : Space part) : EndsEarly (nextMember first part) :=
    ⟨_, next_member_blank blank first, rfl⟩
  cases lead with
  | first blank =>
    rcases cut_mark blank cut with blank | found
    · exact .inl (empty blank)
    · exact .inr found
  | @later before after left right =>
    rw [List.append_assoc, List.cons_append] at cut
    rcases cut_mark left cut with blank | ⟨more, rfl, behind⟩
    · exact .inl (empty blank)
    · rcases cut_mark right behind with blank | ⟨inner, rfl, further⟩
      · have comma := skip_space_append (c := ',') more left rfl
        have nothing := (skip_space_nil_iff more).mpr blank
        exact .inl ⟨.into .endInValue [], by simp [nextMember, comma, nothing], rfl⟩
      · exact .inr ⟨inner, by simp, further⟩

/-- Members that are cut before their brace end too early. -/
theorem members_cut (reads : Reads reader.read A) (stops : Stops reader.read A) {first : Bool}
    {word part : List Char} {members : List (String × Value)} (listing : Listing '}' (Member Spells) first word members)
    (each : ∀ member ∈ members, ∃ a, A member.2 a) (cut : Cut part word) (held : Array (String × α)) :
    EndsEarly (readMembers (collect reader) held first part) := by
  -- The members in front of the cut are read and pushed, so what is held changes from one member to the next.
  induction listing generalizing part held with
  | @close first space blank =>
    rcases cut_mark blank cut with empty | ⟨_, -, behind⟩
    · exact ⟨_, read_members_stopped (next_member_blank empty first), rfl⟩
    · exact absurd behind not_cut_nil
  | @word first gap _ tail member others lead spelled _ ih =>
    obtain ⟨⟨a, stands⟩, behind⟩ := List.forall_mem_cons.mp each
    obtain ⟨body, rfl⟩ := member_quote spelled
    rw [List.append_assoc, List.cons_append] at cut
    rcases lead_cut lead cut with ⟨fault, stopped, early⟩ | ⟨inner, rfl, within⟩
    · exact ⟨fault, read_members_stopped stopped, early⟩
    · have start {inner : List Char} := (next_member_key_iff first (gap ++ '"' :: inner) inner).mpr ⟨gap, lead, rfl⟩
      rcases cut_append within with inMember | ⟨more, rfl, further⟩
      · obtain ⟨fault, refused, early⟩ := member_cut stops spelled stands inMember held
        exact ⟨fault, read_members_refused start refused, early⟩
      · have one := (exactly_read_member (fits_collect reads) held (body ++ more) (held.push (member.1, a)) more).mpr
          ⟨body, rfl, _, _, spelled, a, stands, rfl⟩
        rw [read_members_key start one]
        exact ih behind further _

theorem value_of_each {members : List (String × Value)} {pairs : List (String × α)}
    (each : List.Forall₂ (fun member pair => pair.1 = member.1 ∧ A member.2 pair.2) members pairs) :
    ∀ member ∈ members, ∃ a, A member.2 a := by
  induction each with
  | nil => simp
  | cons here _ ih => exact List.forall_mem_cons.mpr ⟨⟨_, here.2⟩, ih⟩

/-- An object is read up to its closing brace, so it ends nowhere before. -/
theorem stops_map_of (reads : Reads reader.read A) (stops : Stops reader.read A) : Stops (readMap reader) (Each A) := by
  rintro word pairs part ⟨space, core, _, rfl, blank, spelled, members, rfl, each⟩ cut
  obtain ⟨inner, rfl, listing⟩ := spells_object spelled
  rcases cut_mark blank cut with empty | ⟨more, rfl, within⟩
  · have nothing := (skip_space_nil_iff part).mpr empty
    exact ⟨.into .endInValue [], by simp only [readMap, nothing], rfl⟩
  · obtain ⟨fault, failed, early⟩ := members_cut reads stops listing (value_of_each each) within #[]
    have start := skip_space_append (c := '{') more blank rfl
    exact ⟨fault, by simp only [readMap, start, failed], early⟩

/-! ### Texts of exports -/

/-- Members up to the closing mark end with it. -/
theorem listing_closes {closing : Char} {R : List Char → α → Prop} {first : Bool} {word : List Char} {all : List α}
    (listing : Listing closing R first word all) : ∃ front, word = front ++ [closing] := by
  induction listing with
  | close => exact ⟨_, rfl⟩
  | word _ _ _ ih =>
    obtain ⟨front, rfl⟩ := ih
    exact ⟨_, (List.append_assoc _ _ _).symm⟩

/-- An object of strings, and the pairs in it. -/
abbrev Lists (value : Value) (pairs : List (String × String)) : Prop :=
  value = .object (membersOf pairs)

/-- The brace of a rendering has nothing but space behind it, and any other space would do as well. -/
theorem renders_closed {text : List Char} {pairs : List (String × String)} (rendered : Renders text pairs) :
    ∃ front after, text = front ++ '}' :: after ∧ Space after ∧ Stands Lists (front ++ ['}']) pairs := by
  obtain @⟨before, core, after, _, left, spelled, right⟩ := rendered
  obtain ⟨inner, rfl, listing⟩ := spells_object spelled
  obtain ⟨front, rfl⟩ := listing_closes listing
  exact ⟨before ++ '{' :: front, after, by simp, right, before, _, _, by simp, left, spelled, rfl⟩

theorem renders_of_stands {word space : List Char} {pairs : List (String × String)} (stands : Stands Lists word pairs)
    (blank : Space space) : Renders (word ++ space) pairs := by
  obtain ⟨before, core, _, rfl, left, spelled, rfl⟩ := stands
  exact .around left spelled blank

/-- A text of exports that is cut before its brace ends too early. -/
theorem parse_cut {front part : List Char} {pairs : List (String × String)}
    (stands : Stands Lists (front ++ ['}']) pairs) (start : part <+: front) :
    ∃ report, Exports.parse (String.ofList part) = .error report ∧ report.cause.category = .endOfText := by
  have pairs : Stops (Json.map (Json.string "a string")).read Lists :=
    stops_congr (stops_map_of (reads_string "a string") (stops_string "a string")) each_string_iff
  have stops : Stops Exports.reader.read _ := stops_map pairs Table.ofList
  obtain ⟨space, core, value, parts, blank, spelled, lists⟩ := stands
  obtain ⟨fault, failed, early⟩ := stops _ _ part ⟨space, core, value, parts, blank, spelled, _, lists, rfl⟩
    (cut_before_end '}' start)
  refine ⟨.ofFault part fault, ?_, early⟩
  simp only [Exports.parse, readAll, String.toList_ofList, failed]

/-! ### Bytes -/

/-- The bytes of white space. -/
def blankBytes : List UInt8 := [0x20, 0x09, 0x0A, 0x0D]

/-- The byte at this place is a closing brace, and nothing but white space comes behind it. -/
def ClosesAt (bytes : ByteArray) (place : Nat) : Prop :=
  bytes.data.toList[place]? = some 0x7D ∧ ∀ byte ∈ bytes.data.toList.drop (place + 1), byte ∈ blankBytes

/-- Characters of one byte each are encoded one by one. -/
theorem encode_single {word : List Char} (single : ∀ c ∈ word, c.utf8Size = 1) :
    word.utf8Encode.data.toList = word.map Char.toUInt8 := by
  induction word with
  | nil => rfl
  | cons c rest ih =>
    obtain ⟨here, behind⟩ := List.forall_mem_cons.mp single
    rw [List.utf8Encode_cons, ByteArray.data_append, Array.toList_append, ih behind, List.utf8Encode_singleton,
      String.utf8EncodeChar_eq_singleton here]
    rfl

/-- Such characters are cut byte by byte. -/
theorem extract_single {word : List Char} (single : ∀ c ∈ word, c.utf8Size = 1) (n : Nat) :
    word.utf8Encode.extract 0 n = (word.take n).utf8Encode := by
  have part : ∀ c ∈ word.take n, c.utf8Size = 1 := fun c member => single c (List.mem_of_mem_take member)
  apply ByteArray.ext
  apply Array.toList_inj.mp
  rw [encode_single part, List.map_take, ← encode_single single]
  simp

theorem space_bytes {space : List Char} (blank : Space space) :
    ∀ c ∈ space, c.utf8Size = 1 ∧ c.toUInt8 ∈ blankBytes := by
  intro c member
  have one := blank c member
  simp only [List.mem_cons, List.not_mem_nil, or_false] at one
  rcases one with rfl | rfl | rfl | rfl <;> decide

/-- A brace and the space behind it take one byte each. -/
theorem closing_single {after : List Char} (blank : Space after) : ∀ c ∈ '}' :: after, c.utf8Size = 1 :=
  List.forall_mem_cons.mpr ⟨rfl, fun c member => (space_bytes blank c member).1⟩

/-- A text that ends with a brace and space has its one closing brace behind the bytes in front of it. -/
theorem closes_at_iff (front : List Char) {after : List Char} (blank : Space after) (place : Nat) :
    ClosesAt (front ++ '}' :: after).utf8Encode place ↔ place = front.utf8Encode.size := by
  have blanks : ∀ byte ∈ after.map Char.toUInt8, byte ∈ blankBytes :=
    List.forall_mem_map.mpr fun c member => (space_bytes blank c member).2
  have visible : (0x7D : UInt8) ∉ blankBytes := by decide
  have size : front.utf8Encode.size = front.utf8Encode.data.toList.length := by simp
  have brace : ('}' :: after).map Char.toUInt8 = 0x7D :: after.map Char.toUInt8 := rfl
  rw [ClosesAt, List.utf8Encode_append, ByteArray.data_append, Array.toList_append,
    encode_single (closing_single blank), brace, size]
  generalize front.utf8Encode.data.toList = before
  generalize after.map Char.toUInt8 = behind at blanks
  constructor
  · rintro ⟨brace, nothing⟩
    rcases Nat.lt_trichotomy place before.length with inside | same | beyond
    · rw [List.drop_append_of_le_length inside] at nothing
      exact absurd (nothing 0x7D (by simp)) visible
    · exact same
    · obtain ⟨more, rfl⟩ := Nat.exists_eq_add_of_lt beyond
      rw [List.getElem?_append_right (by omega), show before.length + more + 1 - before.length = more + 1 by omega,
        List.getElem?_cons_succ] at brace
      exact absurd (blanks 0x7D (List.mem_of_getElem? brace)) visible
  · rintro rfl
    have passed : (before ++ 0x7D :: behind).drop (before.length + 1) = behind := by
      rw [← List.drop_drop, List.drop_left, List.drop_succ_cons, List.drop_zero]
    rw [passed]
    exact ⟨by simp, blanks⟩

/-- The first bytes of an encoding, if they encode anything, encode the first characters. -/
theorem prefix_of_extract {chars : List Char} {n : Nat} (valid : (chars.utf8Encode.extract 0 n).IsValidUTF8) :
    ∃ part, part <+: chars ∧ chars.utf8Encode.extract 0 n = part.utf8Encode := by
  obtain ⟨part, same⟩ := valid
  refine ⟨part, ?_, same⟩
  apply List.isPrefix_of_utf8Encode_append_eq_utf8Encode (chars.utf8Encode.extract n chars.utf8Encode.size)
  rw [← same, ByteArray.extract_append_extract, Nat.zero_min, ByteArray.extract_zero_max_size]

/-! ### Files -/

/-- What is wrong with a file that holds the first bytes of a text and no more: they are no text, or one that ends
too early. -/
inductive Unfinished (file : Path) (bytes : ByteArray) : LookupFault → Prop where
  | noText (invalid : ¬ bytes.IsValidUTF8) : Unfinished file bytes (.unreadable file .notText)
  | endsEarly {report : Report} (valid : bytes.IsValidUTF8) (early : report.cause.category = .endOfText) :
      Unfinished file bytes (.malformed file report)

variable {files : FileReader} {stylesheet : Path} {front after : List Char} {pairs : List (String × String)} {n : Nat}

/-- Up to the brace, what is left of the bytes is no exports. -/
theorem cut_before (stands : Stands Lists (front ++ ['}']) pairs) (before : n ≤ front.utf8Encode.size)
    (stored : files stylesheet.sidecar = .ok ((front ++ '}' :: after).utf8Encode.extract 0 n)) :
    ∃ fault, files.exportsOf stylesheet = .error fault ∧
      Unfinished stylesheet.sidecar ((front ++ '}' :: after).utf8Encode.extract 0 n) fault := by
  have nothing : ('}' :: after).utf8Encode.extract (0 - front.utf8Encode.size) (n - front.utf8Encode.size) =
      ByteArray.empty := by
    rw [Nat.sub_eq_zero_of_le before, Nat.zero_sub, ByteArray.extract_same]
  rw [List.utf8Encode_append, ByteArray.extract_append, nothing, ByteArray.append_empty] at stored ⊢
  by_cases valid : (front.utf8Encode.extract 0 n).IsValidUTF8
  · obtain ⟨part, start, same⟩ := prefix_of_extract valid
    obtain ⟨report, refused, early⟩ := parse_cut stands start
    have holds : files stylesheet.sidecar = .ok (String.ofList part).toUTF8 := by
      rw [stored, same, String.toUTF8_eq_toByteArray, String.toByteArray_ofList]
    have read := FileReader.readText_eq_ok_iff.mpr holds
    exact ⟨.malformed stylesheet.sidecar report, by simp only [FileReader.exportsOf, read, refused],
      .endsEarly valid early⟩
  · have read := FileReader.readText_of_invalid stored valid
    exact ⟨.unreadable stylesheet.sidecar .notText, by simp only [FileReader.exportsOf, read], .noText valid⟩

/-- From the brace on, the bytes that are left out are those of space. -/
theorem cut_behind (stands : Stands Lists (front ++ ['}']) pairs) (blank : Space after)
    (behind : front.utf8Encode.size < n)
    (stored : files stylesheet.sidecar = .ok ((front ++ '}' :: after).utf8Encode.extract 0 n)) :
    files.exportsOf stylesheet = .ok (Table.ofList pairs) := by
  obtain ⟨more, rfl⟩ := Nat.exists_eq_add_of_lt behind
  have passed : front.utf8Encode.extract 0 (front.utf8Encode.size + more + 1) = front.utf8Encode := by
    rw [← Nat.max_eq_left behind.le, ByteArray.extract_zero_max_size]
  have whole : (front ++ '}' :: after).utf8Encode.extract 0 (front.utf8Encode.size + more + 1) =
      (front ++ '}' :: after.take more).utf8Encode := by
    rw [List.utf8Encode_append, ByteArray.extract_append, passed, Nat.zero_sub, Nat.add_assoc,
      Nat.add_sub_cancel_left, extract_single (closing_single blank), List.take_succ_cons, List.utf8Encode_append]
  have less : Space (after.take more) := fun c member => blank c (List.mem_of_mem_take member)
  have rendered : Renders (front ++ '}' :: after.take more) pairs := by
    simpa using renders_of_stands stands less
  refine exports_of_file_iff.mpr ⟨String.ofList (front ++ '}' :: after.take more), pairs, ?_, ?_, rfl⟩
  · rw [stored, whole, String.toUTF8_eq_toByteArray, String.toByteArray_ofList]
  · rwa [String.toList_ofList]

/-- Of the bytes of a file that exports are had from, one is the closing brace. A file that holds the first of
these bytes and no more has no exports as long as the brace is not among them: its bytes are no text, or the text
ends where there has to be more, and it is the file that is blamed. Once the brace is among them the exports are
the same. -/
theorem unfinished_before_brace {σ : Type} {files : FileReader} {request : Request} {memory : σ} {bytes : ByteArray}
    {exports : Exports} (stored : files request.stylesheet.sidecar = .ok bytes)
    (answered : (Supply.sidecar.provider files).answer request memory = (.ok exports, memory)) :
    ∃ place, (∀ other, ClosesAt bytes other ↔ other = place) ∧
      ∀ (later : FileReader) (asked : Request) (kept : σ) (n : Nat),
        later asked.stylesheet.sidecar = .ok (bytes.extract 0 n) →
          (n ≤ place → ∃ fault, (Supply.sidecar.provider later).answer asked kept = (.error fault, kept) ∧
            Unfinished asked.stylesheet.sidecar (bytes.extract 0 n) fault) ∧
          (place < n → (Supply.sidecar.provider later).answer asked kept = (.ok exports, kept)) := by
  have answer : files.exportsOf request.stylesheet = .ok exports := (Prod.mk.inj answered).1
  obtain ⟨text, pairs, holds, rendered, rfl⟩ := exports_of_file_iff.mp answer
  obtain ⟨front, after, shape, blank, stands⟩ := renders_closed rendered
  obtain rfl : bytes = (front ++ '}' :: after).utf8Encode := by
    rw [← shape, String.utf8Encode_toList]
    exact Except.ok.inj (stored.symm.trans holds)
  refine ⟨front.utf8Encode.size, closes_at_iff front blank, fun later asked kept n stored => ⟨?_, ?_⟩⟩
  · intro before
    obtain ⟨fault, refused, unfinished⟩ := cut_before stands before stored
    exact ⟨fault, Prod.ext refused rfl, unfinished⟩
  · intro behind
    exact Prod.ext (cut_behind stands blank behind stored) rfl

/-- A text of one class, whose name takes two bytes. -/
def accentText : String := "\x7b\"é\":\"x\"\x7d"

/-- A file system in which each file holds the first bytes of that text. -/
def accentFiles (n : Nat) : FileReader := fun _ => .ok (accentText.toUTF8.extract 0 n)

def accentRequest : Request := ⟨⟨"/app"⟩, ⟨none, none⟩, ⟨"/app/Card.module.css"⟩⟩

theorem accent_cut_through :
    accentFiles 10 ⟨"/app/Card.module.css.json"⟩ = .ok accentText.toUTF8 ∧
      (Supply.sidecar.provider (accentFiles 10)).answer accentRequest () = (.ok (.ofList [("é", "x")]), ()) ∧
      (Supply.sidecar.provider (accentFiles 3)).answer accentRequest () =
        (.error (.unreadable ⟨"/app/Card.module.css.json"⟩ .notText), ()) ∧
      ∃ report, (Supply.sidecar.provider (accentFiles 4)).answer accentRequest () =
        (.error (.malformed ⟨"/app/Card.module.css.json"⟩ report), ()) ∧ report.cause.category = .endOfText := by
  have stored : accentFiles 10 ⟨"/app/Card.module.css.json"⟩ = .ok accentText.toUTF8 := rfl
  have spelled := spells_single "é" (by simp) (.string (string_text_plain "x" (by simp)))
  have rendered : Renders accentText.toList [("é", "x")] := means_of_spells spelled
  have answer : (accentFiles 10).exportsOf ⟨"/app/Card.module.css"⟩ = .ok (.ofList [("é", "x")]) :=
    exports_of_file_iff.mpr ⟨accentText, _, stored, rendered, rfl⟩
  have answered : (Supply.sidecar.provider (accentFiles 10)).answer accentRequest () =
      (.ok (.ofList [("é", "x")]), ()) := Prod.ext answer rfl
  obtain ⟨place, closes, cut⟩ := @unfinished_before_brace Unit _ accentRequest _ _ _ stored answered
  obtain rfl : 9 = place := (closes 9).mp ⟨rfl, List.forall_mem_nil _⟩
  refine ⟨stored, answered, ?_, ?_⟩
  · obtain ⟨fault, refused, unfinished⟩ := (cut (accentFiles 3) accentRequest () 3 rfl).1 (by omega)
    cases unfinished with
    | noText => exact refused
    | endsEarly valid => exact absurd valid (by decide)
  · obtain ⟨fault, refused, unfinished⟩ := (cut (accentFiles 4) accentRequest () 4 rfl).1 (by omega)
    cases unfinished with
    | noText invalid => exact absurd ⟨['\x7b', '"', 'é'], rfl⟩ invalid
    | @endsEarly report _ early => exact ⟨report, refused, early⟩

end StyleInline.CutShort
