import Mathlib.Algebra.GroupWithZero.Nat
import Mathlib.Data.List.Basic

/-! The grammar of JSON texts, as a relation between what is written and the value that is meant. Nothing here
knows of a reader: words are lists of characters, put together from the words of their parts, and white
space belongs to whatever stands between its marks. One value has many spellings. -/
namespace StyleInline.Grammar

/-- What a text can mean. Members are kept as they are written, repeated names included, and so are the digits
of a number. -/
inductive Value where
  | null
  | boolean (holds : Bool)
  | number (digits : List Char)
  | string (text : String)
  | array (elements : List Value)
  | object (members : List (String × Value))

/-- Nothing but spaces, tabs and line ends. -/
def Space (text : List Char) : Prop :=
  ∀ c ∈ text, c ∈ [' ', '\t', '\n', '\r']

/-! ### Strings -/

/-- A hexadecimal digit, in either case. -/
def HexDigit (c : Char) (value : Nat) : Prop :=
  (c, value) ∈ ['0', '1', '2', '3', '4', '5', '6', '7', '8', '9', 'a', 'b', 'c', 'd', 'e', 'f'].zipIdx ∨
    (c, value) ∈ ['0', '1', '2', '3', '4', '5', '6', '7', '8', '9', 'A', 'B', 'C', 'D', 'E', 'F'].zipIdx

/-- Four digits, the first one the most significant. -/
inductive HexUnit : List Char → Nat → Prop where
  | digits {a b c d : Char} {k l m n : Nat} (first : HexDigit a k) (second : HexDigit b l)
      (third : HexDigit c m) (fourth : HexDigit d n) :
      HexUnit [a, b, c, d] (k * 16 ^ 3 + l * 16 ^ 2 + m * 16 + n)

/-- Escapes of one letter, and what they stand for. -/
def shortEscapes : List (Char × Char) :=
  [('"', '"'), ('\\', '\\'), ('/', '/'), ('b', '\x08'), ('f', '\x0c'), ('n', '\n'), ('r', '\r'), ('t', '\t')]

/-- What may follow a backslash: a letter, the four digits of a character, or those of the two halves of one
beyond U+FFFF. A half by itself is the number of no character. -/
inductive Escape : List Char → Char → Prop where
  | short {letter c : Char} (listed : (letter, c) ∈ shortEscapes) : Escape [letter] c
  | unit {digits : List Char} {c : Char} (number : HexUnit digits c.toNat) : Escape ('u' :: digits) c
  | pair {first second : List Char} {high low : Nat} {c : Char} (leads : HexUnit first high)
      (trails : HexUnit second low) (isHigh : 0xD800 ≤ high ∧ high < 0xDC00)
      (isLow : 0xDC00 ≤ low ∧ low < 0xE000)
      (number : c.toNat = 0x10000 + (high - 0xD800) * 0x400 + (low - 0xDC00)) :
      Escape ('u' :: first ++ '\\' :: 'u' :: second) c

/-- What stands between the quotes of a string, and the characters meant. Quotes, backslashes and controls
have to be escaped, and any character may be. -/
inductive Written : List Char → List Char → Prop where
  | nil : Written [] []
  | plain {c : Char} {text chars : List Char} (visible : ' ' ≤ c) (noQuote : c ≠ '"') (noBackslash : c ≠ '\\')
      (rest : Written text chars) : Written (c :: text) (c :: chars)
  | escaped {word text chars : List Char} {c : Char} (one : Escape word c) (rest : Written text chars) :
      Written ('\\' :: word ++ text) (c :: chars)

/-- A string with its quotes. -/
def StringText (word : List Char) (text : String) : Prop :=
  ∃ body, word = '"' :: body ++ ['"'] ∧ Written body text.toList

/-! ### Numbers -/

/-- At least one digit and nothing else. -/
def Digits (text : List Char) : Prop :=
  text ≠ [] ∧ ∀ c ∈ text, c.isDigit = true

/-- A sign, a whole part without leading zeros, a fraction and an exponent; all but the whole part may be
left out. -/
def NumberText (word : List Char) : Prop :=
  ∃ sign whole fraction exponent, word = sign ++ whole ++ fraction ++ exponent ∧
    (sign = [] ∨ sign = ['-']) ∧
    (whole = ['0'] ∨ Digits whole ∧ whole.head? ≠ some '0') ∧
    (fraction = [] ∨ ∃ digits, fraction = '.' :: digits ∧ Digits digits) ∧
    (exponent = [] ∨ ∃ letter mark digits, exponent = letter :: mark ++ digits ∧
      (letter = 'e' ∨ letter = 'E') ∧ (mark = [] ∨ mark = ['+'] ∨ mark = ['-']) ∧ Digits digits)

/-! ### Lists and objects -/

variable {α : Type}

/-- A word with white space around it. -/
inductive Padded (R : List Char → α → Prop) : List Char → α → Prop where
  | around {before word after : List Char} {a : α} (left : Space before) (spelled : R word a)
      (right : Space after) : Padded R (before ++ word ++ after) a

/-- One word or more with commas between them. -/
inductive Separated (R : List Char → α → Prop) : List Char → List α → Prop where
  | last {word : List Char} {a : α} (spelled : R word a) : Separated R word [a]
  | comma {word rest : List Char} {a : α} {others : List α} (spelled : R word a)
      (more : Separated R rest others) : Separated R (word ++ ',' :: rest) (a :: others)

/-- What follows an opening bracket, up to the closing one and with it. -/
inductive Inside (closing : Char) (R : List Char → α → Prop) : List Char → List α → Prop where
  | empty {space : List Char} (blank : Space space) : Inside closing R (space ++ [closing]) []
  | filled {body : List Char} {all : List α} (listed : Separated R body all) :
      Inside closing R (body ++ [closing]) all

/-- A name and a value with a colon between them. -/
inductive Member (R : List Char → Value → Prop) : List Char → String × Value → Prop where
  | colon {name before after word : List Char} {key : String} {value : Value} (named : StringText name key)
      (left : Space before) (right : Space after) (spelled : R word value) :
      Member R (name ++ before ++ ':' :: (after ++ word)) (key, value)

/-- The words that mean a value. -/
inductive Spells : List Char → Value → Prop where
  | null : Spells ['n', 'u', 'l', 'l'] .null
  | yes : Spells ['t', 'r', 'u', 'e'] (.boolean true)
  | no : Spells ['f', 'a', 'l', 's', 'e'] (.boolean false)
  | number {word : List Char} (numeral : NumberText word) : Spells word (.number word)
  | string {word : List Char} {text : String} (quoted : StringText word text) : Spells word (.string text)
  | array {word : List Char} {elements : List Value} (listed : Inside ']' (Padded Spells) word elements) :
      Spells ('[' :: word) (.array elements)
  | object {word : List Char} {members : List (String × Value)}
      (listed : Inside '}' (Padded (Member Spells)) word members) : Spells ('{' :: word) (.object members)

/-- The text means the value: it spells it, with nothing but white space around. -/
def Means (text : List Char) (value : Value) : Prop :=
  Padded Spells text value

/-! ### Where space and commas stand

A reader meets the space behind a word together with the mark that follows it. The same words are therefore
taken apart a second time, each with what stands in front of it. -/

/-- What stands before a word of a list: space, and a comma within it unless the word is the first. -/
inductive Lead : Bool → List Char → Prop where
  | first {space : List Char} (blank : Space space) : Lead true space
  | later {before after : List Char} (left : Space before) (right : Space after) :
      Lead false (before ++ ',' :: after)

/-- The rest of a list, up to the closing bracket and with it. The flag holds before the first word. -/
inductive Listing (closing : Char) (R : List Char → α → Prop) : Bool → List Char → List α → Prop where
  | close {first : Bool} {space : List Char} (blank : Space space) :
      Listing closing R first (space ++ [closing]) []
  | word {first : Bool} {gap core tail : List Char} {a : α} {others : List α} (lead : Lead first gap)
      (spelled : R core a) (rest : Listing closing R false tail others) :
      Listing closing R first (gap ++ core ++ tail) (a :: others)

theorem space_nil : Space [] := fun _ member => (List.not_mem_nil member).elim

theorem space_append {first second : List Char} (here : Space first) (there : Space second) :
    Space (first ++ second) := by
  intro c member
  rcases List.mem_append.mp member with member | member
  · exact here c member
  · exact there c member

theorem lead_append {first : Bool} {gap space : List Char} (lead : Lead first gap) (blank : Space space) :
    Lead first (gap ++ space) := by
  cases lead with
  | first before => exact .first (space_append before blank)
  | later before after =>
    rw [List.append_assoc, List.cons_append]
    exact .later before (space_append after blank)

/-- Words that may begin a list may also go on with one, after a comma. -/
theorem listing_after_comma {closing : Char} {R : List Char → α → Prop} {space word : List Char} {a : α}
    {others : List α} (blank : Space space) (listing : Listing closing R true word (a :: others)) :
    Listing closing R false (space ++ ',' :: word) (a :: others) := by
  cases listing with
  | @word _ gap core tail _ _ lead spelled rest =>
    cases lead with
    | first after =>
      have further := Listing.word (.later blank after) spelled rest
      simpa using further

theorem listing_of_separated (closing : Char) {R : List Char → α → Prop} {body : List Char} {all : List α}
    (listed : Separated (Padded R) body all) :
    ∃ a others, all = a :: others ∧ Listing closing R true (body ++ [closing]) all := by
  induction listed with
  | last padded =>
    obtain @⟨before, core, after, _, left, spelled, right⟩ := padded
    have ending : Listing closing R false (after ++ [closing]) [] := .close right
    have listing := Listing.word (.first left) spelled ending
    exact ⟨_, [], rfl, by simpa using listing⟩
  | comma padded more ih =>
    obtain @⟨before, core, after, _, left, spelled, right⟩ := padded
    obtain ⟨next, others, rfl, rest⟩ := ih
    have listing := Listing.word (.first left) spelled (listing_after_comma right rest)
    exact ⟨_, _, rfl, by simpa using listing⟩

theorem separated_of_listing {closing : Char} {R : List Char → α → Prop} {word : List Char} {a : α}
    {others : List α} (listing : Listing closing R true word (a :: others)) :
    ∃ body, word = body ++ [closing] ∧ Separated (Padded R) body (a :: others) := by
  induction others generalizing word a with
  | nil =>
    cases listing with
    | @word _ gap core _ _ _ lead spelled rest =>
      cases lead with
      | first left =>
        cases rest with
        | @close _ after right =>
          exact ⟨gap ++ core ++ after, by simp, .last (.around left spelled right)⟩
  | cons next others ih =>
    cases listing with
    | @word _ gap core tail _ _ lead spelled rest =>
      cases lead with
      | first left =>
        cases rest with
        | word comma more rest =>
          cases comma with
          | @later before _ right space =>
            obtain ⟨body, shape, listed⟩ := ih (.word (.first space) more rest)
            have whole := Separated.comma (Padded.around left spelled right) listed
            refine ⟨gap ++ core ++ before ++ ',' :: body, ?_, whole⟩
            simp only [List.append_assoc, List.cons_append] at shape ⊢
            rw [shape]

/-- Both ways of taking a list apart come to the same. -/
theorem inside_iff_listing {closing : Char} {R : List Char → α → Prop} {word : List Char} {all : List α} :
    Inside closing (Padded R) word all ↔ Listing closing R true word all := by
  constructor
  · intro inside
    cases inside with
    | empty blank => exact .close blank
    | filled listed =>
      obtain ⟨_, _, _, listing⟩ := listing_of_separated closing listed
      exact listing
  · intro listing
    cases all with
    | nil =>
      cases listing with
      | close blank => exact .empty blank
    | cons a others =>
      obtain ⟨body, rfl, listed⟩ := separated_of_listing listing
      exact .filled listed

/-! ### Words that stand for other things -/

variable {β : Type} {R : List Char → α → Prop} {S : List Char → β → Prop} {T : α → β → Prop}

/-- What the words of a list stand for may be read otherwise, word by word. -/
theorem separated_transport (step : ∀ word a b, R word a → T a b → S word b) {body : List Char} {all : List α}
    {others : List β} (listed : Separated R body all) (related : List.Forall₂ T all others) :
    Separated S body others := by
  induction listed generalizing others with
  | last spelled =>
    cases related with
    | cons here none =>
      cases none
      exact .last (step _ _ _ spelled here)
  | comma spelled _ ih =>
    cases related with
    | cons here behind => exact .comma (step _ _ _ spelled here) (ih behind)

theorem inside_transport (step : ∀ word a b, R word a → T a b → S word b) {closing : Char} {word : List Char}
    {all : List α} {others : List β} (inside : Inside closing R word all) (related : List.Forall₂ T all others) :
    Inside closing S word others := by
  cases inside with
  | empty blank =>
    cases related
    exact .empty blank
  | filled listed => exact .filled (separated_transport step listed related)

/-! ### Every string is written somehow -/

theorem hex_digit_exists (value : Nat) (small : value < 16) : ∃ c, HexDigit c value := by
  refine ⟨"0123456789abcdef".toList.get ⟨value, small⟩, .inl ?_⟩
  revert value
  decide

theorem hex_unit_exists (unit : Nat) (small : unit < 16 ^ 4) : ∃ digits, HexUnit digits unit := by
  obtain ⟨a, first⟩ := hex_digit_exists (unit / 16 ^ 3) (by omega)
  obtain ⟨b, second⟩ := hex_digit_exists (unit / 16 ^ 2 % 16) (by omega)
  obtain ⟨c, third⟩ := hex_digit_exists (unit / 16 % 16) (by omega)
  obtain ⟨d, fourth⟩ := hex_digit_exists (unit % 16) (by omega)
  have number := HexUnit.digits first second third fourth
  have whole : unit / 16 ^ 3 * 16 ^ 3 + unit / 16 ^ 2 % 16 * 16 ^ 2 + unit / 16 % 16 * 16 + unit % 16 = unit := by
    omega
  rw [whole] at number
  exact ⟨_, number⟩

/-- What may not stand for itself can be escaped. -/
theorem written_exists (chars : List Char) : ∃ body, Written body chars := by
  induction chars with
  | nil => exact ⟨[], .nil⟩
  | cons c others ih =>
    obtain ⟨body, written⟩ := ih
    by_cases marked : c = '"' ∨ c = '\\'
    · have listed : (c, c) ∈ shortEscapes := by
        rcases marked with rfl | rfl <;> decide
      exact ⟨_, .escaped (.short listed) written⟩
    · rw [not_or] at marked
      by_cases hidden : c < ' '
      · have small : c.toNat < 32 := hidden
        obtain ⟨digits, number⟩ := hex_unit_exists c.toNat (by omega)
        exact ⟨_, .escaped (.unit number) written⟩
      · exact ⟨c :: body, .plain (Char.not_lt.mp hidden) marked.1 marked.2 written⟩

/-- Characters that may stand for themselves are written with just them. -/
theorem written_plain {chars : List Char} (plain : ∀ c ∈ chars, ' ' ≤ c ∧ c ≠ '"' ∧ c ≠ '\\') :
    Written chars chars := by
  induction chars with
  | nil => exact .nil
  | cons c others ih =>
    obtain ⟨here, behind⟩ := List.forall_mem_cons.mp plain
    exact .plain here.1 here.2.1 here.2.2 (ih behind)

theorem string_text_plain (text : String) (plain : ∀ c ∈ text.toList, ' ' ≤ c ∧ c ≠ '"' ∧ c ≠ '\\') :
    StringText ('"' :: text.toList ++ ['"']) text :=
  ⟨text.toList, rfl, written_plain plain⟩

theorem string_text_exists (text : String) : ∃ word, StringText word text := by
  obtain ⟨body, written⟩ := written_exists text.toList
  exact ⟨_, body, rfl, written⟩

/-! ### What a value's words look like -/

theorem spells_null {word : List Char} (spelled : Spells word .null) : word = ['n', 'u', 'l', 'l'] := by
  cases spelled
  rfl

theorem spells_string {word : List Char} {text : String} (spelled : Spells word (.string text)) :
    StringText word text := by
  cases spelled with
  | string quoted => exact quoted

theorem spells_array {word : List Char} {elements : List Value} (spelled : Spells word (.array elements)) :
    ∃ inner, word = '[' :: inner ∧ Listing ']' Spells true inner elements := by
  cases spelled with
  | array listed => exact ⟨_, rfl, inside_iff_listing.mp listed⟩

theorem spells_object {word : List Char} {members : List (String × Value)}
    (spelled : Spells word (.object members)) :
    ∃ inner, word = '{' :: inner ∧ Listing '}' (Member Spells) true inner members := by
  cases spelled with
  | object listed => exact ⟨_, rfl, inside_iff_listing.mp listed⟩

theorem means_of_spells {word : List Char} {value : Value} (spelled : Spells word value) : Means word value := by
  have padded := Padded.around space_nil spelled space_nil
  simpa [Means] using padded

/-- An object of one member, without space. -/
theorem spells_single (key : String) (plain : ∀ c ∈ key.toList, ' ' ≤ c ∧ c ≠ '"' ∧ c ≠ '\\') {word : List Char}
    {value : Value} (spelled : Spells word value) :
    Spells ('{' :: ('"' :: key.toList ++ ['"'] ++ ':' :: word ++ ['}'])) (.object [(key, value)]) := by
  have member := Member.colon (string_text_plain key plain) space_nil space_nil spelled
  have object := Spells.object (inside_iff_listing.mpr (.word (.first space_nil) member (.close space_nil)))
  simpa using object

/-- The first character of a value tells its kind. -/
theorem spells_head {word : List Char} {value : Value} (spelled : Spells word value) :
    ∃ c tail, word = c :: tail ∧ (c ∈ ['n', 't', 'f', '"', '[', '{', '-'] ∨ c.isDigit = true) := by
  cases spelled with
  | number numeral =>
    obtain ⟨sign, whole, fraction, exponent, rfl, signed, digits, -, -⟩ := numeral
    have first : ∃ c more, whole = c :: more ∧ c.isDigit = true := by
      rcases digits with rfl | ⟨⟨nonempty, all⟩, -⟩
      · exact ⟨'0', [], rfl, rfl⟩
      · obtain ⟨c, more, rfl⟩ := List.exists_cons_of_ne_nil nonempty
        exact ⟨c, more, rfl, all c List.mem_cons_self⟩
    obtain ⟨c, more, rfl, digit⟩ := first
    rcases signed with rfl | rfl
    · exact ⟨c, more ++ fraction ++ exponent, by simp, .inr digit⟩
    · exact ⟨'-', c :: more ++ fraction ++ exponent, by simp, .inl (by decide)⟩
  | string quoted =>
    obtain ⟨body, rfl, -⟩ := quoted
    exact ⟨'"', body ++ ['"'], by simp, .inl (by decide)⟩
  | _ => exact ⟨_, _, rfl, .inl (by decide)⟩

end StyleInline.Grammar
