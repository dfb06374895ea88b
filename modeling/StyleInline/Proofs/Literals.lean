import StyleInline.Json.Value
import StyleInline.Proofs.Reading

/-! The reader of strings against the grammar of strings. A literal is read character by character, with what
has been seen in front, so the statement that is proved speaks of the characters still to come. Escapes are
read as letters, as numbers and as halves of numbers; halves that do not make up a character are nowhere in the
grammar, and the reader refuses them. -/
namespace StyleInline.Literals
open Json Grammar Reading

/-! ### Numbers of four digits -/

/-- Every digit comes before the letter after `f`. -/
theorem hex_digit_below {c : Char} {value : Nat} (answered : hexDigit? c = some value) : c.toNat < 103 := by
  have upper (high : Char) (bound : high.toNat ≤ 102) (within : c ≤ high) : c.toNat < 103 := by
    have within : c.toNat ≤ high.toNat := within
    omega
  unfold hexDigit? at answered
  split at answered
  · rename_i digit
    exact upper '9' (by decide) digit.2
  · split at answered
    · rename_i small
      exact upper 'f' (by decide) small.2
    · split at answered
      · rename_i capital
        exact upper 'F' (by decide) capital.2
      · contradiction

theorem hex_digit_iff (c : Char) (value : Nat) : hexDigit? c = some value ↔ HexDigit c value := by
  constructor
  · intro answered
    -- The characters are looked through by their numbers, of which only these few can answer.
    have every : ∀ n < 103, ∀ v ∈ hexDigit? (Char.ofNat n), HexDigit (Char.ofNat n) v := by
      unfold HexDigit
      decide
    have digit := every c.toNat (hex_digit_below answered) value
    rw [Char.ofNat_toNat] at digit
    exact digit answered
  · unfold HexDigit
    rintro (small | capital)
    · have every : ∀ pair ∈ "0123456789abcdef".toList.zipIdx, hexDigit? pair.1 = some pair.2 := by decide
      exact every _ small
    · have every : ∀ pair ∈ "0123456789ABCDEF".toList.zipIdx, hexDigit? pair.1 = some pair.2 := by decide
      exact every _ capital

theorem hex_unit_iff (a b c d : Char) (unit : Nat) : hexUnit? a b c d = some unit ↔ HexUnit [a, b, c, d] unit := by
  constructor
  · intro answered
    simp only [hexUnit?, bind, Option.bind_eq_some_iff, pure, Option.some.injEq, hex_digit_iff] at answered
    obtain ⟨k, first, l, second, m, third, n, fourth, rfl⟩ := answered
    have unit := HexUnit.digits first second third fourth
    have same : k * 16 ^ 3 + l * 16 ^ 2 + m * 16 + n = ((k * 16 + l) * 16 + m) * 16 + n := by omega
    rwa [same] at unit
  · rintro ⟨first, second, third, fourth⟩
    rw [← hex_digit_iff] at first second third fourth
    simp only [hexUnit?, first, second, third, fourth, bind, Option.bind, pure, Option.some.injEq]
    omega

theorem exactly_read_unit : Exactly readUnit HexUnit := by
  intro text unit rest
  constructor
  · intro answered
    unfold readUnit at answered
    split at answered
    · rename_i a b c d after
      split at answered
      · rename_i value found
        cases answered
        exact ⟨[a, b, c, d], rfl, (hex_unit_iff a b c d _).mp found⟩
      · contradiction
    · contradiction
  · rintro ⟨word, rfl, unit⟩
    obtain @⟨a, b, c, d, _, _, _, _, first, second, third, fourth⟩ := unit
    have found := (hex_unit_iff a b c d _).mpr (.digits first second third fourth)
    simp [readUnit, found]

/-! ### Escapes -/

/-- A number that a character can have is the number of one. -/
theorem of_nat_eq_iff {number : Nat} (valid : number.isValidChar) (c : Char) :
    Char.ofNat number = c ↔ c.toNat = number := by
  constructor
  · rintro rfl
    rw [Char.ofNat, dif_pos valid]
    rfl
  · rintro rfl
    exact Char.ofNat_toNat c

theorem low_surrogate_iff (unit : Nat) : isLowSurrogate unit = true ↔ 0xDC00 ≤ unit ∧ unit < 0xE000 := by
  simp only [isLowSurrogate, Bool.and_eq_true, decide_eq_true_eq]

theorem high_surrogate_iff (unit : Nat) : isHighSurrogate unit = true ↔ 0xD800 ≤ unit ∧ unit < 0xDC00 := by
  simp only [isHighSurrogate, Bool.and_eq_true, decide_eq_true_eq]

/-- The number of a character is not half of a pair. -/
theorem no_surrogate (c : Char) : isLowSurrogate c.toNat = false ∧ isHighSurrogate c.toNat = false := by
  have valid : c.toNat.isValidChar := c.valid
  simp only [Nat.isValidChar, isLowSurrogate, isHighSurrogate] at *
  constructor
  · simp; omega
  · simp; omega

theorem hex_unit_below {word : List Char} {unit : Nat} (number : HexUnit word unit) : unit < 0x10000 := by
  have digit {c : Char} {value : Nat} (shown : HexDigit c value) : value < 16 := by
    rcases shown with member | member
    · exact (List.mem_zipIdx member).2.1
    · exact (List.mem_zipIdx member).2.1
  obtain ⟨first, second, third, fourth⟩ := number
  have := digit first
  have := digit second
  have := digit third
  have := digit fourth
  omega

/-- The second half is read together with its backslash, and both halves make one character. -/
theorem exactly_read_low_half {high : Nat} (isHigh : 0xD800 ≤ high ∧ high < 0xDC00) :
    Exactly (readLowHalf high) (fun word c => ∃ second low, word = '\\' :: 'u' :: second ∧ HexUnit second low ∧
      (0xDC00 ≤ low ∧ low < 0xE000) ∧ c.toNat = 0x10000 + (high - 0xD800) * 0x400 + (low - 0xDC00)) := by
  intro text c rest
  have paired (low : Nat) (isLow : 0xDC00 ≤ low ∧ low < 0xE000) : pairedChar high low = c ↔
      c.toNat = 0x10000 + (high - 0xD800) * 0x400 + (low - 0xDC00) := by
    refine of_nat_eq_iff ?_ c
    simp only [Nat.isValidChar]
    omega
  constructor
  · intro answered
    unfold readLowHalf at answered
    split at answered
    · contradiction
    · contradiction
    · rename_i digits
      split at answered
      · contradiction
      · rename_i low after reading
        split at answered
        · rename_i isLow
          simp only [Except.ok.injEq, Prod.mk.injEq] at answered
          obtain ⟨made, rfl⟩ := answered
          rw [low_surrogate_iff] at isLow
          obtain ⟨second, rfl, unit⟩ := (exactly_read_unit _ _ _).mp reading
          exact ⟨_, rfl, second, low, rfl, unit, isLow, (paired low isLow).mp made⟩
        · contradiction
    · contradiction
    · contradiction
  · rintro ⟨_, rfl, second, low, rfl, unit, isLow, number⟩
    have reading := (exactly_read_unit (second ++ rest) low rest).mpr ⟨second, rfl, unit⟩
    simp [readLowHalf, reading, (low_surrogate_iff low).mpr isLow, (paired low isLow).mpr number]

/-- An escape of one letter is one of the table. -/
theorem read_short_escape {letter c : Char} (listed : (letter, c) ∈ shortEscapes) (rest : List Char) :
    readEscape (letter :: rest) = .ok (c, rest) := by
  simp only [shortEscapes, List.mem_cons, Prod.mk.injEq, List.not_mem_nil, or_false] at listed
  rcases listed with ⟨rfl, rfl⟩ | ⟨rfl, rfl⟩ | ⟨rfl, rfl⟩ | ⟨rfl, rfl⟩ | ⟨rfl, rfl⟩ | ⟨rfl, rfl⟩ | ⟨rfl, rfl⟩ |
    ⟨rfl, rfl⟩
  all_goals rfl

/-- Behind the first half of a pair the second one is looked for. -/
theorem read_high_half {digits : List Char} {high : Nat} (number : HexUnit digits high)
    (isHigh : 0xD800 ≤ high ∧ high < 0xDC00) (rest : List Char) :
    readEscape ('u' :: (digits ++ rest)) = readLowHalf high rest := by
  have reading := (exactly_read_unit (digits ++ rest) high rest).mpr ⟨digits, rfl, number⟩
  have notLow : ¬ isLowSurrogate high = true := by
    rw [low_surrogate_iff]
    omega
  simp [readEscape, reading, notLow, (high_surrogate_iff high).mpr isHigh]

theorem escape_of_read {text rest : List Char} {c : Char} (answered : readEscape text = .ok (c, rest)) :
    ∃ word, text = word ++ rest ∧ Escape word c := by
  unfold readEscape at answered
  split at answered
  case h_10 digits =>
    split at answered
    · contradiction
    · rename_i unit after reading
      obtain ⟨first, rfl, number⟩ := (exactly_read_unit _ _ _).mp reading
      split at answered
      · contradiction
      · rename_i notLow
        split at answered
        · rename_i isHigh
          rw [high_surrogate_iff] at isHigh
          obtain ⟨_, rfl, second, low, rfl, trails, isLow, made⟩ :=
            (exactly_read_low_half isHigh _ _ _).mp answered
          exact ⟨_, by simp, .pair number trails isHigh isLow made⟩
        · rename_i notHigh
          simp only [Except.ok.injEq, Prod.mk.injEq] at answered
          obtain ⟨made, rfl⟩ := answered
          have small := hex_unit_below number
          have valid : unit.isValidChar := by
            rw [high_surrogate_iff] at notHigh
            rw [low_surrogate_iff] at notLow
            simp only [Nat.isValidChar]
            omega
          exact ⟨'u' :: first, rfl, .unit (((of_nat_eq_iff valid c).mp made).symm ▸ number)⟩
  case h_1 => contradiction
  case h_11 => contradiction
  all_goals
    cases answered
    exact ⟨[_], rfl, .short (by decide)⟩

theorem exactly_read_escape : Exactly readEscape Escape := by
  intro text c rest
  constructor
  · exact escape_of_read
  · rintro ⟨word, rfl, escape⟩
    cases escape with
    | short listed => exact read_short_escape listed rest
    | @unit digits _ number =>
      have reading := (exactly_read_unit (digits ++ rest) c.toNat rest).mpr ⟨digits, rfl, number⟩
      simp [readEscape, reading, no_surrogate c]
    | @pair first second high low _ leads trails isHigh isLow number =>
      have half := (exactly_read_low_half isHigh ('\\' :: 'u' :: (second ++ rest)) c rest).mpr
        ⟨_, rfl, second, low, rfl, trails, isLow, number⟩
      have behind := read_high_half leads isHigh ('\\' :: 'u' :: (second ++ rest))
      simpa [behind] using half

/-! ### Strings -/

/-- A character that stands for itself is passed. -/
theorem read_literal_plain {c : Char} (visible : ' ' ≤ c) (noQuote : c ≠ '"') (noBackslash : c ≠ '\\')
    (seen : String) (rest : List Char) : readLiteral seen (c :: rest) = readLiteral (seen.push c) rest := by
  rw [readLiteral, if_neg (Char.not_lt.mpr visible)]
  · exact noQuote
  · exact noBackslash

/-- The loop keeps the equation of its match, so an escape cannot be rewritten in place. -/
theorem read_literal_escape {escape rest : List Char} {c : Char} (reading : readEscape escape = .ok (c, rest))
    (seen : String) : readLiteral seen ('\\' :: escape) = readLiteral (seen.push c) rest := by
  rw [readLiteral]
  split
  · rename_i fault refused
    cases reading.symm.trans refused
  · rename_i found after answered
    cases reading.symm.trans answered
    rfl

theorem read_literal_stopped {escape : List Char} {fault : Fault} (stopped : readEscape escape = .error fault)
    (seen : String) : readLiteral seen ('\\' :: escape) = .error fault := by
  rw [readLiteral]
  split
  · rename_i other refused
    cases stopped.symm.trans refused
    rfl
  · rename_i answered
    cases stopped.symm.trans answered

/-- The rest of a literal, up to its quote. -/
theorem read_literal_iff (seen : String) (text : List Char) (value : String) (rest : List Char) :
    readLiteral seen text = .ok (value, rest) ↔
      ∃ body chars, text = body ++ '"' :: rest ∧ Written body chars ∧ value.toList = seen.toList ++ chars := by
  constructor
  · intro answered
    fun_induction readLiteral seen text with
    | case1 => contradiction
    | case2 seen after =>
      cases answered
      exact ⟨[], [], rfl, .nil, by simp⟩
    | case3 => contradiction
    | case4 seen escape c after reading shorter ih =>
      obtain ⟨body, chars, rfl, written, whole⟩ := ih answered
      obtain ⟨word, rfl, one⟩ := escape_of_read reading
      exact ⟨_, _, by simp, .escaped one written, by simpa using whole⟩
    | case5 => contradiction
    | case6 seen c after noQuote noBackslash visible ih =>
      obtain ⟨body, chars, rfl, written, whole⟩ := ih answered
      have plain := Written.plain (Char.not_lt.mp visible) noQuote noBackslash written
      exact ⟨c :: body, c :: chars, rfl, plain, by simpa using whole⟩
  · rintro ⟨body, chars, rfl, written, whole⟩
    induction written generalizing seen with
    | nil =>
      have same : value = seen := String.toList_inj.mp (by simpa using whole)
      simp [readLiteral, same]
    | @plain c text chars visible noQuote noBackslash rest ih =>
      rw [List.cons_append, read_literal_plain visible noQuote noBackslash]
      exact ih (seen.push c) (by simpa using whole)
    | @escaped word text chars c one _ ih =>
      have reading := (exactly_read_escape (word ++ (text ++ '"' :: rest)) c _).mpr ⟨word, rfl, one⟩
      rw [List.cons_append, List.cons_append, List.append_assoc, read_literal_escape reading]
      exact ih (seen.push c) (by simpa using whole)

/-- A string from after its opening quote. -/
theorem exactly_read_literal : Exactly (readLiteral "") (fun word text => StringText ('"' :: word) text) := by
  intro text value rest
  rw [read_literal_iff]
  constructor
  · rintro ⟨body, chars, rfl, written, whole⟩
    rw [String.toList_empty, List.nil_append] at whole
    exact ⟨body ++ ['"'], by simp, body, rfl, whole ▸ written⟩
  · rintro ⟨word, rfl, body, shape, written⟩
    rw [List.cons_append, List.cons.injEq] at shape
    exact ⟨body, value.toList, by simp [shape.2], written, by simp⟩

/-- A string with the space in front of it. -/
theorem read_string_iff (expected : String) (text : List Char) (value : String) (rest : List Char) :
    readString expected text = .ok (value, rest) ↔
      ∃ space word, text = space ++ word ++ rest ∧ Space space ∧ StringText word value := by
  constructor
  · intro answered
    unfold readString at answered
    split at answered
    · contradiction
    · rename_i after start
      obtain ⟨space, blank, rfl⟩ := space_skipped start
      obtain ⟨word, rfl, quoted⟩ := (exactly_read_literal _ _ _).mp answered
      exact ⟨space, '"' :: word, by simp, blank, quoted⟩
    · contradiction
  · rintro ⟨space, word, rfl, blank, quoted⟩
    obtain ⟨body, rfl, written⟩ := quoted
    have start := skip_space_append (c := '"') (body ++ ['"'] ++ rest) blank rfl
    have reading := (exactly_read_literal (body ++ ['"'] ++ rest) value rest).mpr
      ⟨body ++ ['"'], rfl, body, rfl, written⟩
    rw [List.append_assoc, List.cons_append, List.cons_append]
    simp only [readString, start, reading]

theorem reads_string (expected : String) : Reads (string expected).read (fun value text => value = .string text) := by
  intro text value rest
  refine (read_string_iff expected text value rest).trans ?_
  constructor
  · rintro ⟨space, word, rfl, blank, quoted⟩
    exact ⟨space ++ word, rfl, space, word, _, rfl, blank, .string quoted, rfl⟩
  · rintro ⟨_, rfl, space, word, _, rfl, blank, spelled, rfl⟩
    exact ⟨space, word, rfl, blank, spells_string spelled⟩

end StyleInline.Literals
