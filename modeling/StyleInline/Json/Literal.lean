import StyleInline.Json.Reader

/-!
The text of a JSON string: characters as they are, escapes, and pairs of escapes for the characters
beyond U+FFFF. A control character has to be escaped, and half a pair stands for nothing.
-/
namespace StyleInline.Json
open Text

/-- The value of a hexadecimal digit, in either case. -/
def hexDigit? (c : Char) : Option Nat :=
  if '0' ≤ c ∧ c ≤ '9' then some (c.toNat - '0'.toNat)
  else if 'a' ≤ c ∧ c ≤ 'f' then some (c.toNat - 'a'.toNat + 10)
  else if 'A' ≤ c ∧ c ≤ 'F' then some (c.toNat - 'A'.toNat + 10)
  else none

/-- The value of four hexadecimal digits, the first one the most significant. -/
def hexUnit? (a b c d : Char) : Option Nat := do
  return (((← hexDigit? a) * 16 + (← hexDigit? b)) * 16 + (← hexDigit? c)) * 16 + (← hexDigit? d)

/-- The unit is the first half of a pair. -/
def isHighSurrogate (unit : Nat) : Bool := 0xD800 ≤ unit && unit < 0xDC00

/-- The unit is the second half of a pair. -/
def isLowSurrogate (unit : Nat) : Bool := 0xDC00 ≤ unit && unit < 0xE000

/-- The character that a pair of units stands for. -/
def pairedChar (high low : Nat) : Char :=
  Char.ofNat (0x10000 + (high - 0xD800) * 0x400 + (low - 0xDC00))

/-- Four hexadecimal digits. Four bytes are looked at whatever they are; a text that has fewer ends
within its string. -/
def readUnit (text : List Char) : Except Fault (Nat × List Char) :=
  match text with
  | a :: b :: c :: d :: rest =>
    match hexUnit? a b c d with
    | some unit => .ok (unit, rest)
    | none => .error ⟨.badEscape, byteCount text - 4⟩
  | few => .error (if byteCount few < 4 then ⟨.endInString, 0⟩ else ⟨.badEscape, byteCount few - 4⟩)

/-- The second half of a pair, which has to follow the first at once and as an escape of its own. -/
def readLowHalf (high : Nat) (text : List Char) : Except Fault (Char × List Char) :=
  match text with
  | [] => .error (.before .endInString [])
  | '\\' :: [] => .error (.before .endInString [])
  | '\\' :: 'u' :: digits =>
    match readUnit digits with
    | .error fault => .error fault
    | .ok (low, rest) =>
      if isLowSurrogate low then .ok (pairedChar high low, rest)
      else .error (.before .loneSurrogate rest)
  | '\\' :: other => .error (.into .unpairedEscape other)
  | other => .error (.into .unpairedEscape other)

/-- What a backslash begins, read from the character after it. -/
def readEscape (text : List Char) : Except Fault (Char × List Char) :=
  match text with
  | [] => .error (.before .endInString [])
  | '"' :: rest => .ok ('"', rest)
  | '\\' :: rest => .ok ('\\', rest)
  | '/' :: rest => .ok ('/', rest)
  | 'b' :: rest => .ok ('\x08', rest)
  | 'f' :: rest => .ok ('\x0c', rest)
  | 'n' :: rest => .ok ('\n', rest)
  | 'r' :: rest => .ok ('\r', rest)
  | 't' :: rest => .ok ('\t', rest)
  | 'u' :: digits =>
    match readUnit digits with
    | .error fault => .error fault
    | .ok (unit, rest) =>
      if isLowSurrogate unit then .error (.before .loneSurrogate rest)
      else if isHighSurrogate unit then readLowHalf unit rest
      else .ok (Char.ofNat unit, rest)
  | other => .error (.into .badEscape other)

theorem consumes_readUnit : Consumes readUnit := by
  intro text unit rest answered
  unfold readUnit at answered
  split at answered
  · split at answered
    · cases answered
      simp only [List.length_cons]
      omega
    · contradiction
  · contradiction

theorem consumes_readLowHalf (high : Nat) : Consumes (readLowHalf high) := by
  intro text c rest answered
  unfold readLowHalf at answered
  split at answered
  · contradiction
  · contradiction
  · rename_i digits
    split at answered
    · contradiction
    · rename_i low after reading
      have shorter := consumes_readUnit _ _ _ reading
      split at answered
      · obtain ⟨-, same⟩ := Prod.mk.inj (Except.ok.inj answered)
        simp only [List.length_cons, ← same]
        omega
      · contradiction
  · contradiction
  · contradiction

theorem consumes_readEscape : Consumes readEscape := by
  intro text c rest answered
  unfold readEscape at answered
  split at answered
  case h_10 digits =>
    split at answered
    · contradiction
    · rename_i unit after reading
      have shorter := consumes_readUnit _ _ _ reading
      split at answered
      · contradiction
      · split at answered
        · have shorterStill := consumes_readLowHalf _ _ _ _ answered
          simp only [List.length_cons]
          omega
        · obtain ⟨-, same⟩ := Prod.mk.inj (Except.ok.inj answered)
          simp only [List.length_cons, ← same]
          omega
  case h_1 => contradiction
  case h_11 => contradiction
  all_goals
    cases answered
    exact Nat.lt_succ_self _

/-- The rest of a string after its opening quote, with `seen` in front of what is still to come. -/
def readLiteral (seen : String) (text : List Char) : Except Fault (String × List Char) :=
  match text with
  | [] => .error (.before .endInString [])
  | '"' :: rest => .ok (seen, rest)
  | '\\' :: escape =>
    match reading : readEscape escape with
    | .error fault => .error fault
    | .ok (c, rest) =>
      have := consumes_readEscape _ _ _ reading
      readLiteral (seen.push c) rest
  | c :: rest =>
    if c < ' ' then .error (.before .controlCharacter rest)
    else readLiteral (seen.push c) rest
termination_by text.length

theorem consumes_readLiteral (seen : String) : Consumes (readLiteral seen) := by
  intro text value rest answered
  fun_induction readLiteral seen text with
  | case1 => contradiction
  | case2 seen rest =>
    cases answered
    exact Nat.lt_succ_self _
  | case3 => contradiction
  | case4 seen escape c after reading shorter ih =>
    have := ih answered
    simp only [List.length_cons]
    omega
  | case5 => contradiction
  | case6 seen c after _ _ _ ih =>
    have := ih answered
    simp only [List.length_cons]
    omega

end StyleInline.Json
