import StyleInline.Json.Literal
import StyleInline.Json.Number
import StyleInline.Text.Quoted

/-!
Values of another form than the one asked for. The message names what was found, so a scalar is read to
its end first and may turn out wrong in itself; of a list or an object only its first character is seen.
-/
namespace StyleInline.Json
open Text

/-- The letters that are left of a word. -/
def readWord (letters : List Char) (text : List Char) : Except Fault (List Char) :=
  match letters, text with
  | [], rest => .ok rest
  | _ :: _, [] => .error (.before .endInValue [])
  | letter :: more, c :: rest =>
    if c = letter then readWord more rest else .error (.into .noWord (c :: rest))

theorem length_le_of_readWord {letters text rest : List Char} (answered : readWord letters text = .ok rest) :
    rest.length ≤ text.length := by
  induction letters generalizing text with
  | nil =>
    cases answered
    exact Nat.le_refl _
  | cons letter more ih =>
    cases text with
    | nil => simp [readWord] at answered
    | cons c after =>
      simp only [readWord] at answered
      split at answered
      · exact Nat.le_succ_of_le (ih answered)
      · contradiction

/-- The fault of a text that begins with a value of another form than `expected`, or with none. -/
def mismatch (expected : String) (text : List Char) : Fault :=
  let found (what : String) (rest : List Char) := Fault.before (.mismatch what expected) rest
  let word (letters what : String) (rest : List Char) :=
    match readWord letters.toList rest with
    | .error fault => fault
    | .ok rest => found what rest
  let number (negative : Bool) (rest : List Char) :=
    match Number.read negative rest with
    | .error fault => fault
    | .ok (value, rest) => found value.describe rest
  match text with
  | [] => .into .endInValue []
  | 'n' :: rest => word "ull" "null" rest
  | 't' :: rest => word "rue" "boolean `true`" rest
  | 'f' :: rest => word "alse" "boolean `false`" rest
  | '-' :: rest => number true rest
  | '"' :: rest =>
    match readLiteral "" rest with
    | .error fault => fault
    | .ok (value, rest) => found ("string " ++ quoted value) rest
  | '[' :: _ => found "sequence" text
  | '{' :: _ => found "map" text
  | c :: _ => if c.isDigit then number false text else .into .noValue text

end StyleInline.Json
