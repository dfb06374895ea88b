import StyleInline.Json.Member
import StyleInline.Json.Mismatch

/-!
Strings, and objects whose members all have values of one form.
-/
namespace StyleInline.Json

/-- A string value; `expected` says in words what was asked for. -/
def readString (expected : String) (text : List Char) : Except Fault (String × List Char) :=
  match skipSpace text with
  | [] => .error (.into .endInValue [])
  | '"' :: rest => readLiteral "" rest
  | other => .error (mismatch expected other)

theorem consumes_readString (expected : String) : Consumes (readString expected) := by
  intro text value rest answered
  unfold readString at answered
  split at answered
  · contradiction
  · rename_i body quote
    exact Nat.lt_trans (consumes_readLiteral _ _ _ _ answered) (length_lt_of_skipSpace quote)
  · contradiction

def string (expected : String) : Reader String :=
  ⟨readString expected, consumes_readString expected⟩

/-- Takes in each member with its key, whatever the key is. -/
def collect {α : Type} (value : Reader α) : OnKey (Array (String × α)) :=
  fun members key _ => .ok (value.map fun v => members.push (key, v))

/-- An object whose members all have values of one form: the members as written, repeated keys
included. -/
def readMap {α : Type} (value : Reader α) (text : List Char) :
    Except Fault (List (String × α) × List Char) :=
  match skipSpace text with
  | [] => .error (.into .endInValue [])
  | '{' :: rest =>
    match readMembers (collect value) #[] true rest with
    | .error fault => .error fault
    | .ok (members, rest) => .ok (members.toList, rest)
  | other => .error (mismatch "a map" other)

theorem consumes_readMap {α : Type} (value : Reader α) : Consumes (readMap value) := by
  intro text result rest answered
  unfold readMap at answered
  split at answered
  · contradiction
  · rename_i body brace
    split at answered
    · contradiction
    · rename_i members after reading
      cases answered
      exact Nat.lt_trans (consumes_readMembers _ _ _ _ _ _ reading) (length_lt_of_skipSpace brace)
  · contradiction

def map {α : Type} (value : Reader α) : Reader (List (String × α)) :=
  ⟨readMap value, consumes_readMap value⟩

end StyleInline.Json
