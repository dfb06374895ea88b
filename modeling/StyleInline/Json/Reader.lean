import StyleInline.Json.Fault

/-!
Readers of JSON values. A reader takes the text from where a value should begin and gives the value with
the text after it. It never answers without having read something, which is what lets lists and objects
be read for as long as there are elements.
-/
namespace StyleInline.Json
open Text

/-- The four characters that may stand between the parts of a JSON text. -/
def isSpace (c : Char) : Bool :=
  c = ' ' || c = '\n' || c = '\t' || c = '\r'

def skipSpace (text : List Char) : List Char :=
  text.dropWhile isSpace

theorem length_skipSpace_le (text : List Char) : (skipSpace text).length ≤ text.length :=
  (List.dropWhile_sublist isSpace).length_le

/-- What follows the first character after the space is shorter than the text. -/
theorem length_lt_of_skipSpace {text rest : List Char} {c : Char} (found : skipSpace text = c :: rest) :
    rest.length < text.length := by
  have bound := length_skipSpace_le text
  rw [found] at bound
  exact bound

/-- Answers only with less text than it was given. -/
def Consumes {α : Type} (read : List Char → Except Fault (α × List Char)) : Prop :=
  ∀ text value rest, read text = .ok (value, rest) → rest.length < text.length

/-- A reader of values. -/
structure Reader (α : Type) where
  read : List Char → Except Fault (α × List Char)
  consumes : Consumes read

namespace Reader

variable {α β : Type}

/-- Reads a value and decides what it stands for, or that it will not do, knowing what follows it. -/
def andThen (r : Reader α) (decide : α → List Char → Except Fault β) : Reader β where
  read text :=
    match r.read text with
    | .error fault => .error fault
    | .ok (value, rest) =>
      match decide value rest with
      | .error fault => .error fault
      | .ok result => .ok (result, rest)
  consumes := by
    intro text result rest answered
    cases reading : r.read text with
    | error fault => simp [reading] at answered
    | ok pair =>
      obtain ⟨value, after⟩ := pair
      cases deciding : decide value after with
      | error fault => simp [reading, deciding] at answered
      | ok decided =>
        simp only [reading, deciding, Except.ok.injEq, Prod.mk.injEq] at answered
        exact answered.2 ▸ r.consumes text value after reading

/-- Reads a value and turns it into another. -/
def map (f : α → β) (r : Reader α) : Reader β :=
  r.andThen fun value _ => .ok (f value)

end Reader

/-- Reads the whole text as one value with nothing but space around it. -/
def readAll {α : Type} (read : List Char → Except Fault (α × List Char)) (text : String) :
    Except Report α :=
  let chars := text.toList
  match read chars with
  | .error fault => .error (.ofFault chars fault)
  | .ok (value, rest) =>
    match skipSpace rest with
    | [] => .ok value
    | junk => .error (.ofFault chars (.into .trailingCharacters junk))

end StyleInline.Json
