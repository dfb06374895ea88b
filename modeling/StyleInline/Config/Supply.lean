import StyleInline.Config.Basic
import StyleInline.Exports.Json

/-!
The supply of exports as a JSON value: the name of a variant, or an object with one member that gives the
variant its value. A table is an object from paths to exports; when two of its keys are one path, the
first spelling stays and the last exports count.
-/
namespace StyleInline.Config
open Json

/-- The two ways to supply exports, by name. -/
inductive Variant where
  | sidecar
  | inline
deriving DecidableEq, Repr

def Variant.ofName? : String → Option Variant
  | "sidecar" => some sidecar
  | "inline" => some inline
  | _ => none

/-- The variant of a name that has just been read. -/
def variant (name : String) (rest : List Char) : Except Fault Variant :=
  match Variant.ofName? name with
  | some v => .ok v
  | none => .error (.before (.unknownVariant name ["sidecar", "inline"]) rest)

/-- The word `null`, where nothing is to be said. -/
def readNull (text : List Char) : Except Fault (List Char) :=
  match skipSpace text with
  | [] => .error (.into .endInValue [])
  | 'n' :: rest => readWord ['u', 'l', 'l'] rest
  | other => .error (mismatch "unit" other)

theorem length_le_of_readNull {text rest : List Char} (answered : readNull text = .ok rest) :
    rest.length ≤ text.length := by
  unfold readNull at answered
  split at answered
  · contradiction
  · rename_i after start
    exact Nat.le_trans (length_le_of_readWord answered) (Nat.le_of_lt (length_lt_of_skipSpace start))
  · contradiction

/-- The end of an object that holds a variant and its value. -/
def endVariant (text : List Char) : Except Fault (List Char) :=
  match skipSpace text with
  | [] => .error (.before .endInObject [])
  | '}' :: rest => .ok rest
  | other => .error (.before .noValue other)

theorem length_le_of_endVariant {text rest : List Char} (answered : endVariant text = .ok rest) :
    rest.length ≤ text.length := by
  unfold endVariant at answered
  split at answered
  · contradiction
  · rename_i after brace
    cases answered
    exact Nat.le_of_lt (length_lt_of_skipSpace brace)
  · contradiction

/-- The value of a variant. -/
def readVariantValue (v : Variant) (text : List Char) : Except Fault (Supply × List Char) :=
  match v with
  | .sidecar =>
    match readNull text with
    | .error fault => .error fault
    | .ok rest => .ok (.sidecar, rest)
  | .inline =>
    match readMap Exports.reader text with
    | .error fault => .error fault
    | .ok (members, rest) => .ok (.inline (.ofMembers members), rest)

theorem length_le_of_readVariantValue {v : Variant} {text rest : List Char} {supply : Supply}
    (answered : readVariantValue v text = .ok (supply, rest)) : rest.length ≤ text.length := by
  unfold readVariantValue at answered
  split at answered
  · split at answered
    · contradiction
    · rename_i after reading
      cases answered
      exact length_le_of_readNull reading
  · split at answered
    · contradiction
    · rename_i members after reading
      cases answered
      exact Nat.le_of_lt (consumes_readMap _ _ _ _ reading)

/-- An object that holds a variant and its value, from after its brace. -/
def readVariant (text : List Char) : Except Fault (Supply × List Char) :=
  match readString "variant identifier" text with
  | .error fault => .error fault
  | .ok (name, afterName) =>
    match variant name afterName with
    | .error fault => .error fault
    | .ok v =>
      match readColon afterName with
      | .error fault => .error fault
      | .ok afterColon =>
        match readVariantValue v afterColon with
        | .error fault => .error fault
        | .ok (supply, rest) =>
          match endVariant rest with
          | .error fault => .error fault
          | .ok rest => .ok (supply, rest)

theorem consumes_readVariant : Consumes readVariant := by
  intro text supply rest answered
  unfold readVariant at answered
  split at answered
  · contradiction
  · rename_i name afterName reading
    have := consumes_readString _ _ _ _ reading
    split at answered
    · contradiction
    · split at answered
      · contradiction
      · rename_i afterColon colon
        have := length_lt_of_readColon colon
        split at answered
        · contradiction
        · rename_i found after value
          have := length_le_of_readVariantValue value
          split at answered
          · contradiction
          · rename_i final closed
            have := length_le_of_endVariant closed
            cases answered
            omega

/-- The supply is a variant's name, or an object that gives the variant a value. The bare name of the
variant that needs a table is read as none: whoever reads it knows where to blame it. -/
def readSupply (text : List Char) : Except Fault (Option Supply × List Char) :=
  match skipSpace text with
  | [] => .error (.into .endInValue [])
  | '"' :: body =>
    match readLiteral "" body with
    | .error fault => .error fault
    | .ok (name, rest) =>
      match variant name rest with
      | .error fault => .error fault
      | .ok .sidecar => .ok (some .sidecar, rest)
      | .ok .inline => .ok (none, rest)
  | '{' :: body =>
    match readVariant body with
    | .error fault => .error fault
    | .ok (supply, rest) => .ok (some supply, rest)
  | other => .error (.into .noValue other)

theorem consumes_readSupply : Consumes readSupply := by
  intro text supply rest answered
  unfold readSupply at answered
  split at answered
  · contradiction
  · rename_i body quote
    have shorter := length_lt_of_skipSpace quote
    split at answered
    · contradiction
    · rename_i name after reading
      have := consumes_readLiteral _ _ _ _ reading
      split at answered
      · contradiction
      all_goals
        cases answered
        omega
  · rename_i body brace
    have shorter := length_lt_of_skipSpace brace
    split at answered
    · contradiction
    · rename_i found after reading
      have := consumes_readVariant _ _ _ reading
      cases answered
      omega
  · contradiction

end StyleInline.Config
