import StyleInline.Config.Supply
import StyleInline.Text.Blank

/-!
The configuration as a JSON text: an object with up to two fields in any order, or a list of their values
in a fixed order. An unknown field, a repeated one and a variant that lacks its value are blamed on the
end of the enclosing object or list as far as it can be seen from there; every other fault is blamed
where it stands. A blank text is the standard configuration.
-/
namespace StyleInline.Config
open Json

def rootField : String := "absoluteRootDirPath"

def supplyField : String := "exports"

def fieldNames : List String := [rootField, supplyField]

/-- The root is a string, or `null` for none. -/
def readRoot (text : List Char) : Except Fault (Option Path × List Char) :=
  match skipSpace text with
  | 'n' :: rest =>
    match readWord ['u', 'l', 'l'] rest with
    | .error fault => .error fault
    | .ok rest => .ok (none, rest)
  | _ =>
    match readString "path string" text with
    | .error fault => .error fault
    | .ok (path, rest) => .ok (some ⟨path⟩, rest)

theorem consumes_readRoot : Consumes readRoot := by
  intro text root rest answered
  unfold readRoot at answered
  split at answered
  · rename_i after start
    split at answered
    · contradiction
    · rename_i final word
      cases answered
      exact Nat.lt_of_le_of_lt (length_le_of_readWord word) (length_lt_of_skipSpace start)
  · split at answered
    · contradiction
    · rename_i path after reading
      cases answered
      exact consumes_readString _ _ _ _ reading

/-- A supply in a place from which `seen` gives the text after the end of what encloses it. -/
def supplyIn (seen : List Char → List Char) : Reader Supply :=
  Reader.andThen ⟨readSupply, consumes_readSupply⟩ fun supply rest =>
    match supply with
    | some s => .ok s
    | none => .error (.before .variantWithoutValue (seen rest))

/-- What is after the end of an object when that end comes next; the end is looked for and no more. -/
def seenObjectEnd (text : List Char) : List Char :=
  match skipSpace text with
  | '}' :: rest => rest
  | other => other

/-- What is after the end of a list when that end comes next, or after a comma that does. -/
def seenListEnd (text : List Char) : List Char :=
  match skipSpace text with
  | ']' :: rest => rest
  | ',' :: rest => skipSpace rest
  | other => other

/-- The fields that have been read. -/
structure Fields where
  root : Option (Option Path)
  supply : Option Supply

/-- Absent fields have their standard values. -/
def Fields.config (fields : Fields) : Config :=
  ⟨fields.root.getD none, fields.supply.getD .sidecar⟩

def onField : OnKey Fields := fun fields key rest =>
  if key = rootField then
    if fields.root.isSome then .error (.before (.repeatedField key) (seenObjectEnd rest))
    else
      .ok (Reader.map (fun root => { fields with root := some root }) ⟨readRoot, consumes_readRoot⟩)
  else if key = supplyField then
    if fields.supply.isSome then .error (.before (.repeatedField key) (seenObjectEnd rest))
    else .ok ((supplyIn seenObjectEnd).map fun supply => { fields with supply := some supply })
  else .error (.before (.unknownField key fieldNames) (seenObjectEnd rest))

/-- Looks for an element of a list: none before the closing bracket, otherwise the text where the element
should begin. `first` holds before the first element. -/
def nextElement (first : Bool) (text : List Char) : Except Fault (Option (List Char)) :=
  match skipSpace text with
  | [] => .error (.into .endInList [])
  | ']' :: _ => .ok none
  | c :: rest =>
    if first then .ok (some (c :: rest))
    else if c = ',' then
      match skipSpace rest with
      | [] => .error (.into .endInValue [])
      | ']' :: rest => .error (.into .trailingComma (']' :: rest))
      | other => .ok (some other)
    else .error (.into .noListSeparator (c :: rest))

/-- The end of a list that may hold no more elements. -/
def endList (text : List Char) : Except Fault (List Char) :=
  match skipSpace text with
  | [] => .error (.into .endInList [])
  | ']' :: rest => .ok rest
  | ',' :: rest =>
    match skipSpace rest with
    | ']' :: rest => .error (.into .trailingComma (']' :: rest))
    | other => .error (.into .trailingCharacters other)
  | other => .error (.into .trailingCharacters other)

/-- The fields of a list, from after its bracket. -/
def readElements (text : List Char) : Except Fault (Fields × List Char) := do
  match ← nextElement true text with
  | none => return (⟨none, none⟩, text)
  | some element =>
    let (root, rest) ← readRoot element
    match ← nextElement false rest with
    | none => return (⟨some root, none⟩, rest)
    | some element =>
      let (supply, rest) ← (supplyIn seenListEnd).read element
      return (⟨some root, some supply⟩, rest)

/-- A configuration as a value. -/
def read (text : List Char) : Except Fault (Config × List Char) := do
  match skipSpace text with
  | [] => .error (.into .endInValue [])
  | '{' :: body =>
    let (fields, rest) ← readMembers onField ⟨none, none⟩ true body
    return (fields.config, rest)
  | '[' :: body =>
    let (fields, rest) ← readElements body
    return (fields.config, ← endList rest)
  | other => .error (mismatch "struct PluginConfig" other)

/-- The configuration that a text spells. -/
def parse (raw : String) : Except Report Config :=
  if Text.isBlankText raw then .ok standard else readAll read raw

/-- What is said of a text that spells no configuration. -/
def refusal (report : Report) : String :=
  "invalid plugin config: " ++ report.message

end StyleInline.Config
