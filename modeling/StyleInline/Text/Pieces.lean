/-!
Cutting a text at a separator and gluing the pieces again. Stylesheet sources are read by their dots
and paths by their slashes, so both rest on one cut. It loses nothing: empty pieces are kept, and the
pieces glued with the separator are the text.
-/
namespace StyleInline.Text

/-- The stretches between separators, in order. There is always at least one, and it may be empty. -/
def cut (sep : Char) : List Char → List (List Char)
  | [] => [[]]
  | c :: rest =>
    if c = sep then [] :: cut sep rest
    else
      match cut sep rest with
      | [] => [[c]]
      | first :: others => (c :: first) :: others

theorem cut_ne_nil (sep : Char) (cs : List Char) : cut sep cs ≠ [] := by
  cases cs with
  | nil => simp [cut]
  | cons c rest =>
    simp only [cut]
    split
    · simp
    · split <;> simp

/-- Cutting is undone by writing the separator between the pieces. -/
theorem intercalate_cut (sep : Char) (cs : List Char) : [sep].intercalate (cut sep cs) = cs := by
  induction cs with
  | nil => rfl
  | cons c rest ih =>
    simp only [cut]
    split
    · rename_i same
      subst same
      cases pieces : cut c rest with
      | nil => exact absurd pieces (cut_ne_nil c rest)
      | cons first others =>
        rw [pieces] at ih
        simpa [List.intercalate, List.intersperse] using ih
    · split
      · rename_i pieces
        exact absurd pieces (cut_ne_nil sep rest)
      · rename_i first others pieces
        rw [pieces] at ih
        cases others with
        | nil => simpa [List.intercalate, List.intersperse] using ih
        | cons second more => simpa [List.intercalate, List.intersperse] using ih

/-- The pieces of a string between occurrences of `sep`. -/
def pieces (sep : Char) (text : String) : List String :=
  (cut sep text.toList).map String.ofList

/-- The texts one after another with `sep` between neighbours; nothing for no texts. -/
def glue (sep : Char) (texts : List String) : String :=
  String.ofList ([sep].intercalate (texts.map String.toList))

theorem glue_pieces (sep : Char) (text : String) : glue sep (pieces sep text) = text := by
  have same : (String.toList ∘ String.ofList) = (id : List Char → List Char) := by
    funext cs
    simp
  simp [glue, pieces, same, intercalate_cut]

end StyleInline.Text
