import StyleInline.Text.Pieces

/-!
File paths. A path is kept as the text it was given as, because the text is what answers show, and is
read through its components: whether it starts at the root, and its names. Repeated slashes, a slash at
the end and inner dots do not count as components, so two texts may name one path; `==` compares
components. Nothing here looks at a file system.
-/
namespace StyleInline
open Text

/-- A path, as the text that spells it. -/
structure Path where
  text : String
deriving Repr, Inhabited

namespace Path

/-- What a path says once its spelling is set aside. A name is never empty; `.` occurs only as the
first name of a path that does not start at the root. -/
structure Components where
  rooted : Bool
  names : List String
deriving DecidableEq, Repr

/-- Neither empty nor a lone dot: the pieces between slashes that name something wherever they stand. -/
def isName (piece : String) : Bool :=
  piece ≠ "" && piece ≠ "."

/-- The path starts at the root of the file system. -/
def rooted (p : Path) : Bool :=
  p.text.toList.head? == some '/'

/-- The names of a path from the outermost to the innermost. A dot counts only in front. -/
def names (p : Path) : List String :=
  match pieces '/' p.text with
  | "." :: rest => "." :: rest.filter isName
  | all => all.filter isName

def components (p : Path) : Components :=
  ⟨p.rooted, p.names⟩

/-- Paths are equal when their components are; their texts may differ. -/
instance : BEq Path where
  beq p q := p.components == q.components

theorem beq_iff_components {p q : Path} : (p == q) = true ↔ p.components = q.components := by
  change (p.components == q.components) = true ↔ _
  exact beq_iff_eq

/-- Leaves out the empty pieces and dots that stand at the end. -/
def dropBlankEnd (pieces : List String) : List String :=
  (pieces.reverse.dropWhile (fun piece => !isName piece)).reverse

/-- The path without its last name, spelled as it was spelled up to there. The root, the slashes that
spell it and the empty path have no parent; a relative path of one name has the empty path. -/
def parent? (p : Path) : Option Path :=
  match p.text.toList with
  | [] => none
  | '/' :: rest =>
    match dropBlankEnd (pieces '/' (String.ofList rest)) with
    | [] => none
    | kept => some ⟨"/" ++ glue '/' (dropBlankEnd kept.dropLast)⟩
  | relative =>
    match pieces '/' (String.ofList relative) with
    | [] => none
    | first :: rest =>
      match dropBlankEnd rest with
      | [] => some ⟨""⟩
      | kept => some ⟨glue '/' (first :: dropBlankEnd kept.dropLast)⟩

/-- The second path seen from the first as directory; a path from the root stays as it is. -/
def join (p q : Path) : Path :=
  if q.rooted then q
  else if p.text = "" ∨ p.text.toList.getLast? = some '/' then ⟨p.text ++ q.text⟩
  else ⟨p.text ++ "/" ++ q.text⟩

end Path
end StyleInline
