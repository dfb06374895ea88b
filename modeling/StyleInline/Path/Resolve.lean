import StyleInline.Path.Basic

/-!
Where an import source points. The source is read from the directory of the importing file, by the
texts alone: dots vanish, `..` takes the last name back, and a source that starts with a slash is still
read from that directory. The result is spelled in normal form, so one place has one text.
-/
namespace StyleInline.Path
open Text

/-- Walks one name on from a place given by its names, innermost first. Going up from the root stays at
the root; going up from the start of a relative path, or from above it, is remembered. -/
def walk (rooted : Bool) (place : List String) (name : String) : List String :=
  if name = "." then place
  else if name = ".." then
    match place with
    | [] => if rooted then [] else [".."]
    | last :: outer => if last = ".." then ".." :: place else outer
  else name :: place

/-- The spelling of components: a slash for the root, then single slashes between names. -/
def Components.spell (c : Components) : Path :=
  ⟨(if c.rooted then "/" else "") ++ glue '/' c.names⟩

/-- The directory that sources of imports in `file` are read from. -/
def directory (file : Path) : Path :=
  file.parent?.getD ⟨""⟩

/-- The path that `source` means in `file`. -/
def resolve (file : Path) (source : String) : Path :=
  let start := file.directory
  let steps := start.names ++ (Path.mk source).names
  Components.spell ⟨start.rooted, (steps.foldl (walk start.rooted) []).reverse⟩

end StyleInline.Path
