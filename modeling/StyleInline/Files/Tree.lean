import StyleInline.Files.Basic

/-!
A file system held as a value: what stands at each place below the root, and the directory that relative
paths start from. Paths are followed name by name, so what is passed on the way has to be a directory
even when `..` leaves it again.
-/
namespace StyleInline

/-- What stands at a place. -/
inductive FileTree.Entry where
  | file (content : ByteArray)
  | directory

/-- The places are lists of names, innermost first. The first entry for a place counts. -/
structure FileTree where
  entries : List (List String × FileTree.Entry)
  workdir : List String

namespace FileTree

/-- The root is always a directory. -/
def entry? (tree : FileTree) (place : List String) : Option Entry :=
  if place = [] then some .directory else tree.entries.lookup place

/-- Where a path starts. -/
def start (tree : FileTree) (path : Path) : List String :=
  if path.rooted then [] else tree.workdir

/-- Where a name leads: a dot stays, two dots go up, and the root is above itself. -/
def step (place : List String) (name : String) : List String :=
  if name = "." then place else if name = ".." then place.tail else name :: place

/-- Makes the place a directory, and those above it, unless something stands there. -/
def makeDirectory (tree : FileTree) : List String → FileTree
  | [] => tree
  | place@(_ :: outer) =>
    let tree := tree.makeDirectory outer
    match tree.entry? place with
    | some _ => tree
    | none => { tree with entries := (place, .directory) :: tree.entries }

/-- Makes a directory of every place that the names, outermost first, lead through. -/
def makeWay (tree : FileTree) (place : List String) : List String → FileTree
  | [] => tree
  | name :: rest => makeWay (tree.makeDirectory (step place name)) (step place name) rest

/-- Makes the directory that the path names, with those on the way to it. -/
def addDirectory (tree : FileTree) (path : Path) : FileTree :=
  tree.makeWay (tree.start path) path.names

/-- Puts a file where the path leads, with the directories on the way to it. -/
def addFile (tree : FileTree) (path : Path) (content : ByteArray) : FileTree :=
  let made := tree.makeWay (tree.start path) path.names.dropLast
  { made with entries := (path.names.foldl step (tree.start path), .file content) :: made.entries }

/-- A tree of nothing but the directory that relative paths start from. -/
def ofWorkdir (workdir : List String) : FileTree :=
  makeDirectory ⟨[], workdir⟩ workdir

/-- The longest name, and the length that no path reaches, in bytes. -/
def nameLimit : Nat := 255

def pathLimit : Nat := 4096

/-- Follows names from a place, outermost first. -/
def follow (tree : FileTree) (place : List String) : List String → Except ReadFault (List String)
  | [] => .ok place
  | name :: rest =>
    match tree.entry? place with
    | none => .error .notFound
    | some (.file _) => .error .notDirectory
    | some .directory =>
      if nameLimit < name.utf8ByteSize then .error .nameTooLong
      else follow tree (step place name) rest

/-- The bytes at a path. A path with a NUL character is refused before anything is looked at, then one
that is too long as a whole. -/
def read (tree : FileTree) : FileReader := fun path =>
  if path.text.toList.contains '\x00' then .error .unusablePath
  else if pathLimit ≤ path.text.utf8ByteSize then .error .nameTooLong
  else
    match tree.follow (tree.start path) path.names with
    | .error fault => .error fault
    | .ok place =>
      match tree.entry? place with
      | some (.file content) => .ok content
      | some .directory => .error .isDirectory
      | none => .error .notFound

end FileTree
end StyleInline
