import StyleInline.Path.Basic

/-!
What the host says about the file it is compiling.
-/
namespace StyleInline

/-- The file being compiled and the directory the host works in, each if known. -/
structure Host where
  file? : Option Path
  workdir? : Option Path
deriving Repr, Inhabited

namespace Host

/-- A host that says nothing. -/
def silent : Host := ⟨none, none⟩

def forFile (file : Path) : Host := ⟨some file, none⟩

def withWorkdir (host : Host) (dir : Path) : Host :=
  { host with workdir? := some dir }

/-- From the texts a host passes. It writes `unknown` where it has no file name, so that word and the
empty text say nothing; for the directory only the empty text does. -/
def ofContext (file workdir : Option String) : Host where
  file? := (file.filter fun text => text ≠ "" && text ≠ "unknown").map Path.mk
  workdir? := (workdir.filter fun text => text ≠ "").map Path.mk

end Host
end StyleInline
