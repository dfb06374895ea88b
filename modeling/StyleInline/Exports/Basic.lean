import StyleInline.Table
import StyleInline.Path.Basic

/-!
What a stylesheet exports: for each selector written in it, the scoped selector that it compiles to.
The order is that of the stylesheet's own listing, and the object written for it keeps that order.
-/
namespace StyleInline

/-- Selectors with their scoped selectors, in order of first mention. -/
abbrev Exports := Table String String

/-- The exports of several stylesheets by path. -/
abbrev StyleTable := Table Path Exports

/-- Members under the paths that their names spell. -/
def byPath (members : List (String × Exports)) : List (Path × Exports) :=
  members.map fun member => (⟨member.1⟩, member.2)

/-- The table of members whose names are paths. -/
def StyleTable.ofMembers (members : List (String × Exports)) : StyleTable :=
  .ofList (byPath members)

end StyleInline
