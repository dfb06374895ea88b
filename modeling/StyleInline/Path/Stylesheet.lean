import StyleInline.Path.Basic

/-!
Which sources name a stylesheet with exports, and which file beside a stylesheet lists them.
-/
namespace StyleInline
open Text

/-- A source is that of a CSS module when its last two pieces between dots are `module` and `css`. What
stands before them may be anything, also nothing at all. -/
def isStylesheetSource (source : String) : Bool :=
  match (pieces '.' source).reverse with
  | "css" :: "module" :: _ => true
  | _ => false

/-- The file with the exports of a stylesheet: the same text with `.json` after it, whatever the text
ends in. -/
def Path.sidecar (stylesheet : Path) : Path :=
  ⟨stylesheet.text ++ ".json"⟩

end StyleInline
