import StyleInline.Inlining.Event
import StyleInline.Syntax.Imports

/-!
Telling the imports that are inlined from the others. Whoever walks over a program asks this of every import
that is met, and each time an import has all but the right source, the run tells so.
-/
namespace StyleInline

/-- The binding of an import of a stylesheet, and the events with what is to be told of the import. -/
def Import.recognise (decl : Import) (events : List Event) : Option Ident × List Event :=
  match decl.role with
  | .stylesheet binding => (some binding, events)
  | .skipped => (none, events ++ [.skipped decl.source])
  | .other => (none, events)

end StyleInline
