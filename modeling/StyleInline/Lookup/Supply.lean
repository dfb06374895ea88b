import StyleInline.Config.Basic
import StyleInline.Exports.Json
import StyleInline.Lookup.Fault
import StyleInline.Lookup.Provider
import StyleInline.Path.Stylesheet

/-!
The exports that a configuration supplies. Neither way of supplying them looks at the root directory or
at the host: a table is searched for the stylesheet's path, and a file is read beside the stylesheet.
-/
namespace StyleInline

/-- The exports of a stylesheet in the table of a configuration. -/
def StyleTable.exportsOf (table : StyleTable) (stylesheet : Path) : Except LookupFault Exports :=
  match table.get? stylesheet with
  | some exports => .ok exports
  | none => .error (.notConfigured stylesheet)

/-- The exports in the file beside a stylesheet. -/
def FileReader.exportsOf (files : FileReader) (stylesheet : Path) : Except LookupFault Exports :=
  match files.readText stylesheet.sidecar with
  | .error reason => .error (.unreadable stylesheet.sidecar reason)
  | .ok text =>
    match Exports.parse text with
    | .error report => .error (.malformed stylesheet.sidecar report)
    | .ok exports => .ok exports

namespace Supply

/-- The exports of a stylesheet. -/
def exportsOf (files : FileReader) (supply : Supply) (stylesheet : Path) : Except LookupFault Exports :=
  match supply with
  | .sidecar => files.exportsOf stylesheet
  | .inline table => table.exportsOf stylesheet

/-- The supply as a provider. -/
def provider {σ : Type} (files : FileReader) (supply : Supply) : Provider σ LookupFault :=
  .stateless fun request => supply.exportsOf files request.stylesheet

end Supply
end StyleInline
