import StyleInline.Files.Basic
import StyleInline.Json.Fault

/-!
Why the exports of a stylesheet cannot be had from the configured supply.
-/
namespace StyleInline

inductive LookupFault where
  /-- The configuration has no entry for the stylesheet. -/
  | notConfigured (stylesheet : Path)
  /-- The file beside the stylesheet cannot be read. -/
  | unreadable (file : Path) (reason : ReadFault)
  /-- The file beside the stylesheet holds something else than exports. -/
  | malformed (file : Path) (report : Json.Report)

namespace LookupFault

/-- The path that the fault is about. -/
def path : LookupFault → Path
  | notConfigured stylesheet => stylesheet
  | unreadable file _ => file
  | malformed file _ => file

def message : LookupFault → String
  | notConfigured stylesheet => "no CSS module exports configured for " ++ stylesheet.text
  | unreadable file _ => "failed to read CSS module exports from " ++ file.text
  | malformed file _ => "invalid CSS module exports in " ++ file.text

end LookupFault
end StyleInline
