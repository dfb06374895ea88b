import StyleInline.Exports.Basic
import StyleInline.Json.Value

/-!
Exports as a JSON object of strings. The members are inserted in the order of the text, so a selector
that is written twice keeps its first place and gets its last value.
-/
namespace StyleInline.Exports
open Json

/-- Reads exports wherever a value may stand. -/
def reader : Reader Exports :=
  (Json.map (Json.string "a string")).map Table.ofList

/-- The exports that a whole text spells. -/
def parse (text : String) : Except Report Exports :=
  readAll reader.read text

end StyleInline.Exports
