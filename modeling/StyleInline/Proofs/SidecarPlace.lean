import Mathlib.Data.List.DropRight
import StyleInline.Proofs.Stages
import StyleInline.Proofs.TextualJoin

/-! Where the file with the exports of a stylesheet lies. Its path is the text of the stylesheet's path with an
ending, which is a file beside the stylesheet only because that text ends with an ordinary name. The name is the
last segment of the source, whatever the source climbs through before, and it is itself the source of a
stylesheet. -/
namespace StyleInline.SidecarPlace
open Text StyleInline.Path Spelling SourceEnding NormalForm Stages TextualJoin

/-! ### The last segment of a source -/

/-- What stands behind the last slash of a source, or the whole source where there is none. -/
def lastSegment (source : String) : String :=
  String.ofList (source.toList.rtakeWhile (· ≠ '/'))

/-- Text without a slash belongs to the last segment. -/
theorem last_segment_append {ending : String} (apart : '/' ∉ ending.toList) (stem : String) :
    lastSegment (stem ++ ending) = lastSegment stem ++ ending := by
  have kept := passed_over apart
  apply String.toList_inj.mp
  simp only [lastSegment, List.rtakeWhile, String.toList_append, String.toList_ofList, List.reverse_append,
    List.takeWhile_append_of_pos kept, List.reverse_reverse]

/-- The last segment is the last piece between slashes, which is what a reader from the right finds first. -/
theorem last_segment_of_pieces {source last : String} {others : List String}
    (split : pieces '/' source = others ++ [last]) : lastSegment source = last := by
  rw [pieces_read_back] at split
  exact (List.append_singleton_inj.mp split).2

/-- The last segment of the source of a stylesheet is such a source by itself. -/
theorem last_segment_accepted {source : String} (accepted : isStylesheetSource source = true) :
    isStylesheetSource (lastSegment source) = true := by
  rw [accepted_iff_ending] at accepted ⊢
  rcases accepted with rfl | ⟨stem, rfl⟩
  · left
    rfl
  · right
    refine ⟨lastSegment stem, ?_⟩
    have apart : '/' ∉ ".module.css".toList := by simp
    exact last_segment_append apart stem

/-! ### Endings -/

/-- A name with this ending is ordinary. -/
theorem ordinary_json {name : String} (ordinary : Ordinary name) : Ordinary (name ++ ".json") := by
  have final : (name ++ ".json").toList.getLast? = some 'n' := by simp
  have apart : '/' ∉ (name ++ ".json").toList := by simpa using ordinary.2.2.2
  exact ordinary_of_last final (by decide) apart

/-- What is written behind a path is written behind its last name. -/
theorem sidecar_spell (rooted : Bool) (names : List String) (last : String) :
    (Components.spell ⟨rooted, names ++ [last]⟩).sidecar = Components.spell ⟨rooted, names ++ [last ++ ".json"]⟩ := by
  simp only [Path.sidecar, Components.spell, Path.mk.injEq]
  by_cases single : names = []
  · simp [single, glue, String.append_assoc]
  · simp only [glue_snoc single, String.append_assoc]

/-- A path of such names with an ordinary one behind them is read as it was spelled. -/
theorem components_snoc {rooted : Bool} {names : List String} {last : String} (solid : ∀ name ∈ names, Solid name)
    (ordinary : Ordinary last) : (Components.spell ⟨rooted, names ++ [last]⟩).components = ⟨rooted, names ++ [last]⟩ :=
  components_spell (solid_snoc solid ordinary)

theorem last_name_spell {rooted : Bool} {names : List String} {last : String} (solid : ∀ name ∈ names, Solid name)
    (ordinary : Ordinary last) : lastName? (Components.spell ⟨rooted, names ++ [last]⟩) = some last := by
  have read : (Components.spell ⟨rooted, names ++ [last]⟩).names = names ++ [last] :=
    (Components.mk.inj (components_snoc solid ordinary)).2
  simp [lastName?, read, ordinary.2.1, ordinary.2.2.1]

/-! ### Beside the stylesheet -/

/-- The path of a stylesheet ends with the last segment of its source, behind a directory in normal form. -/
theorem resolve_accepted {source : String} (accepted : isStylesheetSource source = true) (file : Path) :
    Ordinary (lastSegment source) ∧ ∃ names, (∀ name ∈ names, Solid name) ∧
      file.resolve source = Components.spell ⟨file.directory.rooted, names ++ [lastSegment source]⟩ := by
  obtain ⟨others, last, outer, split, place, ordinary⟩ := place_of_accepted accepted file
  have reached := reached_place file source
  rw [place] at reached
  rw [last_segment_of_pieces split]
  refine ⟨ordinary, outer.reverse, solid_of_reached (walk_last reached).1, ?_⟩
  rw [resolve_spelled, place, List.reverse_cons]

/-- The last name of a stylesheet's path is ordinary, and it is the last segment of the source, which is itself
accepted. The file with the exports lies in the directory of the stylesheet, under that name with its ending. Two
stylesheets have one such file just when they are one stylesheet. -/
theorem sidecar_lies_beside {source : String} (accepted : isStylesheetSource source = true) (file : Path) :
    (file.resolve source).names.getLast? = some (lastSegment source) ∧ Ordinary (lastSegment source) ∧
      isStylesheetSource (lastSegment source) = true ∧
      (∃ directory, (file.resolve source).parent? = some directory ∧
        (file.resolve source).sidecar.parent? = some directory) ∧
      lastName? (file.resolve source).sidecar = some (lastSegment source ++ ".json") ∧
      ∀ (other : Path) (origin : String), isStylesheetSource origin = true →
        (((file.resolve source).sidecar == (other.resolve origin).sidecar) = true ↔
          (file.resolve source == other.resolve origin) = true) := by
  obtain ⟨ordinary, names, solid, here⟩ := resolve_accepted accepted file
  have ending := ordinary_json ordinary
  have components : (file.resolve source).components =
      ⟨file.directory.rooted, names ++ [lastSegment source]⟩ := by
    rw [here, components_snoc solid ordinary]
  refine ⟨?_, ordinary, last_segment_accepted accepted, ?_, ?_, ?_⟩
  · rw [(Components.mk.inj components).2, List.getLast?_concat]
  · refine ⟨Components.spell ⟨file.directory.rooted, names⟩, ?_, ?_⟩
    · rw [here, parent_spell (solid_snoc solid ordinary)]
    · rw [here, sidecar_spell, parent_spell (solid_snoc solid ending)]
  · rw [here, sidecar_spell, last_name_spell solid ending]
  · intro other origin matching
    obtain ⟨final, others, firm, there⟩ := resolve_accepted matching other
    rw [beq_iff_components, beq_iff_components, here, there, sidecar_spell, sidecar_spell,
      components_snoc solid ending, components_snoc firm (ordinary_json final), components_snoc solid ordinary,
      components_snoc firm final]
    simp

/-- A source that climbs out of where the file starts, and names of which little is left before the ending. -/
theorem beside_hidden_stylesheet :
    isStylesheetSource "../..//.module.css" = true ∧ isStylesheetSource "../../x/.././.module.css" = true ∧
      ((Path.mk "src/Card.tsx").resolve "../..//.module.css").sidecar = ⟨"../.module.css.json"⟩ ∧
      (∃ directory, ((Path.mk "src/Card.tsx").resolve "../..//.module.css").parent? = some directory ∧
        ((Path.mk "src/Card.tsx").resolve "../..//.module.css").sidecar.parent? = some directory) ∧
      ((Path.mk "src/Card.tsx").resolve "../..//.module.css" ==
        (Path.mk "./src//Page.tsx").resolve "../../x/.././.module.css") = true := by
  have accepted : isStylesheetSource "../..//.module.css" = true := rfl
  have matching : isStylesheetSource "../../x/.././.module.css" = true := rfl
  have here : (Path.mk "src/Card.tsx").resolve "../..//.module.css" = ⟨"../.module.css"⟩ := rfl
  have there : (Path.mk "./src//Page.tsx").resolve "../../x/.././.module.css" = ⟨"../.module.css"⟩ := rfl
  obtain ⟨-, -, -, parents, -, same⟩ := sidecar_lies_beside accepted ⟨"src/Card.tsx"⟩
  refine ⟨accepted, matching, by rw [here]; rfl, parents, (same ⟨"./src//Page.tsx"⟩ _ matching).mp ?_⟩
  rw [here, there, beq_iff_components]

end StyleInline.SidecarPlace
