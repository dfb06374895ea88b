import Mathlib.Data.List.Basic
import Mathlib.Data.List.TakeWhile
import StyleInline.Path.Resolve

/-! Texts of paths and what they say. Writing names with single slashes between them is undone by reading the
names, as long as each of them is one that a reader could have found. A path loses its last name when its parent
is taken, however its slashes and dots are written, so paths that are equal have equal directories. -/
namespace StyleInline.Spelling
open Text StyleInline.Path

/-! ### Pieces between separators -/

/-- Cutting is the splitting of lists. -/
theorem cut_eq_split_on (sep : Char) (cs : List Char) : cut sep cs = cs.splitOn sep := by
  induction cs with
  | nil => rfl
  | cons c rest ih =>
    rw [List.splitOn, List.splitOnP_cons_eq_if_modifyHead, ← List.splitOn, cut, ih]
    by_cases same : c = sep
    · simp [same]
    · cases found : rest.splitOn sep with
      | nil => exact absurd (ih.trans found) (cut_ne_nil sep rest)
      | cons first others => simp [same]

theorem map_to_list_pieces (sep : Char) (text : String) :
    (pieces sep text).map String.toList = text.toList.splitOn sep := by
  have same : String.toList ∘ String.ofList = id := by
    funext cs
    exact String.toList_ofList
  rw [pieces, List.map_map, same, List.map_id, cut_eq_split_on]

theorem pieces_ne_nil (sep : Char) (text : String) : pieces sep text ≠ [] := by
  simp [pieces, cut_ne_nil]

/-- No piece holds the separator. -/
theorem not_mem_of_piece {sep : Char} {text piece : String} (member : piece ∈ pieces sep text) :
    sep ∉ piece.toList := by
  have apart (cs : List Char) : ∀ stretch ∈ cut sep cs, sep ∉ stretch := by
    induction cs with
    | nil => simp [cut]
    | cons c rest ih =>
      rw [cut]
      by_cases same : c = sep
      · simpa [same] using ih
      · cases found : cut sep rest with
        | nil => exact absurd found (cut_ne_nil sep rest)
        | cons first others =>
          rw [found, List.forall_mem_cons] at ih
          rw [if_neg same, List.forall_mem_cons, List.mem_cons, not_or]
          exact ⟨⟨Ne.symm same, ih.1⟩, ih.2⟩
  obtain ⟨stretch, found, rfl⟩ := List.mem_map.mp member
  rw [String.toList_ofList]
  exact apart text.toList stretch found

/-- Texts without the separator are found again between separators. -/
theorem pieces_glue {sep : Char} {texts : List String} (apart : ∀ text ∈ texts, sep ∉ text.toList)
    (some : texts ≠ []) : pieces sep (glue sep texts) = texts := by
  have found : cut sep ([sep].intercalate (texts.map String.toList)) = texts.map String.toList := by
    rw [cut_eq_split_on]
    apply List.splitOn_intercalate
    · simpa using apart
    · simpa using some
  have same : String.ofList ∘ String.toList = id := by
    funext text
    exact String.ofList_toList
  rw [pieces, glue, String.toList_ofList, found, List.map_map, same, List.map_id]

/-- What stands before a separator and what stands behind it are cut each by itself. -/
theorem pieces_append (sep : Char) (first second : String) :
    pieces sep (first ++ String.singleton sep ++ second) = pieces sep first ++ pieces sep second := by
  simp [pieces, cut_eq_split_on, List.splitOn, List.splitOnP_append_cons]

theorem glue_eq_intercalate (sep : Char) (texts : List String) :
    glue sep texts = (String.singleton sep).intercalate texts := by
  apply String.toList_inj.mp
  rw [glue, String.toList_ofList, String.toList_intercalate, String.toList_singleton]

theorem glue_snoc {texts : List String} (some : texts ≠ []) (sep : Char) (text : String) :
    glue sep (texts ++ [text]) = glue sep texts ++ String.singleton sep ++ text := by
  induction texts with
  | nil => contradiction
  | cons first others ih =>
    apply String.toList_inj.mp
    cases others with
    | nil => simp [glue, List.intercalate, List.intersperse]
    | cons second more =>
      have behind := congrArg String.toList (ih (List.cons_ne_nil _ _))
      simp only [glue, List.intercalate, List.intersperse, String.toList_ofList, List.map_cons, List.cons_append,
        String.toList_append, List.flatten_cons] at behind ⊢
      rw [behind]
      simp

/-- A text that does not end with the separator ends as its last piece does. -/
theorem last_piece {sep c : Char} {text : String} (final : text.toList.getLast? = some c) (visible : c ≠ sep) :
    ∃ others last, pieces sep text = others ++ [last] ∧ last.toList.getLast? = some c := by
  obtain nothing | ⟨others, last, split⟩ := List.eq_nil_or_concat' (pieces sep text)
  · exact absurd nothing (pieces_ne_nil _ _)
  · refine ⟨others, last, split, ?_⟩
    rw [← glue_pieces sep text, split] at final
    by_cases single : others = []
    · simpa [single, glue] using final
    · rw [glue_snoc single, String.toList_append, List.getLast?_append] at final
      cases ends : last.toList.getLast? with
      | some found => simpa [ends] using final
      | none =>
        -- Behind the last separator there is nothing, so the text would end with it.
        simp [ends] at final
        exact absurd final.symm visible

/-! ### Names -/

/-- A name that can be written between slashes and found again there. -/
def Solid (name : String) : Prop :=
  isName name = true ∧ '/' ∉ name.toList

/-- The pieces that are names, with a dot before them where the text begins with one. -/
theorem names_eq (p : Path) : p.names =
    (if (pieces '/' p.text).head? = some "." then ["."] else []) ++ (pieces '/' p.text).filter isName := by
  unfold Path.names
  split
  · rename_i rest found
    rw [found]
    rfl
  · rename_i other
    have noDot : (pieces '/' p.text).head? ≠ some "." := by
      intro dot
      obtain ⟨rest, found⟩ := List.head?_eq_some_iff.mp dot
      exact other rest found
    rw [if_neg noDot, List.nil_append]

/-- A dot in front leads nowhere, so a walk over the names of a path is one over its pieces. -/
theorem foldl_walk_names (rooted : Bool) (place : List String) (p : Path) :
    p.names.foldl (walk rooted) place = ((pieces '/' p.text).filter isName).foldl (walk rooted) place := by
  rw [names_eq]
  split
  · rfl
  · rw [List.nil_append]

/-! ### Spelling components -/

/-- Of pieces that are glued just the names are found again. -/
theorem filter_glue {texts : List String} (apart : ∀ text ∈ texts, '/' ∉ text.toList) :
    (pieces '/' (glue '/' texts)).filter isName = texts.filter isName := by
  cases texts with
  | nil => rfl
  | cons first others => rw [pieces_glue apart (List.cons_ne_nil _ _)]

/-- A text of pieces begins with a slash only where the first piece is empty. -/
theorem head_glue {first : String} (visible : first ≠ "") (apart : '/' ∉ first.toList) (others : List String) :
    (glue '/' (first :: others)).toList.head? ≠ some '/' := by
  cases shape : first.toList with
  | nil => exact absurd (String.toList_eq_nil_iff.mp shape) visible
  | cons c rest =>
    have other : c ≠ '/' := by
      rintro rfl
      exact apart (shape ▸ List.mem_cons_self)
    cases others <;> simpa [glue, shape, List.intercalate, List.intersperse] using other

/-- A text that begins with a slash has an empty piece in front, which is no name. -/
theorem pieces_rooted (text : String) : pieces '/' ("/" ++ text) = "" :: pieces '/' text := by
  have split := pieces_append '/' "" text
  rwa [String.empty_append] at split

theorem components_rooted (text : String) :
    (Path.mk ("/" ++ text)).components = ⟨true, (pieces '/' text).filter isName⟩ := by
  simp [Path.components, Path.rooted, names_eq, pieces_rooted, isName]

/-- The first piece of a text that does not begin with a slash is a component, even when it is a dot. -/
theorem components_relative {first : String} {others : List String} (visible : first ≠ "")
    (apart : ∀ piece ∈ first :: others, '/' ∉ piece.toList) :
    (Path.mk (glue '/' (first :: others))).components = ⟨false, first :: others.filter isName⟩ := by
  have relative : (Path.mk (glue '/' (first :: others))).rooted = false := by
    simpa [Path.rooted] using head_glue visible (apart first List.mem_cons_self) others
  rw [Path.components, relative, names_eq, pieces_glue apart (List.cons_ne_nil _ _)]
  by_cases dot : first = "."
  · simp [dot, isName]
  · simp [dot, isName, visible]

theorem spell_rooted (names : List String) : Components.spell ⟨true, names⟩ = ⟨"/" ++ glue '/' names⟩ := rfl

theorem spell_relative (names : List String) : Components.spell ⟨false, names⟩ = ⟨glue '/' names⟩ := by
  rw [Components.spell, if_neg Bool.false_ne_true, String.empty_append]

theorem ne_empty_of_solid {name : String} (solid : Solid name) : name ≠ "" := by
  rintro rfl
  exact absurd solid.1 (by decide)

/-- Spelled components are read as they were. -/
theorem components_spell {c : Components} (solid : ∀ name ∈ c.names, Solid name) : c.spell.components = c := by
  obtain ⟨rooted, names⟩ := c
  have apart : ∀ name ∈ names, '/' ∉ name.toList := fun name member => (solid name member).2
  have named : names.filter isName = names := List.filter_eq_self.mpr fun name member => (solid name member).1
  cases rooted with
  | true => rw [spell_rooted, components_rooted, filter_glue apart, named]
  | false =>
    cases names with
    | nil => rfl
    | cons first others =>
      rw [spell_relative, components_relative (ne_empty_of_solid (solid first List.mem_cons_self)) apart]
      rw [List.filter_cons_of_pos (solid first List.mem_cons_self).1, List.cons.injEq] at named
      rw [named.2]

/-! ### The directory of a file -/

theorem filter_drop_blank_end (all : List String) : (dropBlankEnd all).filter isName = all.filter isName := by
  have parts : all = dropBlankEnd all ++ (all.reverse.takeWhile fun piece => !isName piece).reverse := by
    rw [dropBlankEnd, ← List.reverse_append, List.takeWhile_append_dropWhile, List.reverse_reverse]
  have blank : ((all.reverse.takeWhile fun piece => !isName piece).reverse).filter isName = [] := by
    apply List.filter_eq_nil_iff.mpr
    intro piece member
    simpa using List.mem_takeWhile_imp (List.mem_reverse.mp member)
  conv => rhs; rw [parts, List.filter_append, blank, List.append_nil]

/-- The last piece that is not dropped is a name, so dropping it as well takes the last name away. -/
theorem filter_drop_last_blank_end (all : List String) :
    (dropBlankEnd all).dropLast.filter isName = (all.filter isName).dropLast := by
  rw [← filter_drop_blank_end all]
  rcases List.eq_nil_or_concat' (dropBlankEnd all) with nothing | ⟨kept, last, shape⟩
  · rw [nothing]
    rfl
  · have named : isName last = true := by
      have first := List.head?_dropWhile_not (fun piece => !isName piece) all.reverse
      rw [dropBlankEnd, List.reverse_eq_iff] at shape
      rw [shape] at first
      simpa using first
    simp [shape, named]

theorem drop_blank_end_eq_nil_iff (all : List String) : dropBlankEnd all = [] ↔ all.filter isName = [] := by
  simp [dropBlankEnd, List.filter_eq_nil_iff, List.dropWhile_eq_nil_iff]

/-- Nothing is kept that was not there. -/
theorem mem_of_drop_blank_end {all : List String} {piece : String} (member : piece ∈ dropBlankEnd all) :
    piece ∈ all := by
  rw [dropBlankEnd, List.mem_reverse] at member
  exact List.mem_reverse.mp ((List.dropWhile_sublist _).subset member)

theorem mem_of_drop_last_blank_end {all : List String} {piece : String}
    (member : piece ∈ dropBlankEnd (dropBlankEnd all).dropLast) : piece ∈ all :=
  mem_of_drop_blank_end (List.dropLast_subset _ (mem_of_drop_blank_end member))

/-- The components of the directory of a file with these components. The root has no directory, and what stands
in for it is relative. -/
def directoryOf (c : Components) : Components :=
  if c.names = [] then ⟨false, []⟩ else ⟨c.rooted, c.names.dropLast⟩

/-- From the root, what is left when the last name goes is spelled behind the first slash. -/
theorem parent_rooted (text : String) : (Path.mk ("/" ++ text)).parent? =
    if dropBlankEnd (pieces '/' text) = [] then none
    else some ⟨"/" ++ glue '/' (dropBlankEnd (dropBlankEnd (pieces '/' text)).dropLast)⟩ := by
  have shape : ("/" ++ text).toList = '/' :: text.toList := by simp
  simp only [Path.parent?, shape, String.ofList_toList]
  split
  · rename_i nothing
    rw [if_pos nothing]
  · rename_i more
    rw [if_neg more]

/-- Anywhere else the first piece goes only when it is the last name. -/
theorem parent_relative {first : String} {others : List String} (visible : first ≠ "")
    (apart : ∀ piece ∈ first :: others, '/' ∉ piece.toList) : (Path.mk (glue '/' (first :: others))).parent? =
    some (if dropBlankEnd others = [] then ⟨""⟩
      else ⟨glue '/' (first :: dropBlankEnd (dropBlankEnd others).dropLast)⟩) := by
  have start := head_glue visible (apart first List.mem_cons_self) others
  have found := pieces_glue apart (List.cons_ne_nil _ _)
  unfold Path.parent?
  dsimp only
  split
  · rename_i nothing
    rw [String.toList_eq_nil_iff.mp nothing] at found
    exact absurd (List.cons.inj found).1.symm visible
  · rename_i slash
    rw [slash] at start
    contradiction
  · rw [String.ofList_toList, found]
    dsimp only
    split
    · rename_i nothing
      rw [if_pos nothing]
    · rename_i more
      rw [if_neg more]

theorem components_directory_rooted (text : String) :
    (Path.mk ("/" ++ text)).directory.components = directoryOf (Path.mk ("/" ++ text)).components := by
  rw [Path.directory, parent_rooted, components_rooted, directoryOf]
  by_cases nothing : dropBlankEnd (pieces '/' text) = []
  · rw [if_pos nothing, if_pos ((drop_blank_end_eq_nil_iff _).mp nothing)]
    rfl
  · have apart : ∀ piece ∈ dropBlankEnd (dropBlankEnd (pieces '/' text)).dropLast, '/' ∉ piece.toList :=
      fun piece member => not_mem_of_piece (mem_of_drop_last_blank_end member)
    rw [if_neg nothing, if_neg (mt (drop_blank_end_eq_nil_iff _).mpr nothing), Option.getD_some, components_rooted,
      filter_glue apart, filter_drop_blank_end, filter_drop_last_blank_end]

theorem components_directory_relative {first : String} {others : List String} (visible : first ≠ "")
    (apart : ∀ piece ∈ first :: others, '/' ∉ piece.toList) :
    (Path.mk (glue '/' (first :: others))).directory.components =
      directoryOf ⟨false, first :: others.filter isName⟩ := by
  rw [Path.directory, parent_relative visible apart, Option.getD_some, directoryOf, if_neg (List.cons_ne_nil _ _)]
  by_cases nothing : dropBlankEnd others = []
  · rw [if_pos nothing, (drop_blank_end_eq_nil_iff _).mp nothing]
    rfl
  · have further : others.filter isName ≠ [] := mt (drop_blank_end_eq_nil_iff _).mpr nothing
    have kept : ∀ piece ∈ first :: dropBlankEnd (dropBlankEnd others).dropLast, '/' ∉ piece.toList := by
      intro piece member
      rcases List.mem_cons.mp member with rfl | member
      · exact apart piece List.mem_cons_self
      · exact apart piece (List.mem_cons_of_mem _ (mem_of_drop_last_blank_end member))
    rw [if_neg nothing, components_relative visible kept, filter_drop_blank_end, filter_drop_last_blank_end,
      List.dropLast_cons_of_ne_nil further]

/-- Taking the directory takes the last component away, however the path is written. -/
theorem components_directory (file : Path) : file.directory.components = directoryOf file.components := by
  obtain ⟨text⟩ := file
  cases shape : text.toList with
  | nil =>
    rw [String.toList_eq_nil_iff.mp shape]
    rfl
  | cons c rest =>
    by_cases root : c = '/'
    · have spelled : text = "/" ++ String.ofList rest := by
        apply String.toList_inj.mp
        simp [shape, root]
      rw [spelled]
      exact components_directory_rooted _
    · obtain ⟨first, others, split⟩ := List.exists_cons_of_ne_nil (pieces_ne_nil '/' text)
      have spelled : text = glue '/' (first :: others) := by rw [← split, glue_pieces]
      have apart : ∀ piece ∈ first :: others, '/' ∉ piece.toList :=
        split ▸ fun _ member => not_mem_of_piece member
      have visible : first ≠ "" := by
        -- An empty piece in front is an empty text or a slash.
        rintro rfl
        rw [spelled] at shape
        cases others with
        | nil => simp [glue] at shape
        | cons second more =>
          simp only [glue, List.intercalate, List.intersperse, List.map_cons, String.toList_empty, List.flatten_cons,
            List.nil_append, List.singleton_append, String.toList_ofList, List.cons.injEq] at shape
          exact root shape.1.symm
      rw [spelled, components_relative visible apart]
      exact components_directory_relative visible apart

end StyleInline.Spelling
