import StyleInline.Path.Stylesheet
import StyleInline.Proofs.Spelling

/-! Which sources are those of stylesheets. A source is taken to pieces at its dots, and two pieces from its right end
decide. That can be told without pieces: an accepted source is the bare ending, or ends with a dot and that. What
stands further left does not matter, slashes and more dots included, so whatever is written in front of an accepted
source leaves it accepted. The bare ending is the exception: it has to begin a source, or stand behind a dot. -/
namespace StyleInline.SourceEnding
open Text Spelling

/-! ### Reading from the right -/

/-- What a reader from the right finds up to a separator, and the text that is then left in front: none where there is
no separator. The text that is left may be empty, and then it is a piece still to be read. -/
def readBack (sep : Char) (text : String) : String × Option String :=
  let back := text.toList.reverse
  (String.ofList (back.takeWhile (· ≠ sep)).reverse,
    match back.dropWhile (· ≠ sep) with
    | [] => none
    | _ :: before => some (String.ofList before.reverse))

/-- The last piece of a source between dots, and the one before it where there is one. -/
def lastTwo (source : String) : String × Option String :=
  let (last, before) := readBack '.' source
  (last, before.map fun front => (readBack '.' front).1)

/-- Nothing of a text without the separator makes a reader stop. -/
theorem passed_over {sep : Char} {piece : String} (apart : sep ∉ piece.toList) :
    ∀ c ∈ piece.toList.reverse, (c ≠ sep : Bool) = true := by
  intro c member
  rw [decide_eq_true_eq]
  rintro rfl
  exact apart (List.mem_reverse.mp member)

/-- A text without the separator is read in one. -/
theorem read_back_alone {sep : Char} {piece : String} (apart : sep ∉ piece.toList) :
    readBack sep piece = (piece, none) := by
  have kept := passed_over apart
  have all : piece.toList.reverse.takeWhile (· ≠ sep) = piece.toList.reverse := List.takeWhile_eq_self_iff.mpr kept
  have nothing : piece.toList.reverse.dropWhile (· ≠ sep) = [] := List.dropWhile_eq_nil_iff.mpr kept
  simp only [readBack, all, nothing, List.reverse_reverse, String.ofList_toList]

/-- Behind the last separator the piece is read, and all before that separator is left. -/
theorem read_back_append {sep : Char} {piece : String} (apart : sep ∉ piece.toList) (front : String) :
    readBack sep (front ++ String.singleton sep ++ piece) = (piece, some front) := by
  have kept := passed_over apart
  have back : (front ++ String.singleton sep ++ piece).toList.reverse =
      piece.toList.reverse ++ sep :: front.toList.reverse := by
    simp
  have read : (piece.toList.reverse ++ sep :: front.toList.reverse).takeWhile (· ≠ sep) = piece.toList.reverse := by
    rw [List.takeWhile_append_of_pos kept]
    simp
  have left : (piece.toList.reverse ++ sep :: front.toList.reverse).dropWhile (· ≠ sep) =
      sep :: front.toList.reverse := by
    rw [List.dropWhile_append_of_pos kept]
    simp
  simp only [readBack, back, read, left, List.reverse_reverse, String.ofList_toList]

/-- Read from the right, the pieces of a text come out from the last to the first. -/
theorem pieces_read_back (sep : Char) (text : String) :
    pieces sep text = (readBack sep text).2.elim [] (pieces sep) ++ [(readBack sep text).1] := by
  obtain nothing | ⟨others, last, split⟩ := List.eq_nil_or_concat' (pieces sep text)
  · exact absurd nothing (pieces_ne_nil sep text)
  · have apart : ∀ piece ∈ others ++ [last], sep ∉ piece.toList := fun piece member =>
      not_mem_of_piece (split ▸ member)
    obtain ⟨before, behind⟩ := List.forall_mem_append.mp apart
    have final : sep ∉ last.toList := behind last List.mem_cons_self
    have whole := glue_pieces sep text
    rw [split] at whole
    rw [split]
    by_cases single : others = []
    · have alone : text = last := by
        rw [← whole, single]
        simp [glue]
      rw [alone, read_back_alone final, single]
      rfl
    · rw [glue_snoc single] at whole
      rw [← whole, read_back_append final, Option.elim_some, pieces_glue before single]

/-! ### Endings -/

/-- A text ends with another one when something, or nothing, stands in front of that. -/
theorem ends_with_iff (text ending : String) : text.endsWith ending = true ↔ ∃ stem, text = stem ++ ending := by
  rw [← String.endsWith_toSlice, String.Slice.endsWith_string_iff, String.copy_toSlice]
  constructor
  · rintro ⟨stem, whole⟩
    refine ⟨String.ofList stem, ?_⟩
    apply String.toList_inj.mp
    rw [String.toList_append, String.toList_ofList, whole]
  · rintro ⟨stem, rfl⟩
    exact ⟨stem.toList, String.toList_append.symm⟩

/-- A source is accepted for its last two pieces. -/
theorem accepted_iff_pieces (source : String) : isStylesheetSource source = true ↔
    ∃ others, pieces '.' source = others ++ ["module"] ++ ["css"] := by
  constructor
  · intro accepted
    unfold isStylesheetSource at accepted
    split at accepted
    · rename_i others ends
      refine ⟨others.reverse, ?_⟩
      rw [← List.reverse_reverse (pieces '.' source), ends]
      simp
    · contradiction
  · rintro ⟨others, split⟩
    simp [isStylesheetSource, split]

/-- A source is accepted when it is the bare ending, or ends with a dot and that. -/
theorem accepted_iff_ending (source : String) : isStylesheetSource source = true ↔
    source = "module.css" ∨ ∃ stem, source = stem ++ ".module.css" := by
  rw [accepted_iff_pieces]
  constructor
  · rintro ⟨others, split⟩
    have more : others ++ ["module"] ≠ [] := List.append_ne_nil_of_right_ne_nil _ (List.cons_ne_nil _ _)
    rw [← glue_pieces '.' source, split, glue_snoc more]
    by_cases bare : others = []
    · left
      rw [bare]
      rfl
    · right
      refine ⟨glue '.' others, ?_⟩
      rw [glue_snoc bare, String.append_assoc, String.append_assoc, String.append_assoc]
      rfl
  · rintro (rfl | ⟨stem, rfl⟩)
    · exact ⟨[], rfl⟩
    · refine ⟨pieces '.' stem, ?_⟩
      have split := pieces_append '.' stem "module.css"
      rw [String.append_assoc] at split
      rw [List.append_assoc]
      exact split

/-- The source of a stylesheet ends with a letter. -/
theorem last_of_accepted {source : String} (accepted : isStylesheetSource source = true) :
    source.toList.getLast? = some 's' := by
  rcases (accepted_iff_ending source).mp accepted with rfl | ⟨stem, rfl⟩
  · rfl
  · simp

/-- Two pieces from the right are enough to tell. -/
theorem accepted_iff_last_two (source : String) :
    isStylesheetSource source = true ↔ lastTwo source = ("css", some "module") := by
  rw [accepted_iff_pieces, pieces_read_back '.' source]
  simp only [List.append_singleton_inj, lastTwo, Prod.mk.injEq]
  cases (readBack '.' source).2 with
  | none => simp
  | some front =>
    rw [Option.elim_some, pieces_read_back '.' front]
    simp only [List.append_singleton_inj, Option.map_some, Option.some.injEq]
    constructor
    · rintro ⟨others, ⟨-, second⟩, first⟩
      exact ⟨first, second⟩
    · rintro ⟨first, second⟩
      exact ⟨_, ⟨rfl, second⟩, first⟩

/-! ### Sources with something in front -/

/-- In front of a dotted ending anything may stand. -/
theorem accepted_behind {source : String} (accepted : isStylesheetSource source = true)
    (dotted : source ≠ "module.css") (front : String) : isStylesheetSource (front ++ source) = true := by
  rcases (accepted_iff_ending source).mp accepted with bare | ⟨stem, rfl⟩
  · contradiction
  · apply (accepted_iff_ending _).mpr
    right
    exact ⟨front ++ stem, String.append_assoc.symm⟩

/-- In front of the bare ending there has to be a dot, where there is anything. -/
theorem bare_behind_iff {front : String} (some : front ≠ "") :
    isStylesheetSource (front ++ "module.css") = true ↔ front.endsWith "." = true := by
  rw [accepted_iff_ending, ends_with_iff]
  constructor
  · rintro (bare | ⟨stem, whole⟩)
    · exact absurd (String.append_eq_right_iff.mp bare) some
    · refine ⟨stem, ?_⟩
      have dotted : stem ++ ".module.css" = stem ++ "." ++ "module.css" := by
        rw [String.append_assoc]
        rfl
      rw [dotted] at whole
      exact (String.append_left_inj "module.css").mp whole
  · rintro ⟨stem, rfl⟩
    right
    exact ⟨stem, String.append_assoc⟩

/-- Reading two pieces from the right is testing how a source ends. More may be written in front of a source that is
accepted, except of the bare ending: in front of that there has to be a dot, which no directory provides. -/
theorem accepted_by_ending (source : String) :
    (isStylesheetSource source = true ↔ lastTwo source = ("css", some "module")) ∧
      (isStylesheetSource source = true ↔ source = "module.css" ∨ source.endsWith ".module.css" = true) ∧
      (isStylesheetSource source = true → source ≠ "module.css" →
        ∀ front, isStylesheetSource (front ++ source) = true) ∧
      (∀ front, front ≠ "" →
        (isStylesheetSource (front ++ "module.css") = true ↔ front.endsWith "." = true)) ∧
      isStylesheetSource "./module.css" = false ∧ isStylesheetSource "styles/module.css" = false := by
  refine ⟨accepted_iff_last_two source, ?_, accepted_behind, fun front some => bare_behind_iff some, ?_, ?_⟩
  · rw [accepted_iff_ending, ends_with_iff]
  · rfl
  · rfl

/-- A source with an empty piece before the ending, behind one that ends as it does; and the bare ending behind the
same text, where a slash stands in place of the dot, and behind two dots. -/
theorem dot_before_bare_ending :
    isStylesheetSource "..module.css" = true ∧ "..module.css" ≠ "module.css" ∧
      isStylesheetSource ("theme.module.css/" ++ "..module.css") = true ∧
      "theme.module.css/" ≠ "" ∧ isStylesheetSource ("theme.module.css/" ++ "module.css") = false ∧
      ".." ≠ "" ∧ isStylesheetSource (".." ++ "module.css") = true := by
  have accepted : isStylesheetSource "..module.css" = true := rfl
  have dotted : "..module.css" ≠ "module.css" := by decide
  have slash : "theme.module.css/" ≠ "" := by decide
  have dots : ".." ≠ "" := by decide
  obtain ⟨-, -, behind, bare, -, -⟩ := accepted_by_ending "..module.css"
  refine ⟨accepted, dotted, behind accepted dotted _, slash, ?_, dots, (bare ".." dots).mpr ?_⟩
  · rw [← Bool.not_eq_true, bare _ slash, ends_with_iff]
    rintro ⟨stem, whole⟩
    have final := congrArg (fun text => text.toList.getLast?) whole
    simp at final
  · exact (ends_with_iff ".." ".").mpr ⟨".", rfl⟩

end StyleInline.SourceEnding
