import StyleInline.Proofs.NormalForm
import StyleInline.Proofs.SourceEnding

/-! Resolving a source is joining two texts. The join that is meant here knows of no paths: it writes the directory
and the source with a slash between them and normalises what stands between slashes, from the left. It keeps what
it has kept so far in order, as one reads it. -/
namespace StyleInline.TextualJoin
open Text StyleInline.Path Spelling SourceEnding NormalForm

/-! ### Joining texts -/

/-- The text of the directory that a file is in. Where that is missing or empty, a dot stands for it. -/
def directoryText (file : Path) : String :=
  match file.parent? with
  | none => "."
  | some parent => if parent.text = "" then "." else parent.text

/-- What is kept when one more segment is met. -/
def keep (rooted : Bool) (kept : List (List Char)) (segment : List Char) : List (List Char) :=
  if segment = [] ∨ segment = ['.'] then kept
  else if segment = ['.', '.'] then
    match kept.getLast? with
    | none => if rooted then kept else kept ++ [segment]
    | some last =>
      if last = ['.', '.'] then
        if rooted then kept else kept ++ [segment]
      else kept.dropLast
  else kept ++ [segment]

/-- The text begins with a slash. -/
def fromRoot (text : List Char) : Bool :=
  text.head? = some '/'

/-- What is kept of the segments between the slashes of a text. -/
def segmentsOf (text : List Char) : List (List Char) :=
  (text.splitOn '/').foldl (keep (fromRoot text)) []

/-- The segments that are kept, with single slashes between them, and one in front where the text begins so. -/
def normalized (text : List Char) : List Char :=
  (if fromRoot text then ['/'] else []) ++ ['/'].intercalate (segmentsOf text)

/-- The join of texts as hosts of the language define it. Empty texts do not count, a dot stands for nothing at
all, and a slash at the end stays there. -/
def posixJoin (texts : List (List Char)) : List Char :=
  let whole := ['/'].intercalate (texts.filter fun text => text ≠ [])
  let inner := ['/'].intercalate (segmentsOf whole)
  let body := if inner = [] ∧ fromRoot whole = false then ['.'] else inner
  let closed := if body ≠ [] ∧ whole.getLast? = some '/' then body ++ ['/'] else body
  if fromRoot whole then '/' :: closed else closed

/-! ### Both walks -/

/-- Under the root nothing climbs. -/
theorem no_climb_under_root {place : List String} (reached : Reached true place) : ".." ∉ place := by
  obtain ⟨segments, climbs, rfl, ordinary, grounded⟩ := reached
  rw [grounded rfl, List.replicate_zero, List.append_nil]
  intro climb
  exact (ordinary ".." climb).2.2.1 rfl

/-- Characters are those of a name just when they spell it. -/
theorem to_list_eq_iff (name text : String) : name.toList = text.toList ↔ name = text :=
  String.toList_inj

/-- A climb that is met is kept as it is walked. -/
theorem keep_climb {rooted : Bool} {place : List String} (reached : Reached rooted place) :
    keep rooted (place.reverse.map String.toList) ['.', '.'] =
      (walk rooted place "..").reverse.map String.toList := by
  cases place with
  | nil => cases rooted <;> rfl
  | cons last outer =>
    have final : ((last :: outer).reverse.map String.toList).getLast? = some last.toList := by simp
    by_cases climb : last = ".."
    · subst climb
      cases rooted with
      | true => exact absurd List.mem_cons_self (no_climb_under_root reached)
      | false => simp [keep, walk]
    · have other : last.toList ≠ ['.', '.'] := mt (to_list_eq_iff last "..").mp climb
      simp [keep, walk, climb, other]

/-- A name that is met is kept as it is walked, as long as the place is in normal form. -/
theorem keep_walk {rooted : Bool} {place : List String} {name : String} (reached : Reached rooted place)
    (named : isName name = true) : keep rooted (place.reverse.map String.toList) name.toList =
      (walk rooted place name).reverse.map String.toList := by
  simp only [isName, ne_eq, decide_not, Bool.and_eq_true, Bool.not_eq_true', decide_eq_false_iff_not] at named
  by_cases climb : name = ".."
  · rw [climb]
    exact keep_climb reached
  · have some : name.toList ≠ [] := mt (to_list_eq_iff name "").mp named.1
    have noDot : name.toList ≠ ['.'] := mt (to_list_eq_iff name ".").mp named.2
    have noClimb : name.toList ≠ ['.', '.'] := mt (to_list_eq_iff name "..").mp climb
    simp [keep, walk, named.2, climb, some, noDot, noClimb]

/-- Pieces that are no names are passed over, and the others are kept as they are walked. -/
theorem foldl_keep {rooted : Bool} {place pieces : List String} (reached : Reached rooted place)
    (apart : ∀ piece ∈ pieces, '/' ∉ piece.toList) :
    (pieces.map String.toList).foldl (keep rooted) (place.reverse.map String.toList) =
      ((pieces.filter isName).foldl (walk rooted) place).reverse.map String.toList := by
  induction pieces generalizing place with
  | nil => rfl
  | cons piece others ih =>
    obtain ⟨here, further⟩ := List.forall_mem_cons.mp apart
    rw [List.map_cons, List.foldl_cons]
    by_cases named : isName piece = true
    · have visible : piece ≠ "" := ne_empty_of_solid ⟨named, here⟩
      rw [keep_walk reached named, List.filter_cons_of_pos named, List.foldl_cons]
      exact ih (reached_walk reached ⟨visible, here⟩) further
    · have blank : piece.toList = [] ∨ piece.toList = ['.'] := by
        simp only [isName, ne_eq, decide_not, Bool.and_eq_true, Bool.not_eq_true', decide_eq_false_iff_not,
          not_and, not_not] at named
        by_cases empty : piece = ""
        · exact .inl (by rw [empty]; rfl)
        · exact .inr (by rw [named empty]; rfl)
      rw [keep, if_pos blank, List.filter_cons_of_neg named]
      exact ih reached further

/-! ### The directory and the source -/

theorem directory_text_eq (file : Path) :
    directoryText file = if file.directory.text = "" then "." else file.directory.text := by
  unfold directoryText Path.directory
  cases file.parent? with
  | none => rfl
  | some parent => rfl

/-- The dot that stands for a missing directory has no names, no more than the empty text. -/
theorem names_directory_text (file : Path) :
    (pieces '/' (directoryText file)).filter isName = (pieces '/' file.directory.text).filter isName := by
  rw [directory_text_eq]
  split
  · rename_i empty
    rw [empty]
    rfl
  · rfl

/-- What follows the directory does not make it start from the root. -/
theorem from_root_directory_text (file : Path) (rest : List Char) :
    fromRoot ((directoryText file).toList ++ rest) = file.directory.rooted := by
  rw [directory_text_eq]
  split
  · rename_i empty
    simp [fromRoot, Path.rooted, empty]
  · rename_i some
    have start : file.directory.text.toList ≠ [] := mt String.toList_eq_nil_iff.mp some
    obtain ⟨c, others, shape⟩ := List.exists_cons_of_ne_nil start
    simp [fromRoot, Path.rooted, shape, Bool.beq_eq_decide_eq]

/-- What is kept of the directory and the source is where the walk over both comes to. -/
theorem segments_of_joined (file : Path) (source : String) :
    segmentsOf ((directoryText file).toList ++ '/' :: source.toList) =
      (placeOf file source).reverse.map String.toList := by
  have split : ((directoryText file).toList ++ '/' :: source.toList).splitOn '/' =
      (pieces '/' (directoryText file) ++ pieces '/' source).map String.toList := by
    rw [List.map_append, map_to_list_pieces, map_to_list_pieces]
    exact List.splitOnP_append_cons _ _ rfl
  have apart : ∀ piece ∈ pieces '/' (directoryText file) ++ pieces '/' source, '/' ∉ piece.toList := by
    intro piece member
    rcases List.mem_append.mp member with member | member
    · exact not_mem_of_piece member
    · exact not_mem_of_piece member
  have kept := foldl_keep (reached_start file.directory.rooted) apart
  rw [segmentsOf, from_root_directory_text, split, placeOf, List.foldl_append, foldl_walk_names, foldl_walk_names,
    ← List.foldl_append, ← names_directory_text, ← List.filter_append]
  exact kept

/-- Whatever the source is, the text of the path is what is kept of the directory's text, a slash and the source. -/
theorem resolve_normalized (file : Path) (source : String) :
    (file.resolve source).text.toList = normalized ((directoryText file).toList ++ '/' :: source.toList) := by
  rw [normalized, segments_of_joined, from_root_directory_text, resolve_spelled]
  cases file.directory.rooted with
  | true => simp [spell_rooted, glue]
  | false => simp [spell_relative, glue]

/-! ### Sources of stylesheets -/

/-- The last segment of a source that is accepted is ordinary, so a walk over the source ends with it. -/
theorem place_of_accepted {source : String} (accepted : isStylesheetSource source = true) (file : Path) :
    ∃ others last outer, pieces '/' source = others ++ [last] ∧ placeOf file source = last :: outer ∧
      Ordinary last := by
  obtain ⟨others, last, split, final⟩ := last_piece (last_of_accepted accepted) (by decide : 's' ≠ '/')
  have apart : '/' ∉ last.toList := not_mem_of_piece (split ▸ List.mem_append_right _ List.mem_cons_self)
  have ordinary : Ordinary last := ordinary_of_last final (by decide) apart
  have named : isName last = true := by simp [isName, ordinary.1, ordinary.2.1]
  refine ⟨others, last, (others.filter isName).foldl (walk file.directory.rooted)
    (file.directory.names.foldl (walk file.directory.rooted) []), split, ?_, ordinary⟩
  rw [placeOf, List.foldl_append, foldl_walk_names _ _ ⟨source⟩, split, List.filter_append, List.foldl_append,
    List.filter_cons_of_pos named]
  simp [walk, ordinary.2.1, ordinary.2.2.1]

theorem directory_text_ne_empty (file : Path) : directoryText file ≠ "" := by
  rw [directory_text_eq]
  split
  · decide
  · rename_i some
    exact some

/-- What a join does with nothing, or with a slash at the end, does not matter to the source of a stylesheet. -/
theorem join_of_accepted {source : String} (accepted : isStylesheetSource source = true) (file : Path) :
    posixJoin [(directoryText file).toList, source.toList] =
      normalized ((directoryText file).toList ++ '/' :: source.toList) := by
  have final := last_of_accepted accepted
  have some : source.toList ≠ [] := by
    intro nothing
    simp [nothing] at final
  have whole : ['/'].intercalate ([(directoryText file).toList, source.toList].filter fun text => text ≠ []) =
      (directoryText file).toList ++ '/' :: source.toList := by
    rw [List.filter_eq_self.mpr (by simp [directory_text_ne_empty, some])]
    simp [List.intercalate, List.intersperse]
  have ends : ((directoryText file).toList ++ '/' :: source.toList).getLast? ≠ .some '/' := by
    simp [List.getLast?_append, List.getLast?_cons, final]
  have inner : ['/'].intercalate (segmentsOf ((directoryText file).toList ++ '/' :: source.toList)) ≠ [] := by
    obtain ⟨-, last, outer, -, place, -⟩ := place_of_accepted accepted file
    have solid := solid_of_reached (reached_place file source)
    have open_text := open_end (by simp [place]) solid ""
    intro nothing
    apply open_text
    left
    apply String.toList_inj.mp
    simpa [glue, segments_of_joined] using nothing
  unfold posixJoin normalized
  simp only [whole, inner, ends, false_and, and_false, ↓reduceIte]
  cases fromRoot ((directoryText file).toList ++ '/' :: source.toList) <;> rfl

/-- For a source that is accepted, in whatever file, the text of the resolved path is the join of the directory's
text and the source. That join is what is kept of both with a slash between them. -/
theorem resolve_is_posix_join {source : String} (accepted : isStylesheetSource source = true) (file : Path) :
    (file.resolve source).text.toList = posixJoin [(directoryText file).toList, source.toList] ∧
      posixJoin [(directoryText file).toList, source.toList] =
        normalized ((directoryText file).toList ++ '/' :: source.toList) := by
  have joined := join_of_accepted accepted file
  exact ⟨(resolve_normalized file source).trans joined.symm, joined⟩

/-- A relative file, and a source that begins with a slash and climbs out of where the file starts. -/
theorem join_climbs_out :
    isStylesheetSource "/.././../..//ui/./Card.module.css" = true ∧
      ((Path.mk "src/./Card.tsx").resolve "/.././../..//ui/./Card.module.css").text = "../../ui/Card.module.css" ∧
      posixJoin ["src".toList, "/.././../..//ui/./Card.module.css".toList] = "../../ui/Card.module.css".toList := by
  have accepted : isStylesheetSource "/.././../..//ui/./Card.module.css" = true := by decide
  have text : ((Path.mk "src/./Card.tsx").resolve "/.././../..//ui/./Card.module.css").text =
      "../../ui/Card.module.css" := by
    decide
  obtain ⟨joined, -⟩ := resolve_is_posix_join accepted ⟨"src/./Card.tsx"⟩
  rw [text] at joined
  exact ⟨accepted, text, joined.symm⟩

end StyleInline.TextualJoin
