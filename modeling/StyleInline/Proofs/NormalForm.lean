import StyleInline.Proofs.Spelling

/-! The path that a source means is spelled in normal form, so whoever compares such paths may compare texts. The
form is an invariant of the walk: every name that is met leaves climbs only below everything else, and none under
the root. It is also an invariant of a text that grows by one part at a time, which is how a path is put together
where only paths can be held. -/
namespace StyleInline.NormalForm
open Text StyleInline.Path Spelling

/-! ### Places in normal form -/

/-- A segment that stays where it is written. -/
def Ordinary (segment : String) : Prop :=
  segment ≠ "" ∧ segment ≠ "." ∧ segment ≠ ".." ∧ '/' ∉ segment.toList

/-- A segment that ends with anything but a dot stays where it is written. -/
theorem ordinary_of_last {segment : String} {c : Char} (final : segment.toList.getLast? = some c) (visible : c ≠ '.')
    (apart : '/' ∉ segment.toList) : Ordinary segment := by
  have other {text : String} (ends : text.toList.getLast? ≠ some c) : segment ≠ text := by
    rintro rfl
    exact ends final
  have dot : some '.' ≠ some c := mt Option.some_inj.mp visible.symm
  exact ⟨other (by simp), other dot, other dot, apart⟩

/-- Where a walk may have come to, the innermost name first: ordinary names, and before them climbs unless it
started from the root. -/
def Reached (rooted : Bool) (place : List String) : Prop :=
  ∃ segments climbs, place = segments ++ List.replicate climbs ".." ∧ (∀ segment ∈ segments, Ordinary segment) ∧
    (rooted = true → climbs = 0)

theorem reached_start (rooted : Bool) : Reached rooted [] :=
  ⟨[], 0, rfl, by simp, fun _ => rfl⟩

/-- What can stand between slashes. -/
def Segment (name : String) : Prop :=
  name ≠ "" ∧ '/' ∉ name.toList

theorem segment_of_name {p : Path} {name : String} (member : name ∈ p.names) : Segment name := by
  rw [names_eq, List.mem_append] at member
  rcases member with dot | member
  · split at dot
    · rw [List.mem_singleton.mp dot]
      exact ⟨by decide, by decide⟩
    · contradiction
  · obtain ⟨piece, named⟩ := List.mem_filter.mp member
    refine ⟨?_, not_mem_of_piece piece⟩
    rintro rfl
    contradiction

/-- A climb takes the last ordinary name back, and is kept where there is none, unless under the root. -/
theorem reached_climb {rooted : Bool} {place : List String} (reached : Reached rooted place) :
    Reached rooted (walk rooted place "..") := by
  obtain ⟨segments, climbs, rfl, ordinary, grounded⟩ := reached
  cases segments with
  | cons last outer =>
    obtain ⟨here, further⟩ := List.forall_mem_cons.mp ordinary
    have step : walk rooted (last :: outer ++ List.replicate climbs "..") ".." =
        outer ++ List.replicate climbs ".." := by
      simp [walk, here.2.2.1]
    rw [step]
    exact ⟨outer, climbs, rfl, further, grounded⟩
  | nil =>
    cases rooted with
    | true =>
      rw [grounded rfl]
      exact reached_start true
    | false =>
      refine ⟨[], climbs + 1, ?_, by simp, by simp⟩
      cases climbs <;> simp [walk, List.replicate_succ]

/-- One step keeps the form. -/
theorem reached_walk {rooted : Bool} {place : List String} {name : String} (reached : Reached rooted place)
    (segment : Segment name) : Reached rooted (walk rooted place name) := by
  by_cases dot : name = "."
  · rw [dot]
    exact reached
  · by_cases climb : name = ".."
    · rw [climb]
      exact reached_climb reached
    · obtain ⟨segments, climbs, rfl, ordinary, grounded⟩ := reached
      have step : walk rooted (segments ++ List.replicate climbs "..") name =
          name :: segments ++ List.replicate climbs ".." := by
        simp [walk, dot, climb]
      rw [step]
      exact ⟨name :: segments, climbs, rfl,
        List.forall_mem_cons.mpr ⟨⟨segment.1, dot, climb, segment.2⟩, ordinary⟩, grounded⟩

/-- Any number of steps keep it. -/
theorem reached_foldl {rooted : Bool} {place names : List String} (reached : Reached rooted place)
    (segments : ∀ name ∈ names, Segment name) : Reached rooted (names.foldl (walk rooted) place) := by
  induction names generalizing place with
  | nil => exact reached
  | cons name others ih =>
    obtain ⟨here, further⟩ := List.forall_mem_cons.mp segments
    exact ih (reached_walk reached here) further

theorem solid_of_ordinary {name : String} (ordinary : Ordinary name) : Solid name :=
  ⟨by simp [isName, ordinary.1, ordinary.2.1], ordinary.2.2.2⟩

/-- Names stay solid when an ordinary one follows them. -/
theorem solid_snoc {names : List String} {last : String} (solid : ∀ name ∈ names, Solid name)
    (ordinary : Ordinary last) : ∀ name ∈ names ++ [last], Solid name := by
  intro name member
  rcases List.mem_append.mp member with member | member
  · exact solid name member
  · rw [List.mem_singleton.mp member]
    exact solid_of_ordinary ordinary

/-- A place in normal form can be spelled and read again. -/
theorem solid_of_reached {rooted : Bool} {place : List String} (reached : Reached rooted place) :
    ∀ name ∈ place.reverse, Solid name := by
  obtain ⟨segments, climbs, rfl, ordinary, -⟩ := reached
  intro name member
  rcases List.mem_append.mp (List.mem_reverse.mp member) with member | member
  · exact solid_of_ordinary (ordinary name member)
  · rw [List.eq_of_mem_replicate member]
    exact ⟨by decide, by decide⟩

/-! ### The resolved path -/

/-- The names that a source leads to, the innermost first. -/
def placeOf (file : Path) (source : String) : List String :=
  (file.directory.names ++ (Path.mk source).names).foldl (walk file.directory.rooted) []

theorem reached_place (file : Path) (source : String) : Reached file.directory.rooted (placeOf file source) := by
  apply reached_foldl (reached_start _)
  intro name member
  rcases List.mem_append.mp member with member | member
  · exact segment_of_name member
  · exact segment_of_name member

/-- What a source resolves to is the spelling of that place. -/
theorem resolve_spelled (file : Path) (source : String) :
    file.resolve source = Components.spell ⟨file.directory.rooted, (placeOf file source).reverse⟩ := rfl

theorem components_resolve (file : Path) (source : String) :
    (file.resolve source).components = ⟨file.directory.rooted, (placeOf file source).reverse⟩ :=
  components_spell (solid_of_reached (reached_place file source))

/-- A text in normal form: climbs and then ordinary segments with single slashes between them, and a slash in
front when it starts from the root, where nothing climbs. -/
def Normal (rooted : Bool) (text : String) : Prop :=
  ∃ climbs segments,
    text = (if rooted then "/" else "") ++ "/".intercalate (List.replicate climbs ".." ++ segments) ∧
    (∀ segment ∈ segments, Ordinary segment) ∧ (rooted = true → climbs = 0)

theorem normal_spell {rooted : Bool} {place : List String} (reached : Reached rooted place) :
    Normal rooted (Components.spell ⟨rooted, place.reverse⟩).text := by
  obtain ⟨segments, climbs, rfl, ordinary, grounded⟩ := reached
  have same : ∀ segment ∈ segments.reverse, Ordinary segment := fun segment member =>
    ordinary segment (List.mem_reverse.mp member)
  refine ⟨climbs, segments.reverse, ?_, same, grounded⟩
  simp only [Components.spell, glue_eq_intercalate, List.reverse_append, List.reverse_replicate]
  rfl

/-! ### A path that grows by its parts -/

/-- What is met when a path is read from the left. -/
inductive Part where
  | root
  | name (text : String)

def parts (p : Path) : List Part :=
  (if p.rooted then [.root] else []) ++ p.names.map .name

/-- The last name of a path, unless it is a dot or a climb. -/
def lastName? (p : Path) : Option String :=
  p.names.getLast?.filter fun name => name ≠ "." && name ≠ ".."

/-- Puts a part behind the path that is held. A climb takes the last name back; where there is none it is put
behind as well, but nothing climbs above the root. -/
def put (keepRoot : Bool) (held : Path) : Part → Path
  | .root => if keepRoot then held.join ⟨"/"⟩ else held
  | .name text =>
    if text = "." then held
    else if text = ".." then
      if held.parent? = none ∧ held.rooted = true then held
      else if (lastName? held).isSome then held.parent?.getD held
      else held.join ⟨".."⟩
    else held.join ⟨text⟩

/-- Puts all parts of a path behind the one that is held, from the left. -/
def putAll (keepRoot : Bool) (held path : Path) : Path :=
  (parts path).foldl (put keepRoot) held

/-- A text of names is not empty and does not end with a slash, whatever stands before it. -/
theorem open_end {names : List String} (some : names ≠ []) (solid : ∀ name ∈ names, Solid name) (start : String) :
    ¬ (start ++ glue '/' names = "" ∨ (start ++ glue '/' names).toList.getLast? = .some '/') := by
  obtain rfl | ⟨others, last, rfl⟩ := List.eq_nil_or_concat' names
  · contradiction
  · have final : Solid last := solid last (by simp)
    obtain ⟨front, c, shape⟩ : ∃ front c, last.toList = front ++ [c] := by
      rcases List.eq_nil_or_concat' last.toList with nothing | ends
      · exact absurd (String.toList_eq_nil_iff.mp nothing) (ne_empty_of_solid final)
      · exact ends
    have other : c ≠ '/' := by
      rintro rfl
      exact final.2 (by simp [shape])
    have ends : ∃ before, (start ++ glue '/' (others ++ [last])).toList = before ++ [c] := by
      by_cases single : others = []
      · exact ⟨start.toList ++ front, by simp [single, glue, shape]⟩
      · exact ⟨(start ++ glue '/' others ++ "/").toList ++ front, by simp [glue_snoc single, shape]⟩
    obtain ⟨before, ends⟩ := ends
    rintro (empty | slash)
    · simp [empty] at ends
    · rw [ends, List.getLast?_concat] at slash
      exact other (Option.some.inj slash)

/-- Behind a slash and behind the empty text a name is put as it is, elsewhere behind a slash. -/
theorem join_spell {rooted : Bool} {names : List String} {name : String} (solid : ∀ text ∈ names, Solid text)
    (segment : Segment name) :
    (Components.spell ⟨rooted, names⟩).join ⟨name⟩ = Components.spell ⟨rooted, names ++ [name]⟩ := by
  have relative : (Path.mk name).rooted = false := by
    cases start : name.toList.head? with
    | none => simp [Path.rooted, start]
    | some c =>
      have other : c ≠ '/' := by
        rintro rfl
        exact segment.2 (List.mem_of_head? start)
      simp [Path.rooted, start, other]
  rw [Path.join, relative, if_neg Bool.false_ne_true]
  by_cases single : names = []
  · subst single
    cases rooted with
    | true => simp [spell_rooted, glue]
    | false => simp [spell_relative, glue]
  · rw [Components.spell, Components.spell, if_neg (open_end single solid _), glue_snoc single]
    simp only [String.append_assoc]
    rfl

theorem drop_blank_end_names {names : List String} (solid : ∀ name ∈ names, Solid name) :
    dropBlankEnd names = names := by
  rcases List.eq_nil_or_concat' names with rfl | ⟨others, last, rfl⟩
  · rfl
  · have named : isName last = true := (solid last (by simp)).1
    simp [dropBlankEnd, named]

/-- The last name is spelled behind its parent. -/
theorem parent_spell {rooted : Bool} {names : List String} {last : String}
    (solid : ∀ text ∈ names ++ [last], Solid text) :
    (Components.spell ⟨rooted, names ++ [last]⟩).parent? = some (Components.spell ⟨rooted, names⟩) := by
  have apart : ∀ name ∈ names ++ [last], '/' ∉ name.toList := fun name member => (solid name member).2
  have within : ∀ name ∈ names, Solid name := fun name member => solid name (List.mem_append_left _ member)
  have more {init : List String} : init ++ [last] ≠ [] :=
    List.append_ne_nil_of_right_ne_nil _ (List.cons_ne_nil _ _)
  cases rooted with
  | true =>
    rw [spell_rooted, spell_rooted, parent_rooted, pieces_glue apart more, drop_blank_end_names solid, if_neg more,
      List.dropLast_concat, drop_blank_end_names within]
  | false =>
    rw [spell_relative, spell_relative]
    cases names with
    | nil => exact parent_relative (ne_empty_of_solid (solid last List.mem_cons_self)) apart
    | cons first others =>
      have behind : ∀ name ∈ others ++ [last], Solid name := fun name member =>
        solid name (List.mem_cons_of_mem _ member)
      have inner : ∀ name ∈ others, Solid name := fun name member => within name (List.mem_cons_of_mem _ member)
      have visible : first ≠ "" := ne_empty_of_solid (within first List.mem_cons_self)
      have found : (Path.mk (glue '/' (first :: (others ++ [last])))).parent? = _ := parent_relative visible apart
      rw [List.cons_append, found, drop_blank_end_names behind, if_neg more, List.dropLast_concat,
        drop_blank_end_names inner]

/-- The path that is held spells the place that has been reached. -/
structure Holds (rooted : Bool) (place : List String) (held : Path) : Prop where
  reached : Reached rooted place
  spelled : held = Components.spell ⟨rooted, place.reverse⟩

/-- A climb is put as it is walked. -/
theorem put_climb {rooted : Bool} {place : List String} {held : Path} (holds : Holds rooted place held)
    (keepRoot : Bool) :
    put keepRoot held (.name "..") = Components.spell ⟨rooted, (walk rooted place "..").reverse⟩ := by
  obtain ⟨reached, rfl⟩ := holds
  have solid := solid_of_reached reached
  have read : (Components.spell ⟨rooted, place.reverse⟩).components = ⟨rooted, place.reverse⟩ :=
    components_spell solid
  have start : (Components.spell ⟨rooted, place.reverse⟩).rooted = rooted := congrArg Components.rooted read
  have named : (Components.spell ⟨rooted, place.reverse⟩).names = place.reverse := congrArg Components.names read
  have behind : (Components.spell ⟨rooted, place.reverse⟩).join ⟨".."⟩ =
      Components.spell ⟨rooted, place.reverse ++ [".."]⟩ := join_spell solid ⟨by decide, by decide⟩
  cases place with
  | nil =>
    cases rooted with
    | true => rfl
    | false =>
      simp only [put, lastName?, start, named]
      simpa [walk] using behind
  | cons last outer =>
    have noDot : last ≠ "." := by
      rintro rfl
      exact absurd (solid "." (by simp)).1 (by decide)
    rw [List.reverse_cons] at solid start named behind ⊢
    have parent : (Components.spell ⟨rooted, outer.reverse ++ [last]⟩).parent? =
        some (Components.spell ⟨rooted, outer.reverse⟩) := parent_spell solid
    simp only [put, lastName?, start, named]
    by_cases climb : last = ".."
    · rw [climb] at parent behind ⊢
      simp [parent, behind, walk]
    · simp [parent, noDot, climb, walk]

/-- Every name is put as it is walked. -/
theorem holds_put {rooted : Bool} {place : List String} {held : Path} {name : String}
    (holds : Holds rooted place held) (segment : Segment name) (keepRoot : Bool) :
    Holds rooted (walk rooted place name) (put keepRoot held (.name name)) := by
  refine ⟨reached_walk holds.reached segment, ?_⟩
  by_cases dot : name = "."
  · rw [dot]
    exact holds.spelled
  · by_cases climb : name = ".."
    · rw [climb]
      exact put_climb holds keepRoot
    · have solid := solid_of_reached holds.reached
      have behind : (Components.spell ⟨rooted, place.reverse⟩).join ⟨name⟩ =
          Components.spell ⟨rooted, place.reverse ++ [name]⟩ := join_spell solid segment
      simp [put, dot, climb, holds.spelled, behind, walk]

theorem holds_names {rooted : Bool} {place names : List String} {held : Path} (holds : Holds rooted place held)
    (segments : ∀ name ∈ names, Segment name) (keepRoot : Bool) :
    Holds rooted (names.foldl (walk rooted) place) ((names.map Part.name).foldl (put keepRoot) held) := by
  induction names generalizing place held with
  | nil => exact holds
  | cons name others ih =>
    obtain ⟨here, further⟩ := List.forall_mem_cons.mp segments
    exact ih (holds_put holds here keepRoot) further

/-- The parts of the directory and then those of the source, put one behind another, make the resolved path. The
root counts in the directory alone. -/
theorem resolve_puts (file : Path) (source : String) :
    file.resolve source = putAll false (putAll true ⟨""⟩ file.directory) ⟨source⟩ := by
  have inside (p : Path) : ∀ name ∈ p.names, Segment name := fun _ member => segment_of_name member
  have started : Holds file.directory.rooted []
      (((if file.directory.rooted then [Part.root] else []).foldl (put true) ⟨""⟩)) := by
    refine ⟨reached_start _, ?_⟩
    cases file.directory.rooted <;> rfl
  have passed (held : Path) :
      (if (Path.mk source).rooted then [Part.root] else []).foldl (put false) held = held := by
    cases (Path.mk source).rooted <;> rfl
  have whole := holds_names (holds_names started (inside file.directory) true) (inside ⟨source⟩) false
  rw [← List.foldl_append] at whole
  rw [putAll, putAll, parts, parts, List.foldl_append, List.foldl_append, passed]
  exact whole.spelled.symm

/-! ### Equal paths -/

theorem rooted_resolve (file : Path) (source : String) : (file.resolve source).rooted = file.directory.rooted :=
  (Components.mk.inj (components_resolve file source)).1

theorem names_resolve (file : Path) (source : String) :
    (file.resolve source).names = (placeOf file source).reverse :=
  (Components.mk.inj (components_resolve file source)).2

/-- A resolved path is the spelling of its own components. -/
theorem spell_components_resolve (file : Path) (source : String) :
    (file.resolve source).components.spell = file.resolve source := by
  rw [components_resolve, resolve_spelled]

/-- Only the components of the importing file count, not how they are written. -/
theorem resolve_congr {file other : Path} (same : file.components = other.components) (source : String) :
    file.resolve source = other.resolve source := by
  have directories : file.directory.components = other.directory.components := by
    rw [components_directory, components_directory, same]
  have rooted : file.directory.rooted = other.directory.rooted := congrArg Components.rooted directories
  have names : file.directory.names = other.directory.names := congrArg Components.names directories
  simp only [Path.resolve, rooted, names]

/-- A file has a directory that starts from the root just when its parent is there and does. -/
theorem rooted_directory_iff (file : Path) :
    file.directory.rooted = true ↔ ∃ parent, file.parent? = some parent ∧ parent.rooted = true := by
  unfold Path.directory
  cases file.parent? with
  | none => simp [Path.rooted]
  | some parent => simp

/-- Whatever the file and the source are, the path that is resolved is in normal form, and it starts from the root
just when the parent of the file does. It is the path that parts put one behind another make. So resolved paths
are equal just when their texts are, and a source means the same text in equal files. -/
theorem resolved_in_normal_form (file : Path) (source : String) :
    Normal (file.resolve source).rooted (file.resolve source).text ∧
      ((file.resolve source).rooted = true ↔ ∃ parent, file.parent? = some parent ∧ parent.rooted = true) ∧
      file.resolve source = putAll false (putAll true ⟨""⟩ file.directory) ⟨source⟩ ∧
      (∀ (other : Path) (origin : String), (file.resolve source == other.resolve origin) = true ↔
        (file.resolve source).text = (other.resolve origin).text) ∧
      ∀ other : Path, (file == other) = true → (file.resolve source).text = (other.resolve source).text := by
  refine ⟨?_, ?_, resolve_puts file source, fun other origin => ?_, fun other equal => ?_⟩
  · rw [rooted_resolve]
    exact normal_spell (reached_place file source)
  · rw [rooted_resolve]
    exact rooted_directory_iff file
  · rw [beq_iff_components]
    constructor
    · intro same
      rw [← spell_components_resolve file, same, spell_components_resolve]
    · intro same
      exact congrArg (fun text => (Path.mk text).components) same
  · rw [resolve_congr (beq_iff_components.mp equal)]

/-- Two spellings of a file, and a source that climbs above where both of them start. -/
theorem one_text_for_two_spellings :
    (Path.mk "src//ui/./Card.tsx" == ⟨"src/ui//Card.tsx/."⟩) = true ∧
      ((Path.mk "src//ui/./Card.tsx").resolve ".././/../../x/../Card.module.css").text = "../Card.module.css" ∧
      ((Path.mk "src/ui//Card.tsx/.").resolve ".././/../../x/../Card.module.css").text = "../Card.module.css" := by
  have equal : (Path.mk "src//ui/./Card.tsx" == ⟨"src/ui//Card.tsx/."⟩) = true := by decide
  have first : ((Path.mk "src//ui/./Card.tsx").resolve ".././/../../x/../Card.module.css").text =
      "../Card.module.css" := by
    decide
  have same := (resolved_in_normal_form ⟨"src//ui/./Card.tsx"⟩ ".././/../../x/../Card.module.css").2.2.2.2 _ equal
  exact ⟨equal, first, same.symm.trans first⟩

end StyleInline.NormalForm
