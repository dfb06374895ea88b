import StyleInline.Proofs.NormalForm

/-! A source can be followed in stages. What its first part leads to is a path in normal form, and a walk over the
names of such a path comes to the very place that they spell. A file in that directory therefore goes on with the
second part as if nothing had come between: climbs in it reach through the first part and on into the directory of
the importing file. -/
namespace StyleInline.Stages
open Text StyleInline.Path Spelling NormalForm

/-- The last name of a place in normal form is kept behind the others, whether it is ordinary or a climb. -/
theorem walk_last {rooted : Bool} {last : String} {outer : List String} (reached : Reached rooted (last :: outer)) :
    Reached rooted outer ∧ walk rooted outer last = last :: outer := by
  obtain ⟨segments, climbs, shape, ordinary, grounded⟩ := reached
  cases segments with
  | cons segment others =>
    simp only [List.cons_append, List.cons.injEq] at shape
    obtain ⟨rfl, rfl⟩ := shape
    obtain ⟨here, further⟩ := List.forall_mem_cons.mp ordinary
    refine ⟨⟨others, climbs, rfl, further, grounded⟩, ?_⟩
    simp [walk, here.2.1, here.2.2.1]
  | nil =>
    cases climbs with
    | zero => simp at shape
    | succ climbs =>
      rw [List.nil_append, List.replicate_succ, List.cons.injEq] at shape
      obtain ⟨rfl, rfl⟩ := shape
      have relative : rooted = false := by
        rw [← Bool.not_eq_true]
        intro root
        exact absurd (grounded root) (Nat.succ_ne_zero climbs)
      subst relative
      refine ⟨⟨[], climbs, rfl, by simp, by simp⟩, ?_⟩
      cases climbs <;> simp [walk, List.replicate_succ]

/-- A walk over the names of a place in normal form comes to that place. -/
theorem foldl_walk_reached {rooted : Bool} {place : List String} (reached : Reached rooted place) :
    place.reverse.foldl (walk rooted) [] = place := by
  induction place with
  | nil => rfl
  | cons last outer ih =>
    obtain ⟨before, step⟩ := walk_last reached
    rw [List.reverse_cons, List.foldl_append, ih before]
    exact step

/-- A file with an ordinary name that is put into a resolved path has that path as its directory. -/
theorem directory_join {name : String} (ordinary : Ordinary name) (file : Path) (source : String) :
    ((file.resolve source).join ⟨name⟩).directory = file.resolve source := by
  have solid := solid_of_reached (reached_place file source)
  have joined : (file.resolve source).join ⟨name⟩ =
      Components.spell ⟨file.directory.rooted, (placeOf file source).reverse ++ [name]⟩ := by
    rw [resolve_spelled, join_spell solid ⟨ordinary.1, ordinary.2.2.2⟩]
  rw [joined, Path.directory, parent_spell (solid_snoc solid ordinary), Option.getD_some, resolve_spelled]

/-- Behind a slash the walk goes on from where the part before it has led. -/
theorem place_of_append (file : Path) (first second : String) :
    placeOf file (first ++ "/" ++ second) =
      (Path.mk second).names.foldl (walk file.directory.rooted) (placeOf file first) := by
  have split : pieces '/' (first ++ "/" ++ second) = pieces '/' first ++ pieces '/' second :=
    pieces_append '/' first second
  simp only [placeOf, List.foldl_append, foldl_walk_names, split, List.filter_append]

/-- To resolve a source in one go is to resolve what stands before a slash as a directory, and then what stands
behind it from a file in there, however that file is named. -/
theorem resolve_in_stages {name : String} (ordinary : Ordinary name) (file : Path) (first second : String) :
    (file.resolve (first ++ "/" ++ second)).text =
      (((file.resolve first).join ⟨name⟩).resolve second).text := by
  have place : placeOf ((file.resolve first).join ⟨name⟩) second = placeOf file (first ++ "/" ++ second) := by
    rw [place_of_append, placeOf, directory_join ordinary, rooted_resolve, names_resolve, List.foldl_append,
      foldl_walk_reached (reached_place file first)]
  have same : (file.resolve (first ++ "/" ++ second)).components =
      (((file.resolve first).join ⟨name⟩).resolve second).components := by
    rw [components_resolve, components_resolve, place, directory_join ordinary, rooted_resolve]
  rw [← spell_components_resolve file, same, spell_components_resolve]

/-- The second part climbs through the first one, which begins with a slash and climbs itself, and out of where the
file starts. -/
theorem stages_climb_through :
    Ordinary "x" ∧ ((Path.mk "src/Card.tsx").resolve "/.././/ui").text = "ui" ∧
      ((Path.mk "src/Card.tsx").resolve "/.././/ui/../../Card.module.css").text =
        (((Path.mk "src/Card.tsx").resolve "/.././/ui").join ⟨"x"⟩ |>.resolve "../../Card.module.css").text ∧
      ((Path.mk "src/Card.tsx").resolve "/.././/ui/../../Card.module.css").text = "../Card.module.css" := by
  have ordinary : Ordinary "x" := by simp [Ordinary]
  have stages := resolve_in_stages ordinary ⟨"src/Card.tsx"⟩ "/.././/ui" "../../Card.module.css"
  exact ⟨ordinary, rfl, stages, rfl⟩

end StyleInline.Stages
