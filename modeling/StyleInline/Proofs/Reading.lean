import Mathlib.Data.List.TakeWhile
import StyleInline.Json.Mismatch
import StyleInline.Proofs.Grammar

/-! What it means for a reader to read just the words of a grammar. Such a statement has two sides: what is
answered is spelled by the text in front of the rest, and wherever the text begins with a word the answer is
what that word stands for. The second side also says that no reader takes more or less than a word, so readers
can be put in sequence. Faults are not spoken of: a reader that does not answer reports one. -/
namespace StyleInline.Reading
open Json Grammar

variable {α β : Type}

/-- The reader answers where the text begins with a word of the relation, with what the word stands for and
with the text behind it, and nowhere else. -/
def Exactly (read : List Char → Except Fault (α × List Char)) (R : List Char → α → Prop) : Prop :=
  ∀ text a rest, read text = .ok (a, rest) ↔ ∃ word, text = word ++ rest ∧ R word a

/-- Space, and after it the word of a value of which `a` is made. -/
def Stands (A : Value → α → Prop) (word : List Char) (a : α) : Prop :=
  ∃ space core value, word = space ++ core ∧ Space space ∧ Spells core value ∧ A value a

/-- The reader reads the values of which something is made, with the space in front of them. -/
abbrev Reads (read : List Char → Except Fault (α × List Char)) (A : Value → α → Prop) : Prop :=
  Exactly read (Stands A)

/-! ### Space -/

theorem is_space_iff (c : Char) : isSpace c = true ↔ c ∈ [' ', '\t', '\n', '\r'] := by
  simp [isSpace, or_assoc, or_left_comm]

theorem space_iff_all (text : List Char) : Space text ↔ ∀ c ∈ text, isSpace c = true := by
  simp only [Space, is_space_iff]

/-- What is left after the space follows space. -/
theorem space_skipped {text left : List Char} (skipped : skipSpace text = left) :
    ∃ space, Space space ∧ text = space ++ left := by
  refine ⟨text.takeWhile isSpace, (space_iff_all _).mpr fun c member => List.mem_takeWhile_imp member, ?_⟩
  rw [← skipped, skipSpace, List.takeWhile_append_dropWhile]

/-- Space is skipped up to the first character that is none. -/
theorem skip_space_append {space : List Char} {c : Char} (rest : List Char) (blank : Space space)
    (visible : isSpace c = false) : skipSpace (space ++ c :: rest) = c :: rest := by
  rw [skipSpace, List.dropWhile_append_of_pos ((space_iff_all space).mp blank)]
  simp [visible]

/-- A mark is met where only space stands before it. -/
theorem skip_space_cons_iff {c : Char} (visible : isSpace c = false) (text rest : List Char) :
    skipSpace text = c :: rest ↔ ∃ space, Space space ∧ text = space ++ c :: rest := by
  constructor
  · exact space_skipped
  · rintro ⟨space, blank, rfl⟩
    exact skip_space_append rest blank visible

theorem skip_space_nil_iff (text : List Char) : skipSpace text = [] ↔ Space text := by
  rw [skipSpace, List.dropWhile_eq_nil_iff, space_iff_all]

/-! ### Words -/

/-- A fixed word is read where the text begins with it. -/
theorem read_word_iff (letters text rest : List Char) :
    readWord letters text = .ok rest ↔ text = letters ++ rest := by
  induction letters generalizing text with
  | nil => simp [readWord]
  | cons letter more ih =>
    cases text with
    | nil => simp [readWord]
    | cons c after =>
      simp only [readWord, List.cons_append, List.cons.injEq]
      split
      · rename_i same
        rw [ih]
        simp [same]
      · rename_i different
        simp [different]

/-! ### What is made of an answer, and whole texts -/

theorem reads_congr {read : List Char → Except Fault (α × List Char)} {A B : Value → α → Prop}
    (reads : Reads read A) (same : ∀ value a, A value a ↔ B value a) : Reads read B := by
  intro text a rest
  rw [reads text a rest]
  simp only [Stands, same]

/-- What is decided about an answer may look at the text behind it only to refuse. Then what is made of the
values is what is made of the answers. -/
theorem reads_and_then {reader : Reader α} {A : Value → α → Prop} (reads : Reads reader.read A)
    {decide : α → List Char → Except Fault β} {D : α → β → Prop}
    (decides : ∀ a rest b, decide a rest = .ok b ↔ D a b) :
    Reads (reader.andThen decide).read (fun value b => ∃ a, A value a ∧ D a b) := by
  intro text b rest
  constructor
  · intro answered
    simp only [Reader.andThen] at answered
    cases reading : reader.read text with
    | error fault => simp [reading] at answered
    | ok pair =>
      obtain ⟨a, after⟩ := pair
      cases deciding : decide a after with
      | error fault => simp [reading, deciding] at answered
      | ok made =>
        simp only [reading, deciding, Except.ok.injEq, Prod.mk.injEq] at answered
        obtain ⟨rfl, rfl⟩ := answered
        obtain ⟨word, shape, space, core, value, parts, blank, spelled, stands⟩ := (reads _ _ _).mp reading
        have decided := (decides a after made).mp deciding
        exact ⟨word, shape, space, core, value, parts, blank, spelled, a, stands, decided⟩
  · rintro ⟨word, shape, space, core, value, parts, blank, spelled, a, stands, made⟩
    have reading := (reads text a rest).mpr ⟨word, shape, space, core, value, parts, blank, spelled, stands⟩
    have deciding := (decides a rest b).mpr made
    simp [Reader.andThen, reading, deciding]

theorem reads_map {reader : Reader α} {A : Value → α → Prop} (reads : Reads reader.read A) (f : α → β) :
    Reads (reader.map f).read (fun value b => ∃ a, A value a ∧ b = f a) :=
  reads_and_then reads fun a _ b => by rw [Except.ok.injEq, eq_comm]

/-- A whole text is read where it means a value of which something is made. -/
theorem read_all_iff {read : List Char → Except Fault (α × List Char)} {A : Value → α → Prop}
    (reads : Reads read A) (text : String) (a : α) :
    readAll read text = .ok a ↔ ∃ value, Means text.toList value ∧ A value a := by
  constructor
  · intro answered
    unfold readAll at answered
    simp only at answered
    split at answered
    · contradiction
    · rename_i found rest reading
      split at answered
      · rename_i nothing
        cases answered
        obtain ⟨_, shape, space, core, value, rfl, blank, spelled, made⟩ := (reads _ _ _).mp reading
        rw [shape]
        exact ⟨value, .around blank spelled ((skip_space_nil_iff rest).mp nothing), made⟩
      · contradiction
  · rintro ⟨value, means, made⟩
    generalize shape : text.toList = chars at means
    obtain @⟨before, core, after, _, left, spelled, right⟩ := means
    have reading : read (before ++ core ++ after) = .ok (a, after) :=
      (reads _ _ _).mpr ⟨before ++ core, rfl, before, core, value, rfl, left, spelled, made⟩
    have nothing := (skip_space_nil_iff after).mpr right
    simp only [readAll, shape, reading, nothing]

end StyleInline.Reading
