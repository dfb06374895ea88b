import Mathlib.Data.List.Forall2
import Mathlib.Tactic.Choose
import StyleInline.Proofs.ConfigText
import StyleInline.Proofs.ExportsText
import StyleInline.Proofs.Outcomes
import StyleInline.Proofs.SecondRun

/-! Exports can be given to a run in two ways: written into the table of its configuration, or in files beside
the stylesheets. The same texts given in either way make the same run. A text of exports that stands inside of
another text has to mean there what it means by itself, and the table has to be searched by equality of paths
where files are found by their texts. -/
namespace StyleInline.TableAndFiles
open Json Grammar Gathering Reading Members SupplyText ConfigText ExportsText DocumentOrder Traversal Outcomes
open SecondRun (dotted cardImport)

/-! ### Texts inside of a text -/

/-- A member of an object with the text of its value as it stands, whatever it means. -/
inductive Entry : List Char → String × List Char → Prop where
  | colon {name before after text : List Char} {key : String} (named : StringText name key)
      (left : Space before) (right : Space after) : Entry (name ++ before ++ ':' :: (after ++ text)) (key, text)

/-- An object, by the names and the texts of its members. -/
def Entries (word : List Char) (entries : List (String × List Char)) : Prop :=
  ∃ inner, word = '{' :: inner ∧ Inside '}' (Padded Entry) inner entries

/-- The text of a root. -/
def RootText (text : List Char) (root? : Option Path) : Prop :=
  ∃ value, Means text value ∧ NamesRoot value root?

/-- A configuration with this root, in which the supply is written with this text: by name, with the root
before it or after it if there is one, or by place. -/
inductive Configured (root? : Option Path) (supply : List Char) : List Char → Prop where
  | alone {word : List Char} (unrooted : root? = none) (listed : Entries word [("exports", supply)]) :
      Configured root? supply word
  | behind {word root : List Char} (rooted : RootText root root?)
      (listed : Entries word [("absoluteRootDirPath", root), ("exports", supply)]) : Configured root? supply word
  | before {word root : List Char} (rooted : RootText root root?)
      (listed : Entries word [("exports", supply), ("absoluteRootDirPath", root)]) : Configured root? supply word
  | byPlace {inner root : List Char} (rooted : RootText root root?)
      (listed : Inside ']' (Padded Eq) inner [root, supply]) : Configured root? supply ('[' :: inner)

/-- The text of a configuration with this root, whose table has these entries in this order. -/
def Tabled (raw : List Char) (root? : Option Path) (entries : List (String × List Char)) : Prop :=
  ∃ before word after supply table, raw = before ++ word ++ after ∧ Space before ∧ Space after ∧
    Configured root? supply word ∧ Entries supply [("inline", table)] ∧ Entries table entries

/-- What the text of a member means by itself, it means where it stands. -/
theorem member_of_entry (word : List Char) (entry : String × List Char) (member : String × Value)
    (padded : Padded Entry word entry) (same : member.1 = entry.1 ∧ Means entry.2 member.2) :
    Padded (Member Spells) word member := by
  obtain ⟨key, value⟩ := member
  obtain @⟨front, core, back, _, outer, written, last⟩ := padded
  obtain @⟨name, before, after, text, key, named, left, right⟩ := written
  obtain ⟨rfl, means⟩ := same
  simp only at means
  obtain @⟨gap, word, tail, _, inner, spelled, blank⟩ := means
  have member := Member.colon named left (space_append right inner) spelled
  have wider := Padded.around outer member (space_append blank last)
  simpa using wider

theorem spells_entries {word : List Char} {entries : List (String × List Char)}
    {members : List (String × Value)} (listed : Entries word entries)
    (same : List.Forall₂ (fun entry member => member.1 = entry.1 ∧ Means entry.2 member.2) entries members) :
    Spells word (.object members) := by
  obtain ⟨inner, rfl, inside⟩ := listed
  exact .object (inside_transport member_of_entry inside same)

theorem element_of_text (word text : List Char) (value : Value) (padded : Padded Eq word text)
    (means : Means text value) : Padded Spells word value := by
  obtain @⟨front, _, back, _, outer, rfl, last⟩ := padded
  obtain @⟨gap, word, tail, _, inner, spelled, blank⟩ := means
  have wider := Padded.around (space_append outer inner) spelled (space_append blank last)
  simpa using wider

/-- A supply may be written wherever a configuration has a place for one. -/
theorem configures_of_configured {root? : Option Path} {text word : List Char} {value : Value} {supply : Supply}
    (configured : Configured root? text word) (means : Means text value) (named : NamesSupply value supply) :
    ∃ whole, Spells word whole ∧ Configures whole ⟨root?, supply⟩ := by
  cases configured with
  | alone unrooted listed =>
    subst unrooted
    have spelled : Spells word (.object [("exports", value)]) :=
      spells_entries listed (.cons ⟨rfl, means⟩ .nil)
    exact ⟨_, spelled, .named (by simp) (by simp) rfl named⟩
  | behind rooted listed =>
    obtain ⟨root, stands, names⟩ := rooted
    have spelled : Spells word (.object [("absoluteRootDirPath", root), ("exports", value)]) :=
      spells_entries listed (.cons ⟨rfl, stands⟩ (.cons ⟨rfl, means⟩ .nil))
    exact ⟨_, spelled, .named (by simp) (by simp) names named⟩
  | before rooted listed =>
    obtain ⟨root, stands, names⟩ := rooted
    have spelled : Spells word (.object [("exports", value), ("absoluteRootDirPath", root)]) :=
      spells_entries listed (.cons ⟨rfl, means⟩ (.cons ⟨rfl, stands⟩ .nil))
    exact ⟨_, spelled, .named (by simp) (by simp) names named⟩
  | byPlace rooted listed =>
    obtain ⟨root, stands, names⟩ := rooted
    have inside := inside_transport element_of_text listed (.cons stands (.cons means .nil))
    exact ⟨_, .array inside, .listed (by simp) names named⟩

/-! ### The table -/

section Table

variable (pairsOf : String × List Char → List (String × String)) (entries : List (String × List Char))

/-- The entries as members of a table, when their texts render these pairs. -/
def membersIn : List (String × Exports) :=
  entries.map fun entry => (entry.1, .ofList (pairsOf entry))

/-- The table of these members as a value. -/
def valueOf : Value :=
  .object (entries.map fun entry => (entry.1, .object (membersOf (pairsOf entry))))

theorem names_table : NamesTable (valueOf pairsOf entries) (.ofMembers (membersIn pairsOf entries)) := by
  refine ⟨membersIn pairsOf entries, ⟨_, rfl, ?_⟩, gathers_of_list _⟩
  rw [membersIn, List.forall₂_map_left_iff, List.forall₂_map_right_iff, List.forall₂_same]
  intro entry _
  exact ⟨rfl, pairsOf entry, (each_string_iff _ _).mpr rfl, gathers_of_list _⟩

variable {pairsOf entries}

theorem parse_tabled {raw : String} {root? : Option Path} (tabled : Tabled raw.toList root? entries)
    (rendered : ∀ entry ∈ entries, Renders entry.2 (pairsOf entry)) :
    Config.parse raw = .ok ⟨root?, .inline (.ofMembers (membersIn pairsOf entries))⟩ := by
  obtain ⟨before, word, after, supply, table, shape, left, right, configured, supplied, listed⟩ := tabled
  have inner : Spells table (valueOf pairsOf entries) := by
    refine spells_entries listed ?_
    rw [List.forall₂_map_right_iff, List.forall₂_same]
    exact fun entry member => ⟨rfl, rendered entry member⟩
  have outer : Spells supply (.object [("inline", valueOf pairsOf entries)]) :=
    spells_entries supplied (.cons ⟨rfl, means_of_spells inner⟩ .nil)
  obtain ⟨whole, spelled, configures⟩ :=
    configures_of_configured configured (means_of_spells outer) (.table (names_table pairsOf entries))
  refine parse_described (.inr ⟨whole, ?_, configures⟩)
  rw [shape]
  exact .around left spelled right

/-- A stylesheet has the exports of its entry, if all that are entered for its path have the same text. -/
theorem table_answers {stylesheet : Path} {text : List Char} {pairs : List (String × String)}
    (rendered : ∀ entry ∈ entries, Renders entry.2 (pairsOf entry)) (renders : Renders text pairs)
    (entered : (stylesheet.text, text) ∈ entries)
    (only : ∀ entry ∈ entries, (Path.mk entry.1 == stylesheet) = true → entry.2 = text) :
    (StyleTable.ofMembers (membersIn pairsOf entries)).exportsOf stylesheet = .ok (.ofList pairs) := by
  have searched : (StyleTable.ofMembers (membersIn pairsOf entries)).get? stylesheet =
      (entries.reverse.find? fun entry => Path.mk entry.1 == stylesheet).map fun entry => .ofList (pairsOf entry) := by
    rw [get_of_members, membersIn, ← List.map_reverse, List.find?_map, Option.map_map]
    rfl
  rw [StyleTable.exportsOf, searched]
  cases found : entries.reverse.find? fun entry => Path.mk entry.1 == stylesheet with
  | none =>
    have absent := List.find?_eq_none.mp found _ (List.mem_reverse.mpr entered)
    exact absurd (BEq.rfl : (stylesheet == stylesheet) = true) absent
  | some entry =>
    have member := List.mem_reverse.mp (List.mem_of_find?_eq_some found)
    have equal := List.find?_some found
    have other := rendered entry member
    rw [only entry member equal] at other
    rw [renders_unique renders other]
    rfl

end Table

/-! ### The files -/

/-- A stylesheet has the exports of the text in the file beside it. -/
theorem file_answers {files : FileReader} {stylesheet : Path} {before text after : List Char}
    {pairs : List (String × String)} (renders : Renders text pairs) (left : Space before) (right : Space after)
    (stored : files stylesheet.sidecar = .ok (String.ofList (before ++ text ++ after)).toUTF8) :
    files.exportsOf stylesheet = .ok (.ofList pairs) := by
  refine exports_of_file_iff.mpr ⟨_, pairs, stored, ?_, rfl⟩
  rw [String.toList_ofList]
  exact renders_padded left renders right

/-! ### Runs -/

/-- A text is given for a stylesheet in both ways: as its entry in the table, where no other text is entered for
an equal path, and with space around it in the file beside the stylesheet. -/
structure Given (entries : List (String × List Char)) (files : FileReader) (stylesheet : Path)
    (text : List Char) : Prop where
  entered : (stylesheet.text, text) ∈ entries
  only : ∀ entry ∈ entries, (Path.mk entry.1 == stylesheet) = true → entry.2 = text
  stored : ∃ before after, Space before ∧ Space after ∧
    files stylesheet.sidecar = .ok (String.ofList (before ++ text ++ after)).toUTF8

/-- A run with a table and a run with files come to the same, if for each stylesheet that the module imports one
text of exports is given in both ways: with the same program, every generated object with its properties in
their order, the same diagnostic and the same events. The table may hold further entries, the files of the
first run do not matter, and nothing but a missing file name or root makes the runs fail. -/
theorem table_or_files {items : List Item} {host : Host} {root? : Option Path} {raw besideRaw : String}
    {entries : List (String × List Char)} {files : FileReader} (elsewhere : FileReader) (textOf : Path → List Char)
    (tabled : Tabled raw.toList root? entries) (beside : Describes besideRaw.toList ⟨root?, .sidecar⟩)
    (valid : ∀ entry ∈ entries, ∃ pairs, Renders entry.2 pairs)
    (given : ∀ file decl, host.file? = some file → decl ∈ stylesheetImports items →
      Given entries files (file.resolve decl.source) (textOf (file.resolve decl.source))) :
    inlineProgram elsewhere raw host (.module items) = inlineProgram files besideRaw host (.module items) ∧
      (host.file?.isSome → (root?.or host.workdir?).isSome →
        (inlineProgram elsewhere raw host (.module items)).diagnostic = none) := by
  choose! pairsOf rendered using valid
  have tabledConfig := parse_tabled tabled rendered
  have besideConfig := parse_described beside
  have answers (file : Path) (decl : Import) (known : host.file? = some file)
      (member : decl ∈ stylesheetImports items) :
      ∃ exports, (StyleTable.ofMembers (membersIn pairsOf entries)).exportsOf (file.resolve decl.source) = .ok exports ∧
        files.exportsOf (file.resolve decl.source) = .ok exports := by
    obtain ⟨entered, only, before, after, left, right, stored⟩ := given file decl known member
    have renders := rendered _ entered
    exact ⟨_, table_answers rendered renders entered only, file_answers renders left right stored⟩
  constructor
  · apply program_supplied_alike tabledConfig besideConfig rfl rfl
    intro file decl known member
    obtain ⟨exports, inTable, inFile⟩ := answers file decl known member
    exact inTable.trans inFile.symm
  · intro named rooted
    apply quiet_of_supplied tabledConfig named rooted
    intro file decl known member
    obtain ⟨exports, inTable, -⟩ := answers file decl known member
    exact ⟨exports, inTable⟩

/-- The text of the exports of a stylesheet of one class. -/
def cardExports : String := "\x7b\"card\":\"x1_card\"\x7d"

def cardTable : String :=
  "\x7b\"exports\":\x7b\"inline\":\x7b\"/app/Card.module.css\":" ++ cardExports ++ "\x7d\x7d\x7d"

/-- A file system with one file, in which a line end follows the exports. -/
def cardFiles : FileReader := fun path =>
  if path.text = "/app/Card.module.css.json" then .ok (String.ofList ([] ++ cardExports.toList ++ ['\n'])).toUTF8
  else .error .notFound

/-- An object with one member and no space. -/
theorem entries_single (key : String) (plain : ∀ c ∈ key.toList, ' ' ≤ c ∧ c ≠ '"' ∧ c ≠ '\\')
    (text : List Char) : Entries ('{' :: ('"' :: key.toList ++ ['"'] ++ ':' :: text ++ ['}'])) [(key, text)] := by
  have entry : Entry ('"' :: key.toList ++ ['"'] ++ [] ++ ':' :: ([] ++ text)) (key, text) :=
    .colon (string_text_plain key plain) space_nil space_nil
  have inside : Inside '}' (Padded Entry) _ [(key, text)] := .filled (.last (.around space_nil entry space_nil))
  exact ⟨_, rfl, by simpa using inside⟩

/-- A host that works in the directory of the file. -/
def cardHost : Host := ⟨some ⟨"/app/Card.tsx"⟩, some ⟨"/app"⟩⟩

theorem card_from_table_or_file :
    Tabled cardTable.toList none [("/app/Card.module.css", cardExports.toList)] ∧
      Describes "\x7b\"exports\":\"sidecar\"\x7d".toList ⟨none, .sidecar⟩ ∧
      Given [("/app/Card.module.css", cardExports.toList)] cardFiles ⟨"/app/Card.module.css"⟩ cardExports.toList ∧
      inlineProgram (fun _ => .error .notFound) cardTable cardHost (.module (dotted cardImport)) =
        inlineProgram cardFiles "\x7b\"exports\":\"sidecar\"\x7d" cardHost (.module (dotted cardImport)) ∧
      (inlineProgram (fun _ => .error .notFound) cardTable cardHost (.module (dotted cardImport))).diagnostic =
        none := by
  have single (key : String) (plain : ∀ c ∈ key.toList, ' ' ≤ c ∧ c ≠ '"' ∧ c ≠ '\\') {text : List Char}
      {value : Value} (means : Means text value) :
      Spells ('{' :: ('"' :: key.toList ++ ['"'] ++ ':' :: text ++ ['}'])) (.object [(key, value)]) :=
    spells_entries (entries_single key plain text) (.cons ⟨rfl, means⟩ .nil)
  have quoted (text : String) (plain : ∀ c ∈ text.toList, ' ' ≤ c ∧ c ≠ '"' ∧ c ≠ '\\') :
      Means ('"' :: text.toList ++ ['"']) (.string text) :=
    means_of_spells (.string (string_text_plain text plain))
  have rendered : Renders cardExports.toList [("card", "x1_card")] :=
    means_of_spells (single "card" (by simp) (quoted "x1_card" (by simp)))
  have table := entries_single "/app/Card.module.css" (by simp) cardExports.toList
  have tabled : Tabled cardTable.toList none [("/app/Card.module.css", cardExports.toList)] :=
    ⟨[], _, [], _, _, rfl, space_nil, space_nil, .alone rfl (entries_single "exports" (by simp) _),
      entries_single "inline" (by simp) _, table⟩
  have beside : Describes "\x7b\"exports\":\"sidecar\"\x7d".toList ⟨none, .sidecar⟩ :=
    .inr ⟨_, means_of_spells (single "exports" (by simp) (quoted "sidecar" (by simp))),
      .named (by simp) (by simp) rfl .word⟩
  have line : Space ['\n'] := by simp [Space]
  have given : Given [("/app/Card.module.css", cardExports.toList)] cardFiles ⟨"/app/Card.module.css"⟩
      cardExports.toList :=
    ⟨by simp, by simp, [], ['\n'], space_nil, line, rfl⟩
  have source : ∀ decl ∈ stylesheetImports (dotted cardImport), decl.source = "./Card.module.css" := by decide
  have place : (Path.mk "/app/Card.tsx").resolve "./Card.module.css" = ⟨"/app/Card.module.css"⟩ := by rfl
  have supplied (file : Path) (decl : Import) (known : cardHost.file? = some file)
      (member : decl ∈ stylesheetImports (dotted cardImport)) :
      Given [("/app/Card.module.css", cardExports.toList)] cardFiles (file.resolve decl.source) cardExports.toList := by
    cases known
    rw [source decl member, place]
    exact given
  obtain ⟨same, quiet⟩ := table_or_files (fun _ => .error .notFound) (fun _ => cardExports.toList) tabled beside
    (by simpa using ⟨_, rendered⟩) supplied
  exact ⟨tabled, beside, given, same, quiet rfl rfl⟩

end StyleInline.TableAndFiles
