import StyleInline.Config.Json
import StyleInline.Proofs.Members

/-! The two fields of a configuration as values: which values name a root, which name a supply of exports, and
that the readers of the fields read just these. The supply has three forms. The name of a variant may stand alone
only where the variant needs no table, which is found out after the name has been read; what is answered for the
bare name of the other is therefore part of what is shown of its reader. -/
namespace StyleInline.SupplyText
open Config Json Grammar Gathering Reading Literals Members

/-! ### What is named -/

/-- A string names the path that it spells, and `null` names none. -/
inductive NamesRoot : Value → Option Path → Prop where
  | none : NamesRoot .null none
  | path (text : String) : NamesRoot (.string text) (some ⟨text⟩)

/-- An object of exports by path, and the table that its members give. -/
def NamesTable (value : Value) (table : StyleTable) : Prop :=
  ∃ pairs, Each NamesExports value pairs ∧ Gathers (byPath pairs) table

/-- Files beside the stylesheets by their name, alone or with nothing to say of them, or a table. -/
inductive NamesSupply : Value → Supply → Prop where
  | word : NamesSupply (.string "sidecar") .sidecar
  | nothing : NamesSupply (.object [("sidecar", .null)]) .sidecar
  | table {value : Value} {table : StyleTable} (named : NamesTable value table) :
      NamesSupply (.object [("inline", value)]) (.inline table)

/-- A table of members is searched from the last of them. -/
theorem get_of_members (members : List (String × Exports)) (asked : Path) :
    (StyleTable.ofMembers members).get? asked =
      (members.reverse.find? fun member => Path.mk member.1 == asked).map Prod.snd := by
  rw [StyleTable.ofMembers, byPath, get_of_list_map]

/-! ### The root -/

theorem reads_root : Reads readRoot NamesRoot := by
  intro text root rest
  constructor
  · intro answered
    unfold readRoot at answered
    split at answered
    · rename_i after start
      obtain ⟨space, blank, rfl⟩ := space_skipped start
      split at answered
      · contradiction
      · rename_i final word
        cases answered
        rw [(read_word_iff _ _ _).mp word]
        exact ⟨space ++ ['n', 'u', 'l', 'l'], by simp, space, _, .null, rfl, blank, .null, .none⟩
    · split at answered
      · contradiction
      · rename_i path after reading
        cases answered
        obtain ⟨word, shape, space, core, value, parts, blank, spelled, same⟩ :=
          (reads_string "path string" _ _ _).mp reading
        exact ⟨word, shape, space, core, value, parts, blank, spelled, same ▸ .path path⟩
  · rintro ⟨word, shape, space, core, value, parts, blank, spelled, named⟩
    cases named with
    | none =>
      obtain rfl := spells_null spelled
      subst shape parts
      have start := skip_space_append (c := 'n') (['u', 'l', 'l'] ++ rest) blank rfl
      have word := (read_word_iff ['u', 'l', 'l'] (['u', 'l', 'l'] ++ rest) rest).mpr rfl
      rw [List.append_assoc, List.cons_append]
      simp only [readRoot, start, word]
    | path path =>
      have quoted := spells_string spelled
      subst shape parts
      have reading := (read_string_iff "path string" (space ++ core ++ rest) path rest).mpr
        ⟨space, core, rfl, blank, quoted⟩
      obtain ⟨body, rfl, _⟩ := quoted
      -- A string does not begin like `null`, so the reader takes its other branch.
      have start := skip_space_append (c := '"') (body ++ ['"'] ++ rest) blank rfl
      rw [List.append_assoc, List.cons_append, List.cons_append] at reading ⊢
      simp only [readRoot, start, reading]
      rfl

/-! ### The value of a variant -/

theorem read_null_iff (text rest : List Char) : readNull text = .ok rest ↔
    ∃ space, Space space ∧ text = space ++ ['n', 'u', 'l', 'l'] ++ rest := by
  constructor
  · intro answered
    unfold readNull at answered
    split at answered
    · contradiction
    · rename_i after start
      obtain ⟨space, blank, rfl⟩ := space_skipped start
      rw [(read_word_iff _ _ _).mp answered]
      exact ⟨space, blank, by simp⟩
    · contradiction
  · rintro ⟨space, blank, rfl⟩
    have start := skip_space_append (c := 'n') (['u', 'l', 'l'] ++ rest) blank rfl
    rw [List.append_assoc, List.cons_append]
    simp only [readNull, start]
    exact (read_word_iff _ _ _).mpr rfl

theorem end_variant_iff (text rest : List Char) :
    endVariant text = .ok rest ↔ ∃ space, Space space ∧ text = space ++ '}' :: rest := by
  rw [← skip_space_cons_iff rfl, endVariant]
  split
  · rename_i start
    simp [start]
  · rename_i start
    simp [start]
  · rename_i noBrace
    simpa using noBrace rest

theorem variant_iff (name : String) (rest : List Char) (v : Variant) :
    variant name rest = .ok v ↔ Variant.ofName? name = some v := by
  unfold variant
  split
  · rename_i found named
    rw [named, Except.ok.injEq, Option.some.injEq]
  · rename_i unnamed
    simp [unnamed]

/-- What a variant may be given, and the supply that this comes to. -/
def Fills : Variant → Value → Supply → Prop
  | .sidecar, value, supply => value = .null ∧ supply = .sidecar
  | .inline, value, supply => ∃ table, NamesTable value table ∧ supply = .inline table

theorem reads_variant_value (v : Variant) : Reads (readVariantValue v) (Fills v) := by
  intro text supply rest
  cases v with
  | sidecar =>
    constructor
    · intro answered
      unfold readVariantValue at answered
      simp only at answered
      split at answered
      · contradiction
      · rename_i after reading
        cases answered
        obtain ⟨space, blank, rfl⟩ := (read_null_iff _ _).mp reading
        exact ⟨_, rfl, space, _, .null, rfl, blank, .null, rfl, rfl⟩
    · rintro ⟨_, rfl, space, core, _, rfl, blank, spelled, rfl, rfl⟩
      obtain rfl := spells_null spelled
      have reading := (read_null_iff (space ++ ['n', 'u', 'l', 'l'] ++ rest) rest).mpr ⟨space, blank, rfl⟩
      simp only [readVariantValue, reading]
  | inline =>
    have members := reads_map_of reads_exports
    constructor
    · intro answered
      unfold readVariantValue at answered
      simp only at answered
      split at answered
      · contradiction
      · rename_i pairs after reading
        cases answered
        obtain ⟨word, shape, space, core, value, parts, blank, spelled, each⟩ := (members _ _ _).mp reading
        exact ⟨word, shape, space, core, value, parts, blank, spelled, _, ⟨pairs, each, gathers_of_list _⟩, rfl⟩
    · rintro ⟨word, shape, space, core, value, parts, blank, spelled, table, ⟨pairs, each, gathers⟩, rfl⟩
      have reading := (members text pairs rest).mpr ⟨word, shape, space, core, value, parts, blank, spelled, each⟩
      simp only [readVariantValue, reading, StyleTable.ofMembers, gathers_iff.mp gathers]

/-! ### The supply -/

/-- An object that gives one variant its value, from after its brace. -/
theorem exactly_read_variant : Exactly readVariant (fun word supply => ∃ name v value,
    Listing '}' (Member Spells) true word [(name, value)] ∧ Variant.ofName? name = some v ∧
      Fills v value supply) := by
  intro text supply rest
  constructor
  · intro answered
    unfold readVariant at answered
    split at answered
    · contradiction
    · rename_i name afterName literal
      split at answered
      · contradiction
      · rename_i v known
        split at answered
        · contradiction
        · rename_i afterColon colon
          split at answered
          · contradiction
          · rename_i found afterValue reading
            split at answered
            · contradiction
            · rename_i final closed
              cases answered
              obtain ⟨lead, word, rfl, first, named⟩ := (read_string_iff _ _ _ _).mp literal
              obtain ⟨before, left, rfl⟩ := (read_colon_iff _ _).mp colon
              obtain ⟨_, rfl, after, core, value, rfl, right, spelled, fills⟩ :=
                (reads_variant_value v _ _ _).mp reading
              obtain ⟨space, blank, rfl⟩ := (end_variant_iff _ _).mp closed
              have member := Member.colon named left right spelled
              exact ⟨_, by simp, name, v, value, .word (.first first) member (.close blank),
                (variant_iff _ _ _).mp known, fills⟩
  · rintro ⟨word, rfl, name, v, value, listing, known, fills⟩
    cases listing with
    | @word _ gap _ _ _ _ lead member close =>
      cases lead with
      | first first =>
        obtain @⟨quoted, before, after, core, _, _, named, left, right, spelled⟩ := member
        cases close with
        | @close _ space blank =>
          have literal := (read_string_iff "variant identifier"
            (gap ++ quoted ++ (before ++ ':' :: (after ++ core ++ (space ++ '}' :: rest)))) name _).mpr
            ⟨gap, quoted, rfl, first, named⟩
          have colon := (read_colon_iff (before ++ ':' :: (after ++ core ++ (space ++ '}' :: rest))) _).mpr
            ⟨before, left, rfl⟩
          have reading := (reads_variant_value v (after ++ core ++ (space ++ '}' :: rest)) supply _).mpr
            ⟨_, rfl, after, core, value, rfl, right, spelled, fills⟩
          have closed := (end_variant_iff (space ++ '}' :: rest) rest).mpr ⟨space, blank, rfl⟩
          have chosen := (variant_iff name (before ++ ':' :: (after ++ core ++ (space ++ '}' :: rest))) v).mpr known
          simp only [List.append_assoc, List.cons_append, List.nil_append] at *
          simp only [readVariant, literal, chosen, colon, reading, closed]

theorem of_name_iff (name : String) (v : Variant) : Variant.ofName? name = some v ↔
    name = "sidecar" ∧ v = .sidecar ∨ name = "inline" ∧ v = .inline := by
  unfold Variant.ofName?
  split <;> simp_all [eq_comm]

/-- An object with one member names a supply when the member is a variant with what may be given to it. -/
theorem names_supply_object_iff (members : List (String × Value)) (supply : Supply) :
    NamesSupply (.object members) supply ↔
      ∃ name v value, members = [(name, value)] ∧ Variant.ofName? name = some v ∧ Fills v value supply := by
  constructor
  · intro named
    cases named with
    | nothing => exact ⟨"sidecar", .sidecar, .null, rfl, rfl, rfl, rfl⟩
    | table named => exact ⟨"inline", .inline, _, rfl, rfl, _, named, rfl⟩
  · rintro ⟨name, v, value, rfl, known, fills⟩
    rcases (of_name_iff name v).mp known with ⟨rfl, rfl⟩ | ⟨rfl, rfl⟩
    · obtain ⟨rfl, rfl⟩ := fills
      exact .nothing
    · obtain ⟨table, named, rfl⟩ := fills
      exact .table named

/-- What is answered for a supply: none for the bare name of the variant that needs a table. -/
def Answers (value : Value) (answer : Option Supply) : Prop :=
  value = .string "inline" ∧ answer = none ∨ ∃ supply, NamesSupply value supply ∧ answer = some supply

/-- The bare name of a variant. -/
theorem read_supply_name {space core rest : List Char} {name : String} {v : Variant} (blank : Space space)
    (quoted : StringText core name) (known : Variant.ofName? name = some v) :
    readSupply (space ++ core ++ rest) = .ok (if v = .sidecar then some .sidecar else none, rest) := by
  obtain ⟨body, rfl, written⟩ := quoted
  have start := skip_space_append (c := '"') (body ++ ['"'] ++ rest) blank rfl
  have literal := (exactly_read_literal (body ++ ['"'] ++ rest) name rest).mpr
    ⟨body ++ ['"'], rfl, body, rfl, written⟩
  have named := (variant_iff name rest v).mpr known
  rw [List.append_assoc, List.cons_append, List.cons_append]
  simp only [readSupply, start, literal, named]
  cases v <;> rfl

theorem reads_supply : Reads readSupply Answers := by
  intro text answer rest
  constructor
  · intro answered
    unfold readSupply at answered
    split at answered
    · contradiction
    · rename_i body start
      obtain ⟨space, blank, rfl⟩ := space_skipped start
      split at answered
      · contradiction
      · rename_i name after literal
        obtain ⟨word, rfl, quoted⟩ := (exactly_read_literal _ _ _).mp literal
        refine ⟨space ++ '"' :: word, ?_, space, _, .string name, rfl, blank, .string quoted, ?_⟩
        · split at answered <;> cases answered <;> simp
        · split at answered
          · contradiction
          · rename_i known
            cases answered
            obtain ⟨rfl, _⟩ | ⟨_, ⟨⟩⟩ := (of_name_iff _ _).mp ((variant_iff _ _ _).mp known)
            exact .inr ⟨_, .word, rfl⟩
          · rename_i known
            cases answered
            obtain ⟨_, ⟨⟩⟩ | ⟨rfl, _⟩ := (of_name_iff _ _).mp ((variant_iff _ _ _).mp known)
            exact .inl ⟨rfl, rfl⟩
    · rename_i body start
      obtain ⟨space, blank, rfl⟩ := space_skipped start
      split at answered
      · contradiction
      · rename_i supply after reading
        cases answered
        obtain ⟨word, rfl, name, v, value, listing, known, fills⟩ := (exactly_read_variant _ _ _).mp reading
        exact ⟨space ++ '{' :: word, by simp, space, _, _, rfl, blank, .object (inside_iff_listing.mpr listing),
          .inr ⟨supply, (names_supply_object_iff _ _).mpr ⟨name, v, value, rfl, known, fills⟩, rfl⟩⟩
    · contradiction
  · rintro ⟨_, rfl, space, core, value, rfl, blank, spelled, answers⟩
    rcases answers with ⟨rfl, rfl⟩ | ⟨supply, named, rfl⟩
    · exact read_supply_name (v := .inline) blank (spells_string spelled) rfl
    · cases value with
      | object members =>
        obtain ⟨inner, rfl, listing⟩ := spells_object spelled
        obtain ⟨name, v, value, rfl, known, fills⟩ := (names_supply_object_iff _ _).mp named
        have start := skip_space_append (c := '{') (inner ++ rest) blank rfl
        have reading := (exactly_read_variant (inner ++ rest) supply rest).mpr
          ⟨inner, rfl, name, v, value, listing, known, fills⟩
        rw [List.append_assoc, List.cons_append]
        simp only [readSupply, start, reading]
      | string name =>
        cases named
        exact read_supply_name (v := .sidecar) blank (spells_string spelled) rfl
      | _ => cases named

/-- A supply in any place: what follows it matters to a fault alone. -/
theorem reads_supply_in (seen : List Char → List Char) : Reads (supplyIn seen).read NamesSupply := by
  have reads : Reads (supplyIn seen).read
      (fun value supply => ∃ answer, Answers value answer ∧ answer = some supply) := by
    refine reads_and_then reads_supply fun answer rest supply => ?_
    cases answer with
    | none => simp
    | some found => simp
  refine reads_congr reads fun value supply => ?_
  simp [Answers]

end StyleInline.SupplyText
