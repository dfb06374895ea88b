import StyleInline.Proofs.SupplyText

/-! Which texts are configurations, and of what. A blank text asks for the standard one. Any other has to be one
value with space around it: an object with the two fields or fewer, or a list of their values. An object's
members are read in whatever order they have, and a field that has been read may not be read again; what this
comes to is that no name occurs twice, so what a field holds is what its one member gives. -/
namespace StyleInline.ConfigText
open Config Json Grammar Reading Members SupplyText

variable {α : Type}

/-! ### What is asked for -/

/-- A field is what is written for it, and has its standard value when nothing is. -/
def Settles (R : Value → α → Prop) (standard : α) (written : Option Value) (a : α) : Prop :=
  match written with
  | none => a = standard
  | some value => R value a

/-- The values that are configurations: fields by name, each once and no others, or fields by place. -/
inductive Configures : Value → Config → Prop where
  | named {members : List (String × Value)} {config : Config} (once : (members.map Prod.fst).Nodup)
      (known : ∀ member ∈ members, member.1 = "absoluteRootDirPath" ∨ member.1 = "exports")
      (root : Settles NamesRoot none (members.lookup "absoluteRootDirPath") config.root?)
      (supply : Settles NamesSupply .sidecar (members.lookup "exports") config.supply) :
      Configures (.object members) config
  | listed {elements : List Value} {config : Config} (few : elements.length ≤ 2)
      (root : Settles NamesRoot none elements[0]? config.root?)
      (supply : Settles NamesSupply .sidecar elements[1]? config.supply) : Configures (.array elements) config

/-- A blank text is the standard configuration, and any other means one. -/
def Describes (text : List Char) (config : Config) : Prop :=
  (∀ c ∈ text, Text.isBlank c = true) ∧ config = ⟨none, .sidecar⟩ ∨
    ∃ value, Means text value ∧ Configures value config

/-! ### Fields by name -/

/-- What a member does to the fields: it gives one that is not held yet. -/
def Accepts (held : Fields) (key : String) (value : Value) (next : Fields) : Prop :=
  key = rootField ∧ held.root = none ∧ (∃ root, NamesRoot value root ∧ next = { held with root := some root }) ∨
    key = supplyField ∧ held.supply = none ∧
      ∃ supply, NamesSupply value supply ∧ next = { held with supply := some supply }

theorem fits_on_field : Fits onField Accepts := by
  intro held key text
  have distinct : rootField ≠ supplyField := by decide
  unfold onField
  by_cases isRoot : key = rootField
  · subst isRoot
    cases root : held.root with
    | none =>
      simp only [Option.isSome_none, Bool.false_eq_true, ↓reduceIte]
      refine reads_congr (reads_map reads_root _) fun value next => ?_
      simp [Accepts, root, distinct]
    | some found =>
      simp [Accepts, root, distinct]
  · by_cases isSupply : key = supplyField
    · subst isSupply
      cases supply : held.supply with
      | none =>
        simp only [isRoot, Option.isSome_none, Bool.false_eq_true, ↓reduceIte]
        refine reads_congr (reads_map (reads_supply_in seenObjectEnd) _) fun value next => ?_
        simp [Accepts, supply, isRoot]
      | some found =>
        simp [Accepts, supply, isRoot]
    · simp [Accepts, isRoot, isSupply]

/-- What a run of members leaves of a field: what was held, or what is written if nothing was. -/
def Took (R : Value → α → Prop) (held : Option α) (written : Option Value) (final : Option α) : Prop :=
  match written with
  | none => final = held
  | some value => held = none ∧ ∃ a, R value a ∧ final = some a

theorem took_some_iff {R : Value → α → Prop} {a : α} {written : Option Value} {final : Option α} :
    Took R (some a) written final ↔ written = none ∧ final = some a := by
  cases written with
  | none => simp [Took]
  | some value => simp [Took]

/-- A field that is written in front is held from there on, so it is written nowhere else. -/
theorem took_cons_iff {R : Value → α → Prop} {held final : Option α} {key : String} {value : Value}
    {others : List (String × Value)} :
    key ∉ others.map Prod.fst ∧ Took R held (((key, value) :: others).lookup key) final ↔
      held = none ∧ ∃ a, R value a ∧ Took R (some a) (others.lookup key) final := by
  have unwritten : others.lookup key = none ↔ key ∉ others.map Prod.fst := by
    rw [List.lookup_eq_none_iff, List.mem_map]
    constructor
    · rintro other ⟨member, there, rfl⟩
      simpa using other member there
    · intro absent member there
      exact bne_iff_ne.mpr fun same => absent ⟨member, there, same.symm⟩
  constructor
  · rintro ⟨fresh, taken⟩
    rw [List.lookup_cons_self] at taken
    obtain ⟨absent, a, stands, rfl⟩ := taken
    exact ⟨absent, a, stands, took_some_iff.mpr ⟨unwritten.mpr fresh, rfl⟩⟩
  · rintro ⟨absent, a, stands, taken⟩
    obtain ⟨nothing, rfl⟩ := took_some_iff.mp taken
    rw [List.lookup_cons_self]
    exact ⟨unwritten.mp nothing, absent, a, stands, rfl⟩

/-- What is left of a field when nothing was held before, with its standard value put in. -/
theorem settles_iff_took {R : Value → α → Prop} {standard a : α} {written : Option Value} :
    Settles R standard written a ↔ ∃ final, Took R none written final ∧ a = final.getD standard := by
  cases written with
  | none => simp [Settles, Took]
  | some value => simp [Settles, Took]

/-- The members are accepted in their order just when no name occurs twice, or is held, or unknown. -/
theorem chain_accepts_iff {held final : Fields} {members : List (String × Value)} :
    Chain Accepts held members final ↔ (members.map Prod.fst).Nodup ∧
      (∀ member ∈ members, member.1 = rootField ∨ member.1 = supplyField) ∧
      Took NamesRoot held.root (members.lookup rootField) final.root ∧
      Took NamesSupply held.supply (members.lookup supplyField) final.supply := by
  induction members generalizing held with
  | nil =>
    constructor
    · intro chain
      cases chain
      simp [Took]
    · rintro ⟨-, -, root, supply⟩
      obtain rfl : final = held := by
        cases final
        cases held
        simp_all [Took]
      exact .nil
  | cons member others ih =>
    obtain ⟨key, value⟩ := member
    -- One of the two fields is written here and held from here on; the other is looked up behind.
    have distinct : supplyField ≠ rootField := by decide
    rw [List.map_cons, List.nodup_cons, List.forall_mem_cons]
    constructor
    · intro chain
      cases chain with
      | cons one rest =>
        obtain ⟨once, known, root, supply⟩ := ih.mp rest
        rcases one with ⟨rfl, absent, found, named, rfl⟩ | ⟨rfl, absent, found, named, rfl⟩
        · obtain ⟨fresh, taken⟩ := took_cons_iff.mpr ⟨absent, found, named, root⟩
          refine ⟨⟨fresh, once⟩, ⟨.inl rfl, known⟩, taken, ?_⟩
          rwa [List.lookup_cons, beq_false_of_ne distinct]
        · obtain ⟨fresh, taken⟩ := took_cons_iff.mpr ⟨absent, found, named, supply⟩
          refine ⟨⟨fresh, once⟩, ⟨.inr rfl, known⟩, ?_, taken⟩
          rwa [List.lookup_cons, beq_false_of_ne distinct.symm]
    · rintro ⟨⟨fresh, once⟩, ⟨isRoot | isSupply, known⟩, root, supply⟩
      · simp only at isRoot
        subst isRoot
        obtain ⟨absent, found, named, rest⟩ := took_cons_iff.mp ⟨fresh, root⟩
        rw [List.lookup_cons, beq_false_of_ne distinct] at supply
        exact .cons (.inl ⟨rfl, absent, found, named, rfl⟩) (ih.mpr ⟨once, known, rest, supply⟩)
      · simp only at isSupply
        subst isSupply
        obtain ⟨absent, found, named, rest⟩ := took_cons_iff.mp ⟨fresh, supply⟩
        rw [List.lookup_cons, beq_false_of_ne distinct.symm] at root
        exact .cons (.inr ⟨rfl, absent, found, named, rfl⟩) (ih.mpr ⟨once, known, root, rest⟩)

/-- The members that the loop takes in are a configuration, and it is the one that is made of the fields. -/
theorem configures_object_iff {members : List (String × Value)} {config : Config} :
    Configures (.object members) config ↔
      ∃ fields, Chain Accepts ⟨none, none⟩ members fields ∧ config = fields.config := by
  constructor
  · intro configures
    cases configures with
    | named once known root supply =>
      obtain ⟨rootTaken, hasRoot, rootSame⟩ := settles_iff_took.mp root
      obtain ⟨supplyTaken, hasSupply, supplySame⟩ := settles_iff_took.mp supply
      refine ⟨⟨rootTaken, supplyTaken⟩, chain_accepts_iff.mpr ⟨once, known, hasRoot, hasSupply⟩, ?_⟩
      rw [Fields.config, ← rootSame, ← supplySame]
  · rintro ⟨fields, chain, rfl⟩
    obtain ⟨once, known, root, supply⟩ := chain_accepts_iff.mp chain
    exact .named once known (settles_iff_took.mpr ⟨_, root, rfl⟩) (settles_iff_took.mpr ⟨_, supply, rfl⟩)

/-! ### Fields by place -/

theorem next_element_none_iff (first : Bool) (text : List Char) :
    nextElement first text = .ok none ↔ ∃ space rest, Space space ∧ text = space ++ ']' :: rest := by
  constructor
  · intro answered
    unfold nextElement at answered
    split at answered
    · cases answered
    · rename_i rest start
      obtain ⟨space, blank, rfl⟩ := space_skipped start
      exact ⟨space, rest, blank, rfl⟩
    · split at answered
      · cases answered
      · split at answered
        · split at answered <;> cases answered
        · cases answered
  · rintro ⟨space, rest, blank, rfl⟩
    simp only [nextElement, skip_space_append (c := ']') _ blank rfl]

/-- An element is found behind what has to stand before it. -/
theorem lead_of_next_element {first : Bool} {text element : List Char}
    (found : nextElement first text = .ok (some element)) : ∃ gap, Lead first gap ∧ text = gap ++ element := by
  unfold nextElement at found
  split at found
  · cases found
  · cases found
  · rename_i c after _ start
    obtain ⟨space, blank, rfl⟩ := space_skipped start
    split at found
    · rename_i isFirst
      cases found
      subst isFirst
      exact ⟨space, .first blank, rfl⟩
    · rename_i notFirst
      rw [Bool.not_eq_true] at notFirst
      split at found
      · rename_i comma
        subst notFirst comma
        split at found
        · cases found
        · cases found
        · cases found
          obtain ⟨more, blankMore, shape⟩ := space_skipped (rfl : skipSpace after = skipSpace after)
          refine ⟨space ++ ',' :: more, .later blank blankMore, ?_⟩
          rw [List.append_assoc, List.cons_append, ← shape]
      · cases found

/-- A value begins with a character that a list does not mistake for an end, nor anyone for a blank. -/
theorem value_head {word : List Char} {value : Value} (spelled : Spells word value) :
    ∃ c tail, word = c :: tail ∧ Text.isBlank c = false ∧ isSpace c = false ∧ c ≠ ']' := by
  obtain ⟨c, tail, rfl, listed | digit⟩ := spells_head spelled
  · simp only [List.mem_cons, List.not_mem_nil, or_false] at listed
    rcases listed with rfl | rfl | rfl | rfl | rfl | rfl | rfl
    all_goals exact ⟨_, tail, rfl, by decide⟩
  · have visible : Text.isBlank c = false := by
      have low : 48 ≤ c.toNat := (Char.isDigit_iff_toNat.mp digit).1
      have high : c.toNat ≤ 57 := (Char.isDigit_iff_toNat.mp digit).2
      simp only [Text.isBlank, Bool.or_eq_false_iff, Bool.and_eq_false_iff, decide_eq_false_iff_not,
        beq_eq_false_iff_ne]
      omega
    have solid : isSpace c = false := by
      by_contra space
      simp only [Bool.not_eq_false, is_space_iff, List.mem_cons, List.not_mem_nil, or_false] at space
      rcases space with rfl | rfl | rfl | rfl
      all_goals contradiction
    have noEnd : c ≠ ']' := by
      rintro rfl
      contradiction
    exact ⟨c, tail, rfl, visible, solid, noEnd⟩

/-- The word of a value is found where an element may stand. -/
theorem next_element_of_lead {first : Bool} {gap core : List Char} {value : Value} (lead : Lead first gap)
    (spelled : Spells core value) (rest : List Char) :
    nextElement first (gap ++ core ++ rest) = .ok (some (core ++ rest)) := by
  obtain ⟨c, tail, rfl, -, visible, noEnd⟩ := value_head spelled
  rw [List.append_assoc, List.cons_append]
  cases lead with
  | first blank =>
    rw [nextElement, skip_space_append _ blank visible]
    simp
  | @later before after left right =>
    rw [List.append_assoc, List.cons_append, nextElement, skip_space_append _ left rfl]
    simp [skip_space_append _ right visible, noEnd]

theorem end_list_iff (text rest : List Char) :
    endList text = .ok rest ↔ ∃ space, Space space ∧ text = space ++ ']' :: rest := by
  rw [← skip_space_cons_iff rfl, endList]
  split
  · rename_i start
    simp [start]
  · rename_i start
    simp [start]
  · rename_i start
    rw [start]
    split <;> simp
  · rename_i noBracket _
    simpa using noBracket rest

/-- The ways in which a list of fields can be read: it has none, the first, or both. -/
theorem read_elements_iff (text : List Char) (fields : Fields) (after : List Char) :
    readElements text = .ok (fields, after) ↔
      nextElement true text = .ok none ∧ fields = ⟨none, none⟩ ∧ after = text ∨
        ∃ element root afterRoot, nextElement true text = .ok (some element) ∧
          readRoot element = .ok (root, afterRoot) ∧
          (nextElement false afterRoot = .ok none ∧ fields = ⟨some root, none⟩ ∧ after = afterRoot ∨
            ∃ next supply, nextElement false afterRoot = .ok (some next) ∧
              (supplyIn seenListEnd).read next = .ok (supply, after) ∧ fields = ⟨some root, some supply⟩) := by
  simp only [readElements, bind, Except.bind, pure, Except.pure]
  cases nextElement true text with
  | error fault => simp
  | ok found =>
    cases found with
    | none => simp [eq_comm]
    | some element =>
      cases rootRead : readRoot element with
      | error fault => simp [rootRead]
      | ok pair =>
        obtain ⟨root, afterRoot⟩ := pair
        cases second : nextElement false afterRoot with
        | error fault => simp [rootRead, second]
        | ok found =>
          cases found with
          | none => simp [rootRead, second, eq_comm]
          | some next =>
            cases supplyRead : (supplyIn seenListEnd).read next with
            | error fault => simp [rootRead, second, supplyRead]
            | ok pair => simp [rootRead, second, supplyRead, Prod.ext_iff, eq_comm, and_comm]

/-- What a list of fields comes to when it is read up to its bracket. -/
theorem elements_of_read {body after rest : List Char} {fields : Fields}
    (reading : readElements body = .ok (fields, after)) (closed : endList after = .ok rest) :
    ∃ word elements, body = word ++ rest ∧ Listing ']' Spells true word elements ∧
      Configures (.array elements) fields.config := by
  obtain ⟨space, blank, shape⟩ := (end_list_iff _ _).mp closed
  have ending : Listing ']' Spells false (space ++ [']']) [] := .close blank
  rcases (read_elements_iff _ _ _).mp reading with ⟨-, rfl, rfl⟩ | ⟨element, root, afterRoot, first, rootRead, more⟩
  · exact ⟨space ++ [']'], [], by simp [shape], .close blank, .listed (by simp) rfl rfl⟩
  · obtain ⟨gap, lead, rfl⟩ := lead_of_next_element first
    obtain ⟨_, rfl, before, core, value, rfl, left, spelled, named⟩ := (reads_root _ _ _).mp rootRead
    have opening := lead_append lead left
    rcases more with ⟨-, rfl, rfl⟩ | ⟨next, supply, second, supplyRead, rfl⟩
    · have listing := Listing.word opening spelled ending
      exact ⟨_, [value], by simp [shape], listing, .listed (by simp) named rfl⟩
    · obtain ⟨comma, separated, rfl⟩ := lead_of_next_element second
      obtain ⟨_, rfl, inner, final, last, rfl, right, spelledLast, namedLast⟩ :=
        (reads_supply_in _ _ _ _).mp supplyRead
      have listing := Listing.word opening spelled (.word (lead_append separated right) spelledLast ending)
      exact ⟨_, [value, last], by simp [shape], listing, .listed (by simp) named namedLast⟩

/-- A list of at most two fields is read up to the space before its bracket. -/
theorem read_of_elements {word : List Char} {elements : List Value} {config : Config} (rest : List Char)
    (listing : Listing ']' Spells true word elements) (configures : Configures (.array elements) config) :
    ∃ fields after, readElements (word ++ rest) = .ok (fields, after) ∧ endList after = .ok rest ∧
      config = fields.config := by
  obtain ⟨root?, supply⟩ := config
  have noMore (first : Bool) {space : List Char} (blank : Space space) :
      nextElement first (space ++ [']'] ++ rest) = .ok none ∧ endList (space ++ [']'] ++ rest) = .ok rest :=
    ⟨(next_element_none_iff _ _).mpr ⟨space, rest, blank, by simp⟩,
      (end_list_iff _ _).mpr ⟨space, blank, by simp⟩⟩
  cases configures with
  | listed few root named_supply =>
    cases listing with
    | close blank =>
      obtain rfl : root? = none := root
      obtain rfl : supply = .sidecar := named_supply
      obtain ⟨nothing, closed⟩ := noMore true blank
      exact ⟨_, _, (read_elements_iff _ _ _).mpr (.inl ⟨nothing, rfl, rfl⟩), closed, rfl⟩
    | @word _ gap core tail value others lead spelled more =>
      have named_root : NamesRoot value root? := root
      have first := next_element_of_lead lead spelled (tail ++ rest)
      have rootRead := (reads_root (core ++ (tail ++ rest)) root? (tail ++ rest)).mpr
        ⟨core, rfl, [], core, value, rfl, space_nil, spelled, named_root⟩
      rw [List.append_assoc _ tail]
      cases more with
      | close blank =>
        obtain rfl : supply = .sidecar := named_supply
        obtain ⟨nothing, closed⟩ := noMore false blank
        exact ⟨_, _, (read_elements_iff _ _ _).mpr
          (.inr ⟨_, root?, _, first, rootRead, .inl ⟨nothing, rfl, rfl⟩⟩), closed, rfl⟩
      | @word _ comma last closing final beyond separated spelledLast ending =>
        have named : NamesSupply final supply := named_supply
        have second := next_element_of_lead separated spelledLast (closing ++ rest)
        have supplyRead := (reads_supply_in seenListEnd (last ++ (closing ++ rest)) supply (closing ++ rest)).mpr
          ⟨last, rfl, [], last, final, rfl, space_nil, spelledLast, named⟩
        rw [← List.append_assoc _ closing] at second
        cases ending with
        | close blank =>
          obtain ⟨-, closed⟩ := noMore false blank
          exact ⟨_, _, (read_elements_iff _ _ _).mpr
            (.inr ⟨_, root?, _, first, rootRead, .inr ⟨_, supply, second, supplyRead, rfl⟩⟩), closed, rfl⟩
        | word => simp at few

/-! ### Configurations -/

theorem reads_config : Reads Config.read Configures := by
  have fields := exactly_read_members fits_on_field ⟨none, none⟩ true
  intro text config rest
  constructor
  · intro answered
    unfold Config.read at answered
    split at answered
    · contradiction
    · rename_i body start
      obtain ⟨space, blank, rfl⟩ := space_skipped start
      cases reading : readMembers onField ⟨none, none⟩ true body with
      | error fault => simp [reading, bind, Except.bind] at answered
      | ok pair =>
        obtain ⟨found, after⟩ := pair
        simp only [reading, bind, Except.bind, pure, Except.pure, Except.ok.injEq, Prod.mk.injEq] at answered
        obtain ⟨rfl, rfl⟩ := answered
        obtain ⟨word, rfl, members, listing, chain⟩ := (fields _ _ _).mp reading
        exact ⟨space ++ '{' :: word, by simp, space, _, _, rfl, blank, .object (inside_iff_listing.mpr listing),
          configures_object_iff.mpr ⟨found, chain, rfl⟩⟩
    · rename_i body start
      obtain ⟨space, blank, rfl⟩ := space_skipped start
      cases reading : readElements body with
      | error fault => simp [reading, bind, Except.bind] at answered
      | ok pair =>
        obtain ⟨found, after⟩ := pair
        cases closed : endList after with
        | error fault => simp [reading, closed, bind, Except.bind] at answered
        | ok final =>
          simp only [reading, closed, bind, Except.bind, pure, Except.pure, Except.ok.injEq,
            Prod.mk.injEq] at answered
          obtain ⟨rfl, rfl⟩ := answered
          obtain ⟨word, elements, rfl, listing, configures⟩ := elements_of_read reading closed
          exact ⟨space ++ '[' :: word, by simp, space, _, _, rfl, blank,
            .array (inside_iff_listing.mpr listing), configures⟩
    · contradiction
  · rintro ⟨_, rfl, space, core, value, rfl, blank, spelled, configures⟩
    cases value with
    | object members =>
      obtain ⟨inner, rfl, listing⟩ := spells_object spelled
      obtain ⟨found, chain, rfl⟩ := configures_object_iff.mp configures
      have start := skip_space_append (c := '{') (inner ++ rest) blank rfl
      have reading := (fields (inner ++ rest) found rest).mpr ⟨inner, rfl, members, listing, chain⟩
      rw [List.append_assoc, List.cons_append]
      simp only [Config.read, start, reading, bind, Except.bind, pure, Except.pure]
    | array elements =>
      obtain ⟨inner, rfl, listing⟩ := spells_array spelled
      obtain ⟨found, after, reading, closed, rfl⟩ := read_of_elements rest listing configures
      have start := skip_space_append (c := '[') (inner ++ rest) blank rfl
      rw [List.append_assoc, List.cons_append]
      simp only [Config.read, start, reading, closed, bind, Except.bind, pure, Except.pure]
    | _ => cases configures

/-- A blank text means no value. -/
theorem visible_of_means {text : List Char} {value : Value} (means : Means text value) :
    ¬ ∀ c ∈ text, Text.isBlank c = true := by
  obtain @⟨before, core, after, _, -, spelled, -⟩ := means
  obtain ⟨c, tail, rfl, visible, -, -⟩ := value_head spelled
  intro blank
  have blankHead := blank c (by simp)
  rw [visible] at blankHead
  contradiction

/-- A text that describes a configuration is read as that one. -/
theorem parse_described {raw : String} {config : Config} (described : Describes raw.toList config) :
    parse raw = .ok config := by
  rcases described with ⟨blank, rfl⟩ | ⟨value, means, configures⟩
  · have blankText : Text.isBlankText raw = true := List.all_eq_true.mpr blank
    rw [parse, if_pos blankText]
    rfl
  · have visible : ¬ Text.isBlankText raw = true := fun blank => visible_of_means means (List.all_eq_true.mp blank)
    rw [parse, if_neg visible]
    exact (read_all_iff reads_config raw config).mpr ⟨value, means, configures⟩

/-- A text that is read as a configuration describes it. -/
theorem described_of_parse {raw : String} {config : Config} (parsed : parse raw = .ok config) :
    Describes raw.toList config := by
  unfold parse at parsed
  split at parsed
  · rename_i blank
    cases parsed
    exact .inl ⟨List.all_eq_true.mp blank, rfl⟩
  · exact .inr ((read_all_iff reads_config raw config).mp parsed)

/-- A text is read as a configuration just when it describes one, and as that one. Of just the other texts a
fault is reported. -/
theorem parse_exactly_described (raw : String) :
    (∀ config, parse raw = .ok config ↔ Describes raw.toList config) ∧
      ((∃ report, parse raw = .error report) ↔ ¬ ∃ config, Describes raw.toList config) := by
  have described (config : Config) : parse raw = .ok config ↔ Describes raw.toList config := by
    unfold parse Describes
    split
    · rename_i blank
      have blank : ∀ c ∈ raw.toList, Text.isBlank c = true := List.all_eq_true.mp blank
      constructor
      · rintro ⟨⟩
        exact .inl ⟨blank, rfl⟩
      · rintro (⟨-, rfl⟩ | ⟨value, means, -⟩)
        · rfl
        · exact (visible_of_means means blank).elim
    · rename_i visible
      have visible : ¬ ∀ c ∈ raw.toList, Text.isBlank c = true := fun blank => visible (List.all_eq_true.mpr blank)
      rw [read_all_iff reads_config]
      constructor
      · exact .inr
      · rintro (⟨blank, -⟩ | described)
        · exact (visible blank).elim
        · exact described
  refine ⟨described, ?_⟩
  constructor
  · rintro ⟨report, refused⟩ ⟨config, asked⟩
    cases refused.symm.trans ((described config).mpr asked)
  · intro nothing
    cases parsed : parse raw with
    | error report => exact ⟨report, rfl⟩
    | ok config => exact (nothing ⟨config, (described config).mp parsed⟩).elim

end StyleInline.ConfigText
