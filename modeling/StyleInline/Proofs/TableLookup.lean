import StyleInline.Lookup.Supply
import StyleInline.Proofs.ConfigText
import StyleInline.Proofs.NormalForm

/-! What the table of a configuration answers, told by the members that the text of the configuration has. A key is
the stylesheet's when it names the same path, in whatever spelling; of several such members the last counts, wherever
it stands. A key that goes a roundabout way names no path that an import resolves to, so it never counts. -/
namespace StyleInline.TableLookup
open Config Json Grammar Gathering Reading Members SupplyText ConfigText NormalForm

variable {pairs others : List (String × Exports)} {path : Path}

/-! ### Members of a path -/

/-- The key of the member names the path: it has the path's components, if not its text. -/
def Under (path : Path) (pair : String × Exports) : Prop :=
  (Path.mk pair.1).components = path.components

instance (pair : String × Exports) : Decidable (Under path pair) :=
  inferInstanceAs (Decidable (_ = _))

/-- The member is under the path, and no member behind it is. -/
def LastUnder (pairs : List (String × Exports)) (path : Path) (pair : String × Exports) : Prop :=
  ∃ before after, pairs = before ++ pair :: after ∧ Under path pair ∧ ∀ later ∈ after, ¬ Under path later

theorem under_iff {pair : String × Exports} : (Path.mk pair.1 == path) = true ↔ Under path pair :=
  Path.beq_iff_components

/-- From the end, the last member is met first. -/
theorem last_under_iff {pair : String × Exports} :
    (pairs.reverse.find? fun pair => Path.mk pair.1 == path) = some pair ↔ LastUnder pairs path pair := by
  have passed (later : String × Exports) : (Path.mk later.1 == path) = false ↔ ¬ Under path later := by
    rw [← under_iff, Bool.not_eq_true]
  rw [find_reverse_iff]
  simp only [LastUnder, under_iff, passed]

theorem none_under_iff :
    (pairs.reverse.find? fun pair => Path.mk pair.1 == path) = none ↔ ∀ pair ∈ pairs, ¬ Under path pair := by
  simp only [List.find?_eq_none, List.mem_reverse, under_iff]

/-- Where keys name different paths there is no member behind with the same one. -/
theorem last_under_iff_mem {pair : String × Exports}
    (distinct : pairs.Pairwise fun first second => ¬ Under ⟨second.1⟩ first) :
    LastUnder pairs path pair ↔ pair ∈ pairs ∧ Under path pair := by
  constructor
  · rintro ⟨before, after, rfl, under, -⟩
    exact ⟨by simp, under⟩
  · rintro ⟨member, under⟩
    obtain ⟨before, after, rfl⟩ := List.append_of_mem member
    refine ⟨before, after, rfl, under, fun later behind also => ?_⟩
    have apart := (List.pairwise_cons.mp (List.pairwise_append.mp distinct).2.1).1 later behind
    exact apart (under.trans also.symm)

/-! ### The table of a text -/

/-- What is written for the supply, by name or by place. -/
def supplyOf? : Value → Option Value
  | .object members => members.lookup "exports"
  | .array elements => elements[1]?
  | _ => none

/-- The text means this configuration, and what it writes for the supply is an object that has these members in
this order, with the exports that are written for each. -/
def Tabulates (raw : String) (config : Config) (pairs : List (String × Exports)) : Prop :=
  ∃ value table, Means raw.toList value ∧ Configures value config ∧
    supplyOf? value = some (.object [("inline", table)]) ∧ Each NamesExports table pairs

theorem settles_of_configures {value : Value} {config : Config} (configures : Configures value config) :
    Settles NamesSupply .sidecar (supplyOf? value) config.supply := by
  cases configures with
  | named _ _ _ supply => exact supply
  | listed _ _ supply => exact supply

/-- An accepted text that supplies a table has members for it. -/
theorem tabulates_of_parse {raw : String} {config : Config} {table : StyleTable} (accepted : parse raw = .ok config)
    (supplied : config.supply = .inline table) : ∃ pairs, Tabulates raw config pairs := by
  rcases described_of_parse accepted with ⟨-, rfl⟩ | ⟨value, means, configures⟩
  · cases supplied
  · have settles := settles_of_configures configures
    rw [supplied] at settles
    cases written : supplyOf? value with
    | none =>
      rw [written] at settles
      cases settles
    | some supply =>
      rw [written] at settles
      have named : NamesSupply supply (.inline table) := settles
      cases named with
      | @table inner _ named =>
        obtain ⟨pairs, each, -⟩ := named
        exact ⟨pairs, value, inner, means, configures, written, each⟩

/-- The table is made of the members in their order. -/
theorem supply_of_tabulates {raw : String} {config : Config} (tabulates : Tabulates raw config pairs) :
    config.supply = .inline (.ofMembers pairs) := by
  obtain ⟨value, inner, -, configures, written, each⟩ := tabulates
  have settles := settles_of_configures configures
  rw [written] at settles
  have named : NamesSupply (.object [("inline", inner)]) config.supply := settles
  obtain ⟨name, v, value, single, known, fills⟩ := (names_supply_object_iff _ _).mp named
  cases single
  rcases (of_name_iff "inline" v).mp known with ⟨different, -⟩ | ⟨-, rfl⟩
  · contradiction
  · obtain ⟨table, ⟨others, also, gathers⟩, supplied⟩ := fills
    rw [supplied, each_unique names_exports_unique each also, gathers_iff.mp gathers, StyleTable.ofMembers]

/-- A table that is written without space around it, and no root. -/
theorem tabulates_of_spells {raw : String} {word : List Char} {table : Value} (spelled : Spells word table)
    (each : Each NamesExports table pairs)
    (written : raw.toList = "\x7b\"exports\":\x7b\"inline\":".toList ++ word ++ ['}', '}']) :
    Tabulates raw ⟨none, .inline (.ofMembers pairs)⟩ pairs := by
  have outer := spells_single "exports" (by simp) (spells_single "inline" (by simp) spelled)
  have means : Means raw.toList (.object [("exports", .object [("inline", table)])]) := by
    rw [written]
    simpa using means_of_spells outer
  exact ⟨_, table, means, .named (by simp) (by simp) rfl (.table ⟨pairs, each, gathers_of_list _⟩), rfl, each⟩

/-! ### Answers -/

section Answers

variable {raw reordered : String} {config again : Config}

/-- The table is searched from its last member. -/
theorem answer_of_tabulates (tabulates : Tabulates raw config pairs) (files : FileReader) :
    config.supply.exportsOf files path =
      match pairs.reverse.find? fun pair => Path.mk pair.1 == path with
      | some pair => .ok pair.2
      | none => .error (.notConfigured path) := by
  rw [supply_of_tabulates tabulates, Supply.exportsOf, StyleTable.exportsOf, get_of_members]
  cases pairs.reverse.find? fun pair => Path.mk pair.1 == path <;> rfl

theorem answered_iff (tabulates : Tabulates raw config pairs) (files : FileReader) (exports : Exports) :
    config.supply.exportsOf files path = .ok exports ↔ ∃ key, LastUnder pairs path (key, exports) := by
  rw [answer_of_tabulates tabulates]
  simp only [← last_under_iff]
  cases pairs.reverse.find? fun pair => Path.mk pair.1 == path with
  | none => simp
  | some pair => simp [Prod.ext_iff]

theorem refused_iff (tabulates : Tabulates raw config pairs) (files : FileReader) (fault : LookupFault) :
    config.supply.exportsOf files path = .error fault ↔
      fault = .notConfigured path ∧ ∀ pair ∈ pairs, ¬ Under path pair := by
  rw [answer_of_tabulates tabulates, ← none_under_iff]
  cases pairs.reverse.find? fun pair => Path.mk pair.1 == path with
  | none => simp [eq_comm]
  | some pair => simp

/-- In another order the members of different paths give the same answers. -/
theorem reordered_alike (tabulates : Tabulates raw config pairs) (also : Tabulates reordered again others)
    (order : others.Perm pairs) (distinct : pairs.Pairwise fun first second => ¬ Under ⟨second.1⟩ first)
    (files elsewhere : FileReader) :
    again.supply.exportsOf elsewhere path = config.supply.exportsOf files path := by
  have apart : others.Pairwise fun first second => ¬ Under ⟨second.1⟩ first :=
    distinct.perm order.symm fun different same => different same.symm
  cases answer : config.supply.exportsOf files path with
  | ok exports =>
    obtain ⟨key, last⟩ := (answered_iff tabulates files exports).mp answer
    obtain ⟨member, under⟩ := (last_under_iff_mem distinct).mp last
    exact (answered_iff also elsewhere exports).mpr
      ⟨key, (last_under_iff_mem apart).mpr ⟨order.mem_iff.mpr member, under⟩⟩
  | error fault =>
    obtain ⟨blamed, none⟩ := (refused_iff tabulates files fault).mp answer
    exact (refused_iff also elsewhere fault).mpr ⟨blamed, fun pair member => none pair (order.mem_iff.mp member)⟩

end Answers

/-! ### Keys that are never asked for -/

/-- The components go a roundabout way: they begin with a dot, or climb out of the root or of a name. -/
inductive Roundabout : Path.Components → Prop where
  | dot {names : List String} : Roundabout ⟨false, "." :: names⟩
  | underRoot {names : List String} (climb : ".." ∈ names) : Roundabout ⟨true, names⟩
  | behindName {rooted : Bool} {before after : List String} {name : String} (noDot : name ≠ ".")
      (noClimb : name ≠ "..") (climb : ".." ∈ after) : Roundabout ⟨rooted, before ++ name :: after⟩

/-- In a place that has been reached, names are climbs or ordinary. A climb has climbs alone in front of it, and under
the root there is none. -/
theorem climbs_in_front {rooted : Bool} {place : List String} (reached : Reached rooted place) :
    (∀ name ∈ place.reverse, name = ".." ∨ Ordinary name) ∧
      (place.reverse.Pairwise fun first second => second = ".." → first = "..") ∧
      (rooted = true → ∀ name ∈ place.reverse, Ordinary name) := by
  obtain ⟨segments, climbs, rfl, ordinary, grounded⟩ := reached
  rw [List.reverse_append, List.reverse_replicate]
  have climb : ∀ name ∈ List.replicate climbs "..", name = ".." := fun name => List.eq_of_mem_replicate
  have segment : ∀ name ∈ segments.reverse, Ordinary name := fun name member =>
    ordinary name (List.mem_reverse.mp member)
  refine ⟨?_, ?_, ?_⟩
  · intro name member
    exact (List.mem_append.mp member).imp (climb name) (segment name)
  · refine List.pairwise_append.mpr ⟨?_, ?_, fun first member _ _ _ => climb first member⟩
    · exact List.pairwise_of_forall_mem_list fun first member _ _ _ => climb first member
    · exact List.pairwise_of_forall_mem_list fun _ _ second member same => absurd same (segment second member).2.2.1
  · intro isRooted
    rw [grounded isRooted]
    exact segment

/-- What is reached is never a roundabout way. -/
theorem direct_of_reached {rooted : Bool} {place : List String} (reached : Reached rooted place) :
    ¬ Roundabout ⟨rooted, place.reverse⟩ := by
  obtain ⟨parts, order, grounded⟩ := climbs_in_front reached
  generalize place.reverse = names at parts order grounded
  intro roundabout
  cases roundabout with
  | dot =>
    rcases parts "." List.mem_cons_self with climb | ordinary
    · contradiction
    · exact ordinary.2.1 rfl
  | underRoot climb => exact (grounded rfl ".." climb).2.2.1 rfl
  | behindName _ noClimb climb =>
    have behind := (List.pairwise_cons.mp (List.pairwise_append.mp order).2.1).1
    exact noClimb (behind ".." climb rfl)

theorem not_under_resolved {pair : String × Exports} (roundabout : Roundabout (Path.mk pair.1).components)
    (file : Path) (source : String) : ¬ Under (file.resolve source) pair := by
  intro under
  rw [Under, components_resolve] at under
  rw [under] at roundabout
  exact direct_of_reached (reached_place file source) roundabout

/-- A configuration that is accepted and supplies a table has members for it in its text. Every request is answered
with the exports of the last of these whose key names the stylesheet's path, and refused for the stylesheet as it is
asked for when there is none, whatever the files, the root and the host are. So members whose keys name different
paths may be written in any order. A key that goes a roundabout way is never the one that is found for an import. -/
theorem last_member_answers {raw : String} {config : Config} {table : StyleTable}
    (accepted : Config.parse raw = .ok config) (supplied : config.supply = .inline table) :
    (∃ pairs, Tabulates raw config pairs) ∧ ∀ pairs, Tabulates raw config pairs →
      (∀ (σ : Type) (files : FileReader) (request : Request) (memory : σ), ∃ answer,
        (config.supply.provider files).answer request memory = (answer, memory) ∧
          (∀ exports, answer = .ok exports ↔ ∃ key, LastUnder pairs request.stylesheet (key, exports)) ∧
          ∀ fault, answer = .error fault ↔
            fault = .notConfigured request.stylesheet ∧ ∀ pair ∈ pairs, ¬ Under request.stylesheet pair) ∧
      (∀ (reordered : String) (again : Config) (others : List (String × Exports)),
        Tabulates reordered again others → others.Perm pairs →
        (pairs.Pairwise fun first second => ¬ Under ⟨second.1⟩ first) →
        ∀ (σ : Type) (files elsewhere : FileReader) (request : Request) (memory : σ),
          (again.supply.provider elsewhere).answer request memory =
            (config.supply.provider files).answer request memory) ∧
      ∀ (file : Path) (source : String) (pair : String × Exports), Roundabout (Path.mk pair.1).components →
        (Path.mk pair.1 == file.resolve source) = false ∧ ¬ LastUnder pairs (file.resolve source) pair := by
  refine ⟨tabulates_of_parse accepted supplied, fun pairs tabulates => ⟨?_, ?_, ?_⟩⟩
  · intro σ files request memory
    exact ⟨_, rfl, answered_iff tabulates files, refused_iff tabulates files⟩
  · intro reordered again others also order distinct σ files elsewhere request memory
    exact Prod.ext (reordered_alike tabulates also order distinct files elsewhere) rfl
  · intro file source pair roundabout
    have away := not_under_resolved roundabout file source
    refine ⟨?_, fun ⟨_, _, _, under, _⟩ => away under⟩
    rw [← Bool.not_eq_true, under_iff]
    exact away

/-- One stylesheet in two spellings, and a roundabout way to it. -/
def spellings : List (String × Exports) :=
  [("//b.module.css", .ofList [("x", "1")]), ("/b.module.css/", .ofList [("x", "2")]),
    ("/a/../b.module.css", .ofList [("x", "3")])]

def spellingsText : String :=
  "\x7b\"exports\":\x7b\"inline\":\x7b\"//b.module.css\":\x7b\"x\":\"1\"\x7d," ++
    "\"/b.module.css/\":\x7b\"x\":\"2\"\x7d,\"/a/../b.module.css\":\x7b\"x\":\"3\"\x7d\x7d\x7d\x7d"

def spellingsTable : Value :=
  .object [("//b.module.css", .object [("x", .string "1")]), ("/b.module.css/", .object [("x", .string "2")]),
    ("/a/../b.module.css", .object [("x", .string "3")])]

def spellingsConfig : Config := ⟨none, .inline (.ofMembers spellings)⟩

theorem later_spelling_counts :
    Config.parse spellingsText = .ok spellingsConfig ∧ Tabulates spellingsText spellingsConfig spellings ∧
      (Path.mk "/Card.tsx").resolve "./b.module.css" = ⟨"/b.module.css"⟩ ∧
      Roundabout (Path.mk "/a/../b.module.css").components ∧
      ¬ LastUnder spellings ⟨"/b.module.css"⟩ ("/a/../b.module.css", .ofList [("x", "3")]) ∧
      LastUnder spellings ⟨"/b.module.css"⟩ ("/b.module.css/", .ofList [("x", "2")]) ∧
      (spellingsConfig.supply.provider fun _ => .error .notFound).answer
        ⟨⟨"/"⟩, ⟨none, none⟩, ⟨"/b.module.css"⟩⟩ () = (.ok (.ofList [("x", "2")]), ()) := by
  have member (key text : String) (plain : ∀ c ∈ key.toList, ' ' ≤ c ∧ c ≠ '"' ∧ c ≠ '\\')
      (visible : ∀ c ∈ text.toList, ' ' ≤ c ∧ c ≠ '"' ∧ c ≠ '\\') :=
    Member.colon (string_text_plain key plain) space_nil space_nil
      (spells_single "x" (by simp) (.string (string_text_plain text visible)))
  have table : Spells _ spellingsTable := Spells.object (inside_iff_listing.mpr
    (.word (.first space_nil) (member "//b.module.css" "1" (by simp) (by simp))
      (.word (.later space_nil space_nil) (member "/b.module.css/" "2" (by simp) (by simp))
        (.word (.later space_nil space_nil) (member "/a/../b.module.css" "3" (by simp) (by simp))
          (.close space_nil)))))
  have spelled := spells_single "exports" (by simp) (spells_single "inline" (by simp) table)
  have named (text : String) : NamesExports (.object [("x", .string text)]) (.ofList [("x", text)]) :=
    ⟨[("x", text)], ⟨_, rfl, .cons ⟨rfl, rfl⟩ .nil⟩, gathers_of_list _⟩
  have each : Each NamesExports spellingsTable spellings :=
    ⟨_, rfl, .cons ⟨rfl, named "1"⟩ (.cons ⟨rfl, named "2"⟩ (.cons ⟨rfl, named "3"⟩ .nil))⟩
  have configures : Configures (.object [("exports", .object [("inline", spellingsTable)])]) spellingsConfig :=
    .named (by simp) (by simp) rfl (.table ⟨spellings, each, gathers_of_list _⟩)
  have means : Means spellingsText.toList (.object [("exports", .object [("inline", spellingsTable)])]) :=
    means_of_spells spelled
  have tabulates : Tabulates spellingsText spellingsConfig spellings := ⟨_, _, means, configures, rfl, each⟩
  have accepted : Config.parse spellingsText = .ok spellingsConfig := parse_described (.inr ⟨_, means, configures⟩)
  have last : LastUnder spellings ⟨"/b.module.css"⟩ ("/b.module.css/", .ofList [("x", "2")]) :=
    ⟨[_], [_], rfl, by decide, by decide⟩
  have roundabout : Roundabout (Path.mk "/a/../b.module.css").components := .underRoot (by decide)
  have resolved : (Path.mk "/Card.tsx").resolve "./b.module.css" = ⟨"/b.module.css"⟩ := by rfl
  obtain ⟨answers, -, dead⟩ := (last_member_answers accepted rfl).2 spellings tabulates
  obtain ⟨answer, same, answered, -⟩ :=
    answers Unit (fun _ => .error .notFound) ⟨⟨"/"⟩, ⟨none, none⟩, ⟨"/b.module.css"⟩⟩ ()
  obtain ⟨-, unused⟩ := dead ⟨"/Card.tsx"⟩ "./b.module.css" ("/a/../b.module.css", .ofList [("x", "3")]) roundabout
  rw [resolved] at unused
  rw [(answered _).mpr ⟨_, last⟩] at same
  exact ⟨accepted, tabulates, resolved, roundabout, unused, last, same⟩

end StyleInline.TableLookup
