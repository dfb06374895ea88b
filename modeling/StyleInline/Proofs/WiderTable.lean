import StyleInline.Proofs.Outcomes
import StyleInline.Proofs.SecondRun
import StyleInline.Proofs.TableLookup

/-! Tables that grow between runs. A run asks its table for the stylesheets of its module and for nothing else, so
what a table holds beside them is of no account. A table that keeps the answers it gave and gives more of them lets
no run stop earlier than it did: what succeeded succeeds alike, and what failed gets at least as far. -/
namespace StyleInline.WiderTable
open Config Json Grammar Gathering Members SupplyText ConfigText DocumentOrder Traversal Outcomes TableLookup
open SecondRun (dotted cardImport)

/-! ### Tables -/

/-- Every stylesheet with exports in the first table has them in the second. -/
def Widens (table wider : StyleTable) : Prop :=
  ∀ path exports, table.exportsOf path = .ok exports → wider.exportsOf path = .ok exports

/-- Of the second list, the members under the paths of the first are the first list itself, in its order. All
others name paths that the first does not name. -/
def Adds (pairs more : List (String × Exports)) : Prop :=
  more.filter (fun pair => pairs.any fun held => Under ⟨held.1⟩ pair) = pairs

theorem answer_of_table {config : Config} {table : StyleTable} (supplied : config.supply = .inline table)
    (files : FileReader) (path : Path) : config.supply.exportsOf files path = table.exportsOf path := by
  rw [supplied, Supply.exportsOf]

/-- Whichever member is the last under a path of the old ones, it is an old one. -/
theorem last_under_of_adds {pairs more : List (String × Exports)} {path : Path} {pair : String × Exports}
    (adds : Adds pairs more) (last : LastUnder pairs path pair) : LastUnder more path pair := by
  rw [← last_under_iff] at last ⊢
  have held : pair ∈ pairs := List.mem_reverse.mp (List.mem_of_find?_eq_some last)
  have equal := List.find?_some last
  have under : Under path pair := under_iff.mp equal
  have narrowed : pairs.reverse = more.reverse.filter fun pair => pairs.any fun held => Under ⟨held.1⟩ pair := by
    rw [List.filter_reverse, show more.filter _ = pairs from adds]
  rw [narrowed, List.find?_filter] at last
  rw [← last]
  congr 1
  funext other
  cases equal : Path.mk other.1 == path with
  | false => simp
  | true =>
    have beside : Under ⟨pair.1⟩ other := (under_iff.mp equal).trans under.symm
    simpa using ⟨pair.1, ⟨pair.2, held⟩, beside⟩

theorem widens_of_adds {raw other : String} {config again : Config} {table wider : StyleTable}
    {pairs more : List (String × Exports)} (supplied : config.supply = .inline table)
    (suppliedToo : again.supply = .inline wider) (tabulates : Tabulates raw config pairs)
    (also : Tabulates other again more) (adds : Adds pairs more) : Widens table wider := by
  intro path exports answered
  have files : FileReader := fun _ => .error .notFound
  rw [← answer_of_table supplied files, answered_iff tabulates] at answered
  obtain ⟨key, last⟩ := answered
  rw [← answer_of_table suppliedToo files, answered_iff also]
  exact ⟨key, last_under_of_adds adds last⟩

theorem parse_of_tabulates {raw : String} {config : Config} {pairs : List (String × Exports)}
    (tabulates : Tabulates raw config pairs) : parse raw = .ok config := by
  obtain ⟨value, table, means, configures, -, -⟩ := tabulates
  exact parse_described (.inr ⟨value, means, configures⟩)

/-! ### Where runs stop -/

/-- The run was stopped at the import that stands at this place among those of stylesheets: all in front of it have
exports and it has none. The module is as it was, and the diagnostic is of that import. -/
def StopsAt (config : Config) (files : FileReader) (host : Host) (items : List Item) (outcome : Outcome)
    (place : Nat) : Prop :=
  ∃ decl fault, (stylesheetImports items)[place]? = some decl ∧
    (∀ earlier ∈ (stylesheetImports items).take place, ∃ exports, lookUp config files host earlier = .ok exports) ∧
    lookUp config files host decl = .error fault ∧ outcome.program = .module items ∧
    outcome.diagnostic = some ⟨decl.span, fault.message LookupFault.message⟩

/-- A run over a module succeeds, or it stops at one of the imports of stylesheets. -/
theorem inlined_or_stopped {raw : String} {config : Config} (accepted : Config.parse raw = .ok config)
    (files : FileReader) (host : Host) (items : List Item) :
    EndsIn files raw host (.module items) (inlineProgram files raw host (.module items)) .inlined ∨
      ∃ place, StopsAt config files host items (inlineProgram files raw host (.module items)) place := by
  obtain ⟨ending, ended⟩ := module_ends accepted files host items
  cases ending with
  | refused =>
    obtain ⟨report, rejected, -⟩ := ended
    rw [accepted] at rejected
    cases rejected
  | script =>
    obtain ⟨-, body, -, different, -⟩ := ended
    cases different
  | inlined => exact .inl ended
  | failed =>
    obtain ⟨found, _, passed, decl, later, fault, text, parsed, same, split, answered, stopped, words, kept, said⟩ :=
      ended
    obtain rfl := words_iff.mp words
    cases accepted.symm.trans parsed
    cases same
    refine .inr ⟨passed.length, decl, fault, ?_, ?_, stopped, kept, said⟩
    · rw [split]
      simp
    · rw [split]
      simpa using answered

section Runs

variable {config again : Config} {table wider : StyleTable} {host : Host}

/-- An import has exports in the table only as exports of its stylesheet. -/
theorem answered_of_look_up {decl : Import} {exports : Exports} {file : Path} {files : FileReader}
    (supplied : config.supply = .inline table) (known : host.file? = some file)
    (looked : lookUp config files host decl = .ok exports) :
    table.exportsOf (file.resolve decl.source) = .ok exports := by
  rw [← answer_of_table supplied files]
  unfold lookUp at looked
  rw [known] at looked
  cases rooted : config.rootFor host with
  | none =>
    rw [rooted] at looked
    cases looked
  | some root =>
    rw [rooted] at looked
    cases answer : config.supply.exportsOf files (file.resolve decl.source) with
    | error fault => simp [answer, Except.mapError] at looked
    | ok found => simpa [answer, Except.mapError] using looked

/-- What an import has, it keeps when the table grows. -/
theorem look_up_widened {decl : Import} {exports : Exports} (supplied : config.supply = .inline table)
    (suppliedToo : again.supply = .inline wider) (widens : Widens table wider)
    (root : (config.rootFor host).isSome = (again.rootFor host).isSome) {files : FileReader} (elsewhere : FileReader)
    (looked : lookUp config files host decl = .ok exports) : lookUp again elsewhere host decl = .ok exports := by
  cases known : host.file? with
  | none => simp [lookUp, known] at looked
  | some file =>
    have held := widens _ _ (answered_of_look_up supplied known looked)
    rw [← answer_of_table suppliedToo elsewhere] at held
    cases rooted : config.rootFor host with
    | none => simp [lookUp, known, rooted] at looked
    | some first =>
      obtain ⟨second, there⟩ := Option.isSome_iff_exists.mp (root.symm.trans (by rw [rooted]; rfl))
      simp [lookUp, known, there, held, Except.mapError]

/-- The wider table gets a run at least as far, for what it has no exports of now it had none of before. -/
theorem stops_no_sooner {items : List Item} {files elsewhere : FileReader} {before after : Outcome}
    {place reached : Nat} (supplied : config.supply = .inline table) (suppliedToo : again.supply = .inline wider)
    (widens : Widens table wider) (root : (config.rootFor host).isSome = (again.rootFor host).isSome)
    (stopped : StopsAt config files host items before place)
    (halted : StopsAt again elsewhere host items after reached) : place ≤ reached := by
  by_contra sooner
  obtain ⟨-, -, -, answered, -⟩ := stopped
  obtain ⟨decl, fault, there, -, refused, -⟩ := halted
  have passed : ((stylesheetImports items).take place)[reached]? = some decl := by
    rw [List.getElem?_take_of_lt (by omega), there]
  obtain ⟨exports, looked⟩ := answered decl (List.mem_of_getElem? passed)
  have kept := look_up_widened supplied suppliedToo widens root elsewhere looked
  rw [refused] at kept
  cases kept

/-- With the same root configured there is a root for both, or for neither. -/
theorem root_for_alike (root : (config.root? == again.root?) = true) (host : Host) :
    (config.rootFor host).isSome = (again.rootFor host).isSome := by
  unfold Config.rootFor
  cases here : config.root? <;> cases there : again.root? <;> simp_all

end Runs

/-- Two accepted texts with the same root configured and a table each. If the tables have the same for each
stylesheet that a module imports, the runs over the module come to the same: program, diagnostic and events. If the
second table has the members of the first and others of paths that the first does not name, a run that succeeded
comes to the same, and a run that was stopped at an import succeeds or is stopped at that import or at a later one. -/
theorem wider_table_gets_further {raw other : String} {config again : Config} {table wider : StyleTable}
    (accepted : Config.parse raw = .ok config) (acceptedToo : Config.parse other = .ok again)
    (supplied : config.supply = .inline table) (suppliedToo : again.supply = .inline wider)
    (root : (config.root? == again.root?) = true) (files elsewhere : FileReader) (host : Host) (items : List Item) :
    ((∀ file decl, host.file? = some file → decl ∈ stylesheetImports items →
        table.exportsOf (file.resolve decl.source) = wider.exportsOf (file.resolve decl.source)) →
      inlineProgram files raw host (.module items) = inlineProgram elsewhere other host (.module items)) ∧
    ∀ pairs more, Tabulates raw config pairs → Tabulates other again more → Adds pairs more →
      (EndsIn files raw host (.module items) (inlineProgram files raw host (.module items)) .inlined ∧
        inlineProgram elsewhere other host (.module items) = inlineProgram files raw host (.module items)) ∨
      ∃ place, StopsAt config files host items (inlineProgram files raw host (.module items)) place ∧
        (EndsIn elsewhere other host (.module items) (inlineProgram elsewhere other host (.module items)) .inlined ∨
          ∃ reached, place ≤ reached ∧
            StopsAt again elsewhere host items (inlineProgram elsewhere other host (.module items)) reached) := by
  have rooted := root_for_alike root host
  have alike : (∀ file decl, host.file? = some file → decl ∈ stylesheetImports items →
      table.exportsOf (file.resolve decl.source) = wider.exportsOf (file.resolve decl.source)) →
      inlineProgram files raw host (.module items) = inlineProgram elsewhere other host (.module items) := by
    intro same
    refine program_supplied_alike accepted acceptedToo rfl rooted fun file decl known member => ?_
    rw [answer_of_table supplied, answer_of_table suppliedToo, same file decl known member]
  refine ⟨alike, fun pairs more tabulates also adds => ?_⟩
  have widens := widens_of_adds supplied suppliedToo tabulates also adds
  rcases inlined_or_stopped accepted files host items with inlined | ⟨place, stopped⟩
  · refine .inl ⟨inlined, (alike fun file decl known member => ?_).symm⟩
    obtain ⟨_, _, _, parsed, same, answered, -⟩ := inlined
    cases accepted.symm.trans parsed
    cases same
    obtain ⟨exports, looked⟩ := answered decl member
    have held := answered_of_look_up supplied known looked
    rw [held, widens _ _ held]
  · refine .inr ⟨place, stopped, ?_⟩
    rcases inlined_or_stopped acceptedToo elsewhere host items with inlined | ⟨reached, halted⟩
    · exact .inl inlined
    · exact .inr ⟨reached, stops_no_sooner supplied suppliedToo widens rooted stopped halted, halted⟩

/-- Three imports of stylesheets, the first of them in a block. -/
def cardPageMenu : List Item :=
  dotted cardImport ++ [
    .importDecl ⟨"./Page.module.css", [.byDefault ⟨"page", .between 100 104, 2, false⟩], false, .evaluation, none,
      .between 93 130⟩,
    .importDecl ⟨"./Menu.module.css", [.byDefault ⟨"menu", .between 140 144, 2, false⟩], false, .evaluation, none,
      .between 133 170⟩]

def cardPair : String × Exports := ("/Card.module.css", .ofList [("card", "x1_card")])

def pagePair : String × Exports := ("/Page.module.css", .ofList [("page", "x2_page")])

def cardConfigText : String :=
  "\x7b\"exports\":\x7b\"inline\":\x7b\"/Card.module.css\":\x7b\"card\":\"x1_card\"\x7d\x7d\x7d\x7d"

def pageCardConfigText : String :=
  "\x7b\"exports\":\x7b\"inline\":\x7b\"/Page.module.css\":\x7b\"page\":\"x2_page\"\x7d," ++
    "\"/Card.module.css\":\x7b\"card\":\"x1_card\"\x7d\x7d\x7d\x7d"

/-- A host that works in the directory of the file, and no files beside the stylesheets. -/
def appHost : Host := (Host.forFile ⟨"/Card.tsx"⟩).withWorkdir ⟨"/"⟩

def noFiles : FileReader := fun _ => .error .notFound

theorem page_found_menu_missing :
    Config.parse cardConfigText = .ok ⟨none, .inline (.ofMembers [cardPair])⟩ ∧
      Config.parse pageCardConfigText = .ok ⟨none, .inline (.ofMembers [pagePair, cardPair])⟩ ∧
      Tabulates cardConfigText ⟨none, .inline (.ofMembers [cardPair])⟩ [cardPair] ∧
      Tabulates pageCardConfigText ⟨none, .inline (.ofMembers [pagePair, cardPair])⟩ [pagePair, cardPair] ∧
      Adds [cardPair] [pagePair, cardPair] ∧
      inlineProgram noFiles cardConfigText appHost (.module (dotted cardImport)) =
        inlineProgram noFiles pageCardConfigText appHost (.module (dotted cardImport)) ∧
      (inlineProgram noFiles cardConfigText appHost (.module cardPageMenu)).diagnostic =
        some ⟨.between 93 130, "no CSS module exports configured for /Page.module.css"⟩ ∧
      (inlineProgram noFiles pageCardConfigText appHost (.module cardPageMenu)).diagnostic =
        some ⟨.between 133 170, "no CSS module exports configured for /Menu.module.css"⟩ ∧
      ∃ place reached, place ≤ reached ∧
        StopsAt ⟨none, .inline (.ofMembers [cardPair])⟩ noFiles appHost cardPageMenu
          (inlineProgram noFiles cardConfigText appHost (.module cardPageMenu)) place ∧
        StopsAt ⟨none, .inline (.ofMembers [pagePair, cardPair])⟩ noFiles appHost cardPageMenu
          (inlineProgram noFiles pageCardConfigText appHost (.module cardPageMenu)) reached := by
  have member (path name text : String) (plain : ∀ c ∈ path.toList, ' ' ≤ c ∧ c ≠ '"' ∧ c ≠ '\\')
      (clear : ∀ c ∈ name.toList, ' ' ≤ c ∧ c ≠ '"' ∧ c ≠ '\\')
      (visible : ∀ c ∈ text.toList, ' ' ≤ c ∧ c ≠ '"' ∧ c ≠ '\\') :=
    Member.colon (string_text_plain path plain) space_nil space_nil
      (spells_single name clear (.string (string_text_plain text visible)))
  have card := member "/Card.module.css" "card" "x1_card" (by simp) (by simp) (by simp)
  have page := member "/Page.module.css" "page" "x2_page" (by simp) (by simp) (by simp)
  have first : Tabulates cardConfigText ⟨none, .inline (.ofMembers [cardPair])⟩ [cardPair] :=
    tabulates_of_spells (.object (inside_iff_listing.mpr (.word (.first space_nil) card (.close space_nil))))
      ⟨_, rfl, .cons ⟨rfl, names_exports_single "card" "x1_card"⟩ .nil⟩ rfl
  have second : Tabulates pageCardConfigText ⟨none, .inline (.ofMembers [pagePair, cardPair])⟩ [pagePair, cardPair] :=
    tabulates_of_spells (.object (inside_iff_listing.mpr (.word (.first space_nil) page
      (.word (.later space_nil space_nil) card (.close space_nil)))))
      ⟨_, rfl, .cons ⟨rfl, names_exports_single "page" "x2_page"⟩
        (.cons ⟨rfl, names_exports_single "card" "x1_card"⟩ .nil)⟩ rfl
  have accepted := parse_of_tabulates first
  have acceptedToo := parse_of_tabulates second
  have adds : Adds [cardPair] [pagePair, cardPair] := rfl
  have stopped : (inlineProgram noFiles cardConfigText appHost (.module cardPageMenu)).diagnostic =
      some ⟨.between 93 130, "no CSS module exports configured for /Page.module.css"⟩ := by
    simp only [inlineProgram, accepted]
    rfl
  have halted : (inlineProgram noFiles pageCardConfigText appHost (.module cardPageMenu)).diagnostic =
      some ⟨.between 133 170, "no CSS module exports configured for /Menu.module.css"⟩ := by
    simp only [inlineProgram, acceptedToo]
    rfl
  have source : ∀ decl ∈ stylesheetImports (dotted cardImport), decl.source = "./Card.module.css" := by decide
  have same := (wider_table_gets_further accepted acceptedToo rfl rfl rfl noFiles noFiles appHost
    (dotted cardImport)).1 fun file decl known member => by
      cases known
      rw [source decl member]
      rfl
  have further := (wider_table_gets_further accepted acceptedToo rfl rfl rfl noFiles noFiles appHost cardPageMenu).2
    _ _ first second adds
  refine ⟨accepted, acceptedToo, first, second, adds, same, stopped, halted, ?_⟩
  rcases further with ⟨⟨_, _, _, _, _, _, _, silent, _⟩, _⟩ |
    ⟨place, stops, ⟨_, _, _, _, _, _, _, silent, _⟩ | ⟨reached, later, halts⟩⟩
  · rw [stopped] at silent
    cases silent
  · rw [halted] at silent
    cases silent
  · exact ⟨place, reached, later, stops, halts⟩

end StyleInline.WiderTable
