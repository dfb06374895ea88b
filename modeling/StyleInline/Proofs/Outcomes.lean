import Mathlib.Logic.ExistsUnique
import StyleInline.Inlining.Program
import StyleInline.Proofs.Traversal

/-! The whole job for one file ends in one of four ways. Which of them it is hangs on the text of the
configuration, on the kind of program, and on what each import of a stylesheet comes to when it is looked up
by itself; the target is stated by these alone and mentions no walk. -/
namespace StyleInline.Outcomes
open DocumentOrder Traversal

variable {σ : Type}

/-- What an import comes to under a configuration: the file has to be known, then the root, then the
stylesheet's exports have to be had. Nothing hangs on what was looked up before. -/
def lookUp (config : Config) (files : FileReader) (host : Host) (decl : Import) :
    Except (ImportFault LookupFault) Exports :=
  match host.file?, config.rootFor host with
  | none, _ => .error .fileUnknown
  | some _, none => .error .rootUnknown
  | some file, some _ => (config.supply.exportsOf files (file.resolve decl.source)).mapError .lookup

/-- The constant of the exports that looking up the import by itself comes to, under the identifier that stands in
the import. -/
def Declares (config : Config) (files : FileReader) (host : Host) (decl : Import) (binding : Ident)
    (declared : VarDecl) : Prop :=
  ∃ exports, decl.specifiers = [.byDefault binding] ∧ lookUp config files host decl = .ok exports ∧
    ConstantOf binding exports declared

/-- The words for an import that cannot be inlined: what the host and the configuration leave unknown, or the path
that exports were looked for at, with what was wrong there. -/
inductive Words : ImportFault LookupFault → String → Prop where
  | fileUnknown : Words .fileUnknown
      "invalid state: `filename` is missing (the host must pass the filename of the file being compiled)"
  | rootUnknown : Words .rootUnknown
      "invalid config: `absoluteRootDirPath` is missing and the host did not supply a cwd"
  | notConfigured (stylesheet : Path) : Words (.lookup (.notConfigured stylesheet))
      ("no CSS module exports configured for " ++ stylesheet.text)
  | unreadable (file : Path) (reason : ReadFault) : Words (.lookup (.unreadable file reason))
      ("failed to read CSS module exports from " ++ file.text)
  | malformed (file : Path) (report : Json.Report) : Words (.lookup (.malformed file report))
      ("invalid CSS module exports in " ++ file.text)

theorem words_iff {fault : ImportFault LookupFault} {text : String} :
    Words fault text ↔ text = fault.message LookupFault.message := by
  constructor
  · intro words
    cases words <;> rfl
  · rintro rfl
    match fault with
    | .fileUnknown => exact .fileUnknown
    | .rootUnknown => exact .rootUnknown
    | .lookup (.notConfigured stylesheet) => exact .notConfigured stylesheet
    | .lookup (.unreadable file reason) => exact .unreadable file reason
    | .lookup (.malformed file report) => exact .malformed file report

inductive Ending where
  | refused
  | script
  | inlined
  | failed

/-- When a run ends in which way, and how the program is found then and what is said of it. -/
def EndsIn (files : FileReader) (raw : String) (host : Host) (program : Program) (outcome : Outcome) :
    Ending → Prop
  | .refused => ∃ report, Config.parse raw = .error report ∧
      outcome.program = program ∧
      outcome.diagnostic = some ⟨.nowhere, "invalid plugin config: " ++ report.message⟩
  | .script => ∃ config body, Config.parse raw = .ok config ∧ program = .script body ∧
      outcome.program = program ∧ outcome.diagnostic = none
  | .inlined => ∃ config items placed, Config.parse raw = .ok config ∧ program = .module items ∧
      (∀ decl ∈ stylesheetImports items, ∃ exports, lookUp config files host decl = .ok exports) ∧
      outcome.program = .module placed ∧ outcome.diagnostic = none ∧
      Inlined (Declares config files host) items placed ∧ stylesheetImports placed = []
  | .failed => ∃ config items passed decl later fault text, Config.parse raw = .ok config ∧
      program = .module items ∧ stylesheetImports items = passed ++ decl :: later ∧
      (∀ earlier ∈ passed, ∃ exports, lookUp config files host earlier = .ok exports) ∧
      lookUp config files host decl = .error fault ∧ Words fault text ∧ outcome.program = program ∧
      outcome.diagnostic = some ⟨decl.span, text⟩

/-- The ending as it shows from outside. -/
def shown : Except Json.Report Config → Program → Option Diagnostic → Ending
  | .error _, _, _ => .refused
  | .ok _, .script _, _ => .script
  | .ok _, .module _, none => .inlined
  | .ok _, .module _, some _ => .failed

/-- Inlining an import under a configuration is looking it up by itself, whatever came before. -/
theorem inline_looks_up {decl : Import} {binding : Ident} (binds : binding? decl = some binding)
    (config : Config) (files : FileReader) (host : Host) (journal : Journal σ) :
    ((config.inliner files host).inline decl journal).1 =
      (lookUp config files host decl).map fun exports => some (.ofExports binding exports) := by
  rw [inline_stylesheet binds]
  unfold Inliner.request lookUp
  simp only [Config.inliner, Supply.provider, Provider.stateless]
  cases host.file? with
  | none => rfl
  | some file =>
    cases config.rootFor host with
    | none => rfl
    | some root =>
      dsimp only
      cases config.supply.exportsOf files (file.resolve decl.source) <;> rfl

/-- Of two configurations and hosts it matters which file is inlined into, whether there is a root, and the
exports of the stylesheet that the import is of. -/
theorem inline_supplied_alike {first second : Config} {here there : FileReader} {host other : Host} {decl : Import}
    (file : host.file? = other.file?) (root : (first.rootFor host).isSome = (second.rootFor other).isSome)
    (supplied : ∀ binding file, binding? decl = some binding → host.file? = some file →
      first.supply.exportsOf here (file.resolve decl.source) =
        second.supply.exportsOf there (file.resolve decl.source)) (journal : Journal σ) :
    (first.inliner here host).inline decl journal = (second.inliner there other).inline decl journal := by
  cases binds : binding? decl with
  | none => rw [inline_other binds, inline_other binds]
  | some binding =>
    rw [inline_stylesheet binds, inline_stylesheet binds]
    unfold Inliner.request
    simp only [Config.inliner, Supply.provider, Provider.stateless]
    rw [← file]
    cases known : host.file? with
    | none => rfl
    | some importer =>
      have same := supplied binding importer binds known
      cases inFirst : first.rootFor host with
      | none =>
        have inSecond : second.rootFor other = none := by
          rw [inFirst, Option.isSome_none] at root
          simpa using root.symm
        rw [inSecond]
      | some here =>
        obtain ⟨there, inSecond⟩ := Option.isSome_iff_exists.mp (root.symm.trans (by rw [inFirst]; rfl))
        simp only [inSecond, same]

/-- What was declared for an import is the constant of the exports it has by itself. -/
theorem answered_of_inlined {config : Config} {files : FileReader} {host : Host} {decl : Import}
    {binding : Ident} {before after : Journal σ} {found : Option VarDecl}
    (binds : binding? decl = some binding)
    (ran : (config.inliner files host).inline decl before = (.ok found, after)) :
    ∃ exports, lookUp config files host decl = .ok exports ∧
      found = some (.ofExports binding exports) := by
  have answer := inline_looks_up binds config files host before
  rw [ran] at answer
  cases looked : lookUp config files host decl with
  | error fault => simp [looked, Except.map] at answer
  | ok exports =>
    simp only [looked, Except.map, Except.ok.injEq] at answer
    exact ⟨exports, rfl, answer⟩

/-- The fault that stopped a run at an import is the one it has by itself. -/
theorem unanswered_of_stopped {config : Config} {files : FileReader} {host : Host} {decl : Import}
    {before after : Journal σ} {fault : ImportFault LookupFault}
    (ran : (config.inliner files host).inline decl before = (.error fault, after)) :
    lookUp config files host decl = .error fault := by
  obtain ⟨binding, binds⟩ := stylesheet_of_fault ran
  have answer := inline_looks_up binds config files host before
  rw [ran] at answer
  cases looked : lookUp config files host decl with
  | error reason =>
    simp only [looked, Except.map, Except.error.injEq] at answer
    rw [answer]
  | ok exports => simp [looked, Except.map] at answer

/-- When no import fails, each import of a stylesheet has its exports. -/
theorem each_answered {config : Config} {files : FileReader} {host : Host} {imports : List Import}
    {before after : Journal σ} {found : List VarDecl}
    (ran : inlineEach (config.inliner files host) imports before = (.ok found, after)) :
    ∀ decl ∈ imports.filter (fun decl => (binding? decl).isSome),
      ∃ exports, lookUp config files host decl = .ok exports := by
  induction imports generalizing before after found with
  | nil => simp
  | cons decl rest ih =>
    obtain ⟨first, reached, others, inlined, behind, -⟩ := inline_each_cons_found ran
    intro member among
    obtain ⟨among, stylesheet⟩ := List.mem_filter.mp among
    rcases List.mem_cons.mp among with rfl | among
    · obtain ⟨binding, binds⟩ := Option.isSome_iff_exists.mp stylesheet
      obtain ⟨exports, looked, _⟩ := answered_of_inlined binds inlined
      exact ⟨exports, looked⟩
    · exact ih behind member (List.mem_filter.mpr ⟨among, stylesheet⟩)

/-- A declaration that was given holds what the import comes to by itself. -/
theorem declares_of_gives {config : Config} {files : FileReader} {host : Host} {decl : Import}
    {binding : Ident} {declared : VarDecl} (binds : binding? decl = some binding)
    (gives : Gives (config.inliner files host : Inliner σ LookupFault) decl binding declared) :
    Declares config files host decl binding declared := by
  obtain ⟨_, _, _, _, single, -, -, -, inlined⟩ := gives
  obtain ⟨exports, looked, same⟩ := answered_of_inlined binds inlined
  obtain rfl := Option.some.inj same
  exact ⟨exports, single, looked, constant_of_exports binding exports⟩

/-- The failure of a run is what its first import without exports comes to by itself. -/
theorem first_unanswered {config : Config} {files : FileReader} {host : Host} {items : List Item}
    {before after : Journal σ} {failure : Failure LookupFault}
    (ran : inlineEach (config.inliner files host) (importsOf items) before = (.error failure, after)) :
    ∃ passed decl later fault, stylesheetImports items = passed ++ decl :: later ∧
      (∀ earlier ∈ passed, ∃ exports, lookUp config files host earlier = .ok exports) ∧
      lookUp config files host decl = .error fault ∧
      failure = ⟨decl.span, decl.source, fault⟩ := by
  obtain ⟨passed, decl, later, found, reached, fault, split, went, stopped, same⟩ :=
    inline_each_failed ran
  obtain ⟨binding, binds⟩ := stylesheet_of_fault stopped
  refine ⟨_, decl, later.filter (fun decl => (binding? decl).isSome), fault, ?_, each_answered went,
    unanswered_of_stopped stopped, same⟩
  simp [stylesheetImports, split, binds]

/-- Runs over one module come to the same, events included, if for each stylesheet that it imports the supplies
have the same. -/
theorem program_supplied_alike {first second : Config} {raw otherRaw : String} {here there : FileReader}
    {host other : Host} {items : List Item} (accepted : Config.parse raw = .ok first)
    (acceptedToo : Config.parse otherRaw = .ok second) (file : host.file? = other.file?)
    (root : (first.rootFor host).isSome = (second.rootFor other).isSome)
    (supplied : ∀ file decl, host.file? = some file → decl ∈ stylesheetImports items →
      first.supply.exportsOf here (file.resolve decl.source) =
        second.supply.exportsOf there (file.resolve decl.source)) :
    inlineProgram here raw host (.module items) = inlineProgram there otherRaw other (.module items) := by
  have alike (journal : Journal Unit) : (first.inliner here host).inlineAll items journal =
      (second.inliner there other).inlineAll items journal := by
    refine inline_all_congr (fun decl member reached => ?_) journal
    refine inline_supplied_alike file root (fun binding importer binds known => ?_) reached
    exact supplied importer decl known (List.mem_filter.mpr ⟨member, by simp [binds]⟩)
  simp only [inlineProgram, accepted, acceptedToo, Inliner.visit, Tally.fresh, alike]

/-- With a file name and a root, nothing but the lack of a stylesheet's exports is reported. -/
theorem quiet_of_supplied {config : Config} {raw : String} {files : FileReader} {host : Host} {items : List Item}
    (accepted : Config.parse raw = .ok config) (named : host.file?.isSome) (rooted : (config.rootFor host).isSome)
    (supplied : ∀ file decl, host.file? = some file → decl ∈ stylesheetImports items →
      ∃ exports, config.supply.exportsOf files (file.resolve decl.source) = .ok exports) :
    (inlineProgram files raw host (.module items)).diagnostic = none := by
  obtain ⟨file, known⟩ := Option.isSome_iff_exists.mp named
  obtain ⟨root, there⟩ := Option.isSome_iff_exists.mp rooted
  rcases ran : (config.inliner files host).inlineAll items ⟨(), []⟩ with ⟨failure | count, placed, after⟩
  · -- The first import that fails would lack the exports that are supplied for it.
    obtain ⟨rfl, looked⟩ := inline_all_failed ran
    obtain ⟨passed, decl, later, fault, split, -, stopped, -⟩ := first_unanswered looked
    obtain ⟨exports, held⟩ := supplied file decl known (by rw [split]; simp)
    simp only [lookUp, known, there, held] at stopped
    cases stopped
  · simp only [inlineProgram, accepted, Inliner.visit, Tally.fresh, ran, Option.map_none]

/-- How a run ended shows in the configuration, the kind of program and whether there is a diagnostic, so no
run ends in two ways. -/
theorem ending_shown {files : FileReader} {raw : String} {host : Host} {program : Program}
    {outcome : Outcome} {ending : Ending} (ended : EndsIn files raw host program outcome ending) :
    ending = shown (Config.parse raw) program outcome.diagnostic := by
  cases ending with
  | refused =>
    obtain ⟨report, rejected, _⟩ := ended
    rw [rejected, shown]
  | script =>
    obtain ⟨config, body, accepted, rfl, _⟩ := ended
    rw [accepted, shown]
  | inlined =>
    obtain ⟨config, items, placed, accepted, rfl, _, _, silent, _⟩ := ended
    rw [accepted, silent, shown]
  | failed =>
    obtain ⟨config, items, passed, decl, later, fault, text, accepted, rfl, _, _, _, _, _, said⟩ := ended
    rw [accepted, said, shown]

/-- With an accepted configuration a module ends up inlined or failed, as its imports have it. -/
theorem module_ends {raw : String} {config : Config} (accepted : Config.parse raw = .ok config)
    (files : FileReader) (host : Host) (items : List Item) :
    ∃ ending, EndsIn files raw host (.module items) (inlineProgram files raw host (.module items)) ending := by
  rcases ran : (config.inliner files host : Inliner Unit LookupFault).inlineAll items ⟨(), []⟩ with
    ⟨failure | count, placed, after⟩
  · obtain ⟨rfl, looked⟩ := inline_all_failed ran
    obtain ⟨passed, decl, later, fault, split, answered, stopped, rfl⟩ := first_unanswered looked
    have words : Words fault (fault.message LookupFault.message) := words_iff.mpr rfl
    refine ⟨.failed, config, placed, passed, decl, later, fault, _, accepted, rfl, split, answered, stopped, words, ?_⟩
    simp [inlineProgram, accepted, Inliner.visit, Tally.fresh, ran, Failure.diagnostic]
  · obtain ⟨found, reached, looked, _, _, inlined⟩ := inline_all_succeeded ran
    have declared := inlined_imp inlined fun _ _ _ binds gives => declares_of_gives binds gives
    refine ⟨.inlined, config, items, placed, accepted, rfl, each_answered looked, ?_, ?_, declared,
      none_left declared⟩ <;>
      simp [inlineProgram, accepted, Inliner.visit, Tally.fresh, ran]

/-- No configuration, program or file leaves a run without an ending. -/
theorem every_run_ends (files : FileReader) (raw : String) (host : Host) (program : Program) :
    ∃ ending, EndsIn files raw host program (inlineProgram files raw host program) ending := by
  cases parsed : Config.parse raw with
  | error report =>
    have refused : inlineProgram files raw host program =
        ⟨program, some ⟨.nowhere, Config.refusal report⟩, [.refused (Config.refusal report)]⟩ := by
      simp only [inlineProgram, parsed]
    refine ⟨.refused, report, parsed, ?_, ?_⟩
    · rw [refused]
    · rw [refused]
      rfl
  | ok config =>
    cases program with
    | script body =>
      refine ⟨.script, config, body, parsed, rfl, ?_⟩
      simp [inlineProgram, parsed, Inliner.visit, Tally.fresh]
    | module items => exact module_ends parsed files host items

/-- Only the ending without a diagnostic changes a program. -/
theorem unchanged_of_diagnostic {files : FileReader} {raw : String} {host : Host} {program : Program}
    {outcome : Outcome} {ending : Ending} (ended : EndsIn files raw host program outcome ending) :
    outcome.diagnostic = none ∨ outcome.program = program := by
  cases ending with
  | refused =>
    obtain ⟨_, _, same, _⟩ := ended
    exact Or.inr same
  | script =>
    obtain ⟨_, _, _, _, same, _⟩ := ended
    exact Or.inr same
  | inlined =>
    obtain ⟨_, _, _, _, _, _, _, silent, _⟩ := ended
    exact Or.inl silent
  | failed =>
    obtain ⟨_, _, _, _, _, _, _, _, _, _, _, _, _, same, _⟩ := ended
    exact Or.inr same

/-- Every run of the whole job ends in exactly one of the four ways, whatever the program, the text of the
configuration, the host and the files are; and with a diagnostic the program comes back as it was. -/
theorem one_ending (files : FileReader) (raw : String) (host : Host) (program : Program) :
    (∃! ending, EndsIn files raw host program (inlineProgram files raw host program) ending) ∧
      ((inlineProgram files raw host program).diagnostic = none ∨
        (inlineProgram files raw host program).program = program) := by
  obtain ⟨ending, ended⟩ := every_run_ends files raw host program
  have only : ∀ other, EndsIn files raw host program (inlineProgram files raw host program) other →
      other = ending := by
    intro other otherEnded
    have shownOther := ending_shown otherEnded
    have shownHere := ending_shown ended
    rw [shownOther, shownHere]
  exact ⟨⟨ending, ended, only⟩, unchanged_of_diagnostic ended⟩

end StyleInline.Outcomes
