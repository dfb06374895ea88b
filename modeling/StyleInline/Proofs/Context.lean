import StyleInline.Proofs.ConfigText
import StyleInline.Proofs.Outcomes
import StyleInline.Proofs.SecondRun

/-! What a run has to be told besides the program and where exports come from: which file it is for, and a root. Each
is missed at an import of a stylesheet only, before anything is looked up, and the file before the root. The root is
handed on and no more, so beyond being there it has no part in what a run comes to. -/
namespace StyleInline.Context
open DocumentOrder Requests Outcomes
open Grammar ConfigText
open SecondRun (place_without_supply dotted cardImport)

variable {σ ε : Type}

/-! ### Something is missing -/

/-- The host does not say which file it compiles. -/
def Unnamed (name : Option String) : Prop :=
  name = none ∨ name = some "" ∨ name = some "unknown"

/-- The host does not say which directory it works in. -/
def Unplaced (workdir : Option String) : Prop :=
  workdir = none ∨ workdir = some ""

theorem file_unknown_iff (name workdir : Option String) :
    (Host.ofContext name workdir).file? = none ↔ Unnamed name := by
  cases name with
  | none => simp [Host.ofContext, Unnamed]
  | some text => simp [Host.ofContext, Unnamed, or_iff_not_imp_left]

theorem workdir_unknown_iff (name workdir : Option String) :
    (Host.ofContext name workdir).workdir? = none ↔ Unplaced workdir := by
  cases workdir with
  | none => simp [Host.ofContext, Unplaced]
  | some text => simp [Host.ofContext, Unplaced]

theorem root_unknown_iff (config : Config) (name workdir : Option String) :
    config.rootFor (.ofContext name workdir) = none ↔ config.root? = none ∧ Unplaced workdir := by
  rw [Config.rootFor, Option.or_eq_none_iff, workdir_unknown_iff]

/-- The first import of a stylesheet in the text of a program. A script has none. -/
def firstStylesheet? : Program → Option Import
  | .module items => (stylesheetImports items).head?
  | .script _ => none

/-- Nothing is looked up in a visit of the program: a list of what the provider is asked stays as it was. -/
def Unasked (inliner : Inliner σ ε) (program : Program) (memory : σ) : Prop :=
  ∀ calls, ((recorded inliner).visit program .fresh ⟨(memory, calls), []⟩).2.2.memory = (memory, calls)

/-- With this fault the run stops at the first import of a stylesheet, before anything is looked up. Without such
an import nothing is wrong. -/
structure StopsAtFirst (config : Config) (files : FileReader) (raw : String) (host : Host) (program : Program)
    (fault : ImportFault LookupFault) : Prop where
  kept : (inlineProgram files raw host program).program = program
  said : (inlineProgram files raw host program).diagnostic =
    (firstStylesheet? program).map fun decl => ⟨decl.span, fault.message LookupFault.message⟩
  unasked : Unasked (config.inliner files host) program ()

/-- Where every request fails in the same way, imports come to the first of stylesheets and no further. -/
theorem each_unknown {inliner : Inliner σ ε} {fault : ImportFault ε}
    (unknown : ∀ source, inliner.request source = .error fault) (imports : List Import) (journal : Journal σ) :
    ∃ events, inlineEach inliner imports journal =
      (match (imports.filter fun decl => (binding? decl).isSome).head? with
        | none => .ok []
        | some decl => .error ⟨decl.span, decl.source, fault⟩, ⟨journal.memory, events⟩) := by
  induction imports generalizing journal with
  | nil => exact ⟨journal.events, rfl⟩
  | cons decl rest ih =>
    cases binds : binding? decl with
    | none =>
      obtain ⟨events, behind⟩ := ih ⟨journal.memory, journal.events ++ remarks decl⟩
      refine ⟨events, ?_⟩
      rw [inline_each_other binds, behind]
      simp [binds]
    | some binding =>
      refine ⟨journal.events, ?_⟩
      simp only [inlineEach, inline_stylesheet binds, unknown]
      simp [binds]

/-- A visit where every request fails in the same way. -/
theorem visit_unknown {inliner : Inliner σ ε} {fault : ImportFault ε}
    (unknown : ∀ source, inliner.request source = .error fault) (program : Program) (journal : Journal σ) :
    ∃ events, inliner.visit program .fresh journal =
      (program, ⟨0, (firstStylesheet? program).map fun decl => ⟨decl.span, decl.source, fault⟩⟩,
        ⟨journal.memory, events⟩) := by
  cases program with
  | script body => exact ⟨journal.events, rfl⟩
  | module items =>
    obtain ⟨events, looked⟩ := each_unknown unknown (importsOf items) journal
    rw [← plan_in_document_order] at looked
    simp only [firstStylesheet?, stylesheetImports]
    cases first : ((importsOf items).filter fun decl => (binding? decl).isSome).head? with
    | none =>
      rw [first] at looked
      refine ⟨events ++ walkRemarks items, ?_⟩
      simp [Inliner.visit, Tally.fresh, Inliner.inlineAll, looked, place_without_supply]
    | some decl =>
      rw [first] at looked
      refine ⟨events, ?_⟩
      simp [Inliner.visit, Tally.fresh, Inliner.inlineAll, looked]

theorem stops_at_first {raw : String} {config : Config} (accepted : Config.parse raw = .ok config)
    (files : FileReader) (host : Host) {fault : ImportFault LookupFault}
    (unknown : ∀ source, (config.inliner files host : Inliner Unit LookupFault).request source = .error fault)
    (program : Program) : StopsAtFirst config files raw host program fault := by
  obtain ⟨events, visited⟩ := visit_unknown unknown program ⟨(), []⟩
  refine ⟨?_, ?_, fun calls => ?_⟩
  · simp only [inlineProgram, accepted, visited]
  · simp only [inlineProgram, accepted, visited, Option.map_map]
    rfl
  · have unknownToo : ∀ source, (recorded (config.inliner files host : Inliner Unit LookupFault)).request source =
        .error fault := unknown
    obtain ⟨events, visited⟩ := visit_unknown unknownToo program ⟨((), calls), []⟩
    rw [visited]

/-- The letter by which what is said of exports that cannot be had differs from what is said of anything missing. -/
theorem ninth_letter (fault : LookupFault) :
    fault.message.toList[8]? = some 'm' ∨ fault.message.toList[8]? = some 'o' ∨
      fault.message.toList[8]? = some 'C' := by
  cases fault <;> dsimp only [LookupFault.message] <;> simp [String.toList_append]

theorem lookup_message_differs (fault : LookupFault) (words : LookupFault → String) :
    fault.message ≠ ImportFault.fileUnknown.message words ∧
      fault.message ≠ ImportFault.rootUnknown.message words := by
  have letter := ninth_letter fault
  constructor <;> intro same <;> rw [same] at letter <;> dsimp only [ImportFault.message] at letter <;>
    simp at letter

/-- With a file name and a root, what is said is about exports that cannot be had. -/
theorem nothing_missing {raw : String} {config : Config} (accepted : Config.parse raw = .ok config)
    {files : FileReader} {host : Host} {program : Program} (named : host.file? ≠ none)
    (rooted : config.rootFor host ≠ none) {diagnostic : Diagnostic}
    (said : (inlineProgram files raw host program).diagnostic = some diagnostic) :
    ∃ fault : LookupFault, diagnostic.message = fault.message := by
  obtain ⟨ending, ended⟩ := every_run_ends files raw host program
  cases ending with
  | refused =>
    obtain ⟨report, rejected, -⟩ := ended
    rw [accepted] at rejected
    cases rejected
  | script =>
    obtain ⟨-, -, -, -, -, silent⟩ := ended
    rw [silent] at said
    cases said
  | inlined =>
    obtain ⟨-, -, -, -, -, -, -, silent, -⟩ := ended
    rw [silent] at said
    cases said
  | failed =>
    obtain ⟨found, items, passed, decl, later, fault, text, parsed, -, -, -, stopped, words, -, told⟩ := ended
    cases accepted.symm.trans parsed
    rw [told] at said
    cases said
    obtain ⟨file, here⟩ := Option.ne_none_iff_exists'.mp named
    obtain ⟨root, there⟩ := Option.ne_none_iff_exists'.mp rooted
    simp only [lookUp, here, there] at stopped
    cases answer : config.supply.exportsOf files (file.resolve decl.source) with
    | ok exports => simp [answer, Except.mapError] at stopped
    | error reason =>
      simp only [answer, Except.mapError, Except.error.injEq] at stopped
      exact ⟨reason, by rw [words_iff.mp words, ← stopped, ImportFault.message]⟩

/-- When a file name or a root is missed. Without a file name a run stops at the first import of a stylesheet in the
text, whatever root and exports there are; with one, but without a root, it stops there for that; and with both,
neither is ever reported. So a host that passes nothing gets every program back as it was, with one error for a module
that imports a stylesheet and none for any other program. -/
theorem missed_at_first_import {raw : String} {config : Config} (accepted : Config.parse raw = .ok config)
    (files : FileReader) (name workdir : Option String) (program : Program) :
    (Unnamed name → StopsAtFirst config files raw (.ofContext name workdir) program .fileUnknown) ∧
      (¬ Unnamed name → config.root? = none → Unplaced workdir →
        StopsAtFirst config files raw (.ofContext name workdir) program .rootUnknown) ∧
      (¬ Unnamed name → config.root? ≠ none ∨ ¬ Unplaced workdir →
        ∀ diagnostic, (inlineProgram files raw (.ofContext name workdir) program).diagnostic = some diagnostic →
          diagnostic.message ≠ ImportFault.fileUnknown.message LookupFault.message ∧
            diagnostic.message ≠ ImportFault.rootUnknown.message LookupFault.message) ∧
      (inlineUnhosted files program).program = program ∧
        (inlineUnhosted files program).diagnostic = (firstStylesheet? program).map fun decl =>
          ⟨decl.span, ImportFault.fileUnknown.message LookupFault.message⟩ := by
  refine ⟨fun unnamed => ?_, fun named unrooted unplaced => ?_, fun named rooted diagnostic said => ?_, ?_⟩
  · refine stops_at_first accepted files _ (fun source => ?_) program
    simp only [Inliner.request, Config.inliner, (file_unknown_iff name workdir).mpr unnamed]
  · refine stops_at_first accepted files _ (fun source => ?_) program
    obtain ⟨file, known⟩ := Option.ne_none_iff_exists'.mp (mt (file_unknown_iff name workdir).mp named)
    have missing := (root_unknown_iff config name workdir).mpr ⟨unrooted, unplaced⟩
    simp only [Inliner.request, Config.inliner, known, missing]
  · have there : config.rootFor (.ofContext name workdir) ≠ none := by
      rw [ne_eq, root_unknown_iff, not_and_or]
      exact rooted
    obtain ⟨fault, same⟩ := nothing_missing accepted (mt (file_unknown_iff name workdir).mp named) there said
    rw [same]
    exact lookup_message_differs fault LookupFault.message
  · have blank : Config.parse "" = .ok .standard := rfl
    have unknown (source : String) : (Config.standard.inliner files .silent : Inliner Unit LookupFault).request source =
        .error .fileUnknown := rfl
    have stops := stops_at_first blank files .silent unknown program
    exact ⟨stops.kept, stops.said⟩

theorem file_missed_before_root :
    Config.parse "" = .ok .standard ∧
      StopsAtFirst .standard (fun _ => .error .notFound) "" (.ofContext (some "unknown") (some "/app"))
        (.module (dotted cardImport)) .fileUnknown ∧
      StopsAtFirst .standard (fun _ => .error .notFound) "" (.ofContext (some "/app/Card.tsx") (some ""))
        (.module (dotted cardImport)) .rootUnknown ∧
      (inlineProgram (fun _ => .error .notFound) "" (.ofContext (some "/app/Card.tsx") (some "/app"))
        (.module (dotted cardImport))).diagnostic =
          some ⟨.between 40 80, "failed to read CSS module exports from /app/Card.module.css.json"⟩ ∧
      "failed to read CSS module exports from /app/Card.module.css.json" ≠
        ImportFault.rootUnknown.message LookupFault.message := by
  have blank : Config.parse "" = .ok .standard := rfl
  have missed (name workdir : Option String) := missed_at_first_import blank (fun _ => .error .notFound) name workdir
    (.module (dotted cardImport))
  have named : ¬ Unnamed (some "/app/Card.tsx") := by simp [Unnamed]
  have said : (inlineProgram (fun _ => .error .notFound) "" (.ofContext (some "/app/Card.tsx") (some "/app"))
      (.module (dotted cardImport))).diagnostic =
        some ⟨.between 40 80, "failed to read CSS module exports from /app/Card.module.css.json"⟩ := rfl
  refine ⟨blank, (missed _ _).1 (by simp [Unnamed]), (missed _ _).2.1 named rfl (by simp [Unplaced]), said, ?_⟩
  exact ((missed _ _).2.2.1 named (.inr (by simp [Unplaced])) _ said).2

/-! ### Which root there is -/

/-- Beyond being there the root has no part in what a run comes to. Two runs over one program, for one file and with
exports from one supply, end with the same program, diagnostic and events, if there is a root for both or for neither:
no matter which, and whether it is configured or the directory the host works in. -/
theorem root_goes_unseen {raw other : String} {config again : Config} (accepted : Config.parse raw = .ok config)
    (acceptedToo : Config.parse other = .ok again) (supply : config.supply = again.supply) (files : FileReader)
    {host elsewhere : Host} (file : host.file? = elsewhere.file?)
    (root : (config.rootFor host).isSome = (again.rootFor elsewhere).isSome) (program : Program) :
    inlineProgram files raw host program = inlineProgram files other elsewhere program := by
  cases program with
  | script body => simp only [inlineProgram, accepted, acceptedToo, Inliner.visit]
  | module items =>
    refine program_supplied_alike accepted acceptedToo file root fun importer decl known member => ?_
    rw [supply]

def rootText : String :=
  "\x7b\"absoluteRootDirPath\":\"/srv\"\x7d"

theorem configured_root_or_workdir :
    Config.parse "" = .ok .standard ∧ Config.parse rootText = .ok ⟨some ⟨"/srv"⟩, .sidecar⟩ ∧
      inlineProgram (fun _ => .error .notFound) "" ((Host.forFile ⟨"Card.tsx"⟩).withWorkdir ⟨"/app"⟩)
          (.module (dotted cardImport)) =
        inlineProgram (fun _ => .error .notFound) rootText (.forFile ⟨"Card.tsx"⟩) (.module (dotted cardImport)) := by
  have blank : Config.parse "" = .ok .standard := rfl
  have spelled := spells_single "absoluteRootDirPath" (by simp) (.string (string_text_plain "/srv" (by simp)))
  have rooted : Config.parse rootText = .ok ⟨some ⟨"/srv"⟩, .sidecar⟩ :=
    parse_described (.inr ⟨_, means_of_spells spelled, .named (by simp) (by simp) (.path _) rfl⟩)
  exact ⟨blank, rooted, root_goes_unseen blank rooted rfl _ (by rfl) (by rfl) _⟩

end StyleInline.Context
