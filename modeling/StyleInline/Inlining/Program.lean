import StyleInline.Config.Json
import StyleInline.Inlining.Tally
import StyleInline.Lookup.Supply

/-!
The whole job for one file: from the text of the configuration and what the host says to the program with
its imports inlined. When anything fails the program comes back as it was, with one diagnostic.
-/
namespace StyleInline

/-- An error to report against the file. -/
structure Diagnostic where
  span : Span
  message : String
deriving DecidableEq, Repr

/-- The program afterwards, the error if there is one, and what happened. -/
structure Outcome where
  program : Program
  diagnostic : Option Diagnostic
  events : List Event

/-- The inliner that a configuration asks for. -/
def Config.inliner {σ : Type} (config : Config) (files : FileReader) (host : Host) :
    Inliner σ LookupFault :=
  ⟨config.rootFor host, host, config.supply.provider files⟩

/-- A failure as a diagnostic at its import. -/
def Failure.diagnostic (failure : Failure LookupFault) : Diagnostic :=
  ⟨failure.span, failure.fault.message LookupFault.message⟩

/-- Inlines the stylesheet imports of a program. The configuration is read for scripts too. -/
def inlineProgram (files : FileReader) (raw : String) (host : Host) (program : Program) : Outcome :=
  match Config.parse raw with
  | .error report =>
    let refusal := Config.refusal report
    ⟨program, some ⟨.nowhere, refusal⟩, [.refused refusal]⟩
  | .ok config =>
    let (program, tally, journal) := (config.inliner files host).visit program .fresh ⟨(), []⟩
    ⟨program, tally.failure.map Failure.diagnostic, journal.events⟩

/-- What a host gets that passes neither a configuration nor a context. -/
def inlineUnhosted (files : FileReader) (program : Program) : Outcome :=
  inlineProgram files "" .silent program

end StyleInline
