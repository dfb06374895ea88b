import StyleInline.Path.Basic

/-!
What a run tells of its course, for whoever follows it.
-/
namespace StyleInline

inductive Level where
  | trace
  | debug
  | warn
deriving DecidableEq, Repr

inductive Event where
  /-- An import has the form of one that could be inlined, but not such a source. -/
  | skipped (source : String)
  /-- Exports were found for an import. -/
  | inlined (binding : String) (stylesheet : Path) (selectors : Nat)
  /-- The configuration was refused. -/
  | refused (refusal : String)
deriving Repr

namespace Event

def level : Event → Level
  | skipped _ => .trace
  | inlined .. => .debug
  | refused _ => .warn

def message : Event → String
  | skipped _ => "import is not a CSS module, skipping"
  | inlined .. => "inlining CSS module import"
  | refused _ => "ignoring css module imports: bad plugin config"

end Event

/-- What a run leaves behind beside its result: the provider's memory and the events so far. -/
structure Journal (σ : Type) where
  memory : σ
  events : List Event

end StyleInline
