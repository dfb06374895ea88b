import StyleInline.Inlining.Inliner

/-!
Inlining into one program after another. The tally counts what was inlined and keeps the first failure; from
then on nothing is looked up or changed any more.
-/
namespace StyleInline

/-- What has come of the programs visited so far. -/
structure Tally (ε : Type) where
  inlined : Nat
  failure : Option (Failure ε)
deriving Repr

namespace Tally

variable {ε : Type}

/-- Nothing has been visited. -/
def fresh : Tally ε := ⟨0, none⟩

instance : Inhabited (Tally ε) := ⟨fresh⟩

/-- The number of imports inlined, unless something failed. -/
def result (tally : Tally ε) : Except (Failure ε) Nat :=
  match tally.failure with
  | some failure => .error failure
  | none => .ok tally.inlined

end Tally

/-- Visits a program: inlines into a module and leaves a script alone. -/
def Inliner.visit {σ ε : Type} (inliner : Inliner σ ε) (program : Program) (tally : Tally ε)
    (journal : Journal σ) : Program × Tally ε × Journal σ :=
  match program, tally.failure with
  | .module items, none =>
    match inliner.inlineAll items journal with
    | (.ok count, items, journal) =>
      (.module items, { tally with inlined := tally.inlined + count }, journal)
    | (.error failure, items, journal) =>
      (.module items, { tally with failure := some failure }, journal)
  | _, _ => (program, tally, journal)

end StyleInline
