import StyleInline.Proofs.Requests
import StyleInline.Proofs.Traversal

/-! A module that has been inlined into is at rest. No import of a stylesheet is left in it at any depth,
and without one a run has no use for a file, a root or a provider: whoever runs over it next changes
nothing, counts nothing, asks nothing and cannot fail. -/
namespace StyleInline.SecondRun
open DocumentOrder Traversal Requests

variable {σ ε τ δ : Type}

/-- No import is left that a run would have to look up. -/
def Settled (items : List Item) : Prop :=
  stylesheetImports items = []

/-- Without supply a walk that places declarations leaves every item alone. -/
theorem place_without_supply (items : List Item) (events : List Event) :
    placeAll items [] events = (items, [], events ++ walkRemarks items) := by
  induction items using items_induction generalizing events with
  | nil => simp [placeAll, walkRemarks, importsOf]
  | importDecl decl rest ih =>
    simp [placeAll, Item.place, recognise_eq, ih, walkRemarks, importsOf, Item.imports]
  | moduleBlock header inner items rest inside ih =>
    simp [placeAll, Item.place, inside, ih, walkRemarks, importsOf, Item.imports]
  | plain item rest plain ih =>
    rw [place_plain plain, ih]
    simp [walkRemarks, importsOf, imports_of_plain plain]

/-- Imports that are none of stylesheets are passed over one and all. -/
theorem each_passed_over {imports : List Import} (others : ∀ decl ∈ imports, binding? decl = none)
    (inliner : Inliner σ ε) (journal : Journal σ) :
    inlineEach inliner imports journal =
      (.ok [], ⟨journal.memory, journal.events ++ imports.flatMap remarks⟩) := by
  induction imports generalizing journal with
  | nil => simp [inlineEach]
  | cons decl rest ih =>
    have other : binding? decl = none := others decl (by simp)
    rw [inline_each_other other, ih (fun later member => others later (List.mem_cons_of_mem _ member))]
    simp

/-- Whatever it is run with, a settled module stays as it is. -/
theorem settled_at_rest {items : List Item} (settled : Settled items) (inliner : Inliner σ ε)
    (memory : σ) (events : List Event) :
    inliner.inlineAll items ⟨memory, events⟩ =
      (.ok 0, items, ⟨memory, events ++ walkRemarks items ++ walkRemarks items⟩) := by
  have others : ∀ decl ∈ importsOf items, binding? decl = none := by
    intro decl member
    have passed := List.filter_eq_nil_iff.mp settled decl member
    simpa using passed
  have planned : inliner.plan items ⟨memory, events⟩ =
      (.ok [], ⟨memory, events ++ walkRemarks items⟩) := by
    rw [plan_in_document_order, each_passed_over others]
    rfl
  simp [Inliner.inlineAll, planned, place_without_supply]

/-- After a run that succeeded, any other run over what it left finds nothing to do, even without a file, a
root or a provider that ever answers. It inlines nothing, leaves the items as they are, and neither its
provider's memory nor the list of what that was asked changes. -/
theorem second_run_changes_nothing {first : Inliner σ ε} {items placed : List Item} {count : Nat}
    {before after : Journal σ} (ran : first.inlineAll items before = (.ok count, placed, after))
    (second : Inliner τ δ) (memory : τ) (calls : List Request) (events : List Event) :
    second.inlineAll placed ⟨memory, events⟩ =
        (.ok 0, placed, ⟨memory, events ++ walkRemarks placed ++ walkRemarks placed⟩) ∧
      (recorded second).inlineAll placed ⟨(memory, calls), events⟩ =
        (.ok 0, placed, ⟨(memory, calls), events ++ walkRemarks placed ++ walkRemarks placed⟩) := by
  obtain ⟨_, _, _, _, _, inlined⟩ := inline_all_succeeded ran
  have settled : Settled placed := none_left inlined
  exact ⟨settled_at_rest settled second memory events,
    settled_at_rest settled (recorded second) (memory, calls) events⟩

/-- A dotted block that holds an import of no stylesheet and one item more. -/
def dotted (item : Item) : List Item :=
  [.moduleBlock ⟨.ident "Widgets", true, false, true, true, .between 0 90⟩ ["Parts"]
    [.importDecl ⟨"react", [.byDefault ⟨"React", .between 20 25, 1, false⟩], false, .evaluation, none,
      .between 13 38⟩, item]]

def cardImport : Item :=
  .importDecl ⟨"./Card.module.css", [.byDefault ⟨"styles", .between 47 53, 2, false⟩], false, .evaluation,
    none, .between 40 80⟩

def cardConstant : Item :=
  .varDecl false (.ofExports ⟨"styles", .between 47 53, 2, false⟩ (.ofList [("card", "x1_card")]))

/-- An inliner whose provider has something for every stylesheet and counts how often it is asked. -/
def counting : Inliner Nat Unit where
  root? := some ⟨"/app"⟩
  host := .forFile ⟨"/app/Card.tsx"⟩
  provider := ⟨fun _ count => (.ok (.ofList [("card", "x1_card")]), count + 1)⟩

/-- An inliner that knows no file and no root, and whose provider refuses everything. -/
def helpless : Inliner Unit Unit where
  root? := none
  host := .silent
  provider := .stateless fun _ => .error ()

theorem nothing_left_in_dotted_block :
    counting.inlineAll (dotted cardImport) ⟨0, []⟩ = (.ok 1, dotted cardConstant,
      ⟨1, [.skipped "react", .inlined "styles" ⟨"/app/Card.module.css"⟩ 1, .skipped "react"]⟩) ∧
    helpless.inlineAll (dotted cardConstant) ⟨(), []⟩ =
      (.ok 0, dotted cardConstant, ⟨(), [.skipped "react", .skipped "react"]⟩) := by
  have ran : counting.inlineAll (dotted cardImport) ⟨0, []⟩ = (.ok 1, dotted cardConstant,
      ⟨1, [.skipped "react", .inlined "styles" ⟨"/app/Card.module.css"⟩ 1, .skipped "react"]⟩) := rfl
  exact ⟨ran, (second_run_changes_nothing ran helpless () [] []).1⟩

end StyleInline.SecondRun
