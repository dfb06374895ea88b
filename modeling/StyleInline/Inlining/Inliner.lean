import StyleInline.Inlining.Event
import StyleInline.Inlining.Fault
import StyleInline.Inlining.Placement
import StyleInline.Lookup.Provider
import StyleInline.Path.Resolve

/-!
Inlining into a module. All imports are looked up first, in the order of the text, and only when every one has
its declaration are the declarations put in place. So a module is changed as a whole or not at all, and
a failure is that of the first import that has one.
-/
namespace StyleInline

/-- What imports are inlined with: the root directory if there is one, what the host says, and where
exports come from. -/
structure Inliner (σ ε : Type) where
  root? : Option Path
  host : Host
  provider : Provider σ ε

namespace Inliner

variable {σ ε : Type}

/-- What to ask for the exports of a source. The file has to be known, then the root. -/
def request (inliner : Inliner σ ε) (source : String) : Except (ImportFault ε) Request :=
  match inliner.host.file?, inliner.root? with
  | none, _ => .error .fileUnknown
  | some _, none => .error .rootUnknown
  | some file, some root => .ok ⟨root, inliner.host, file.resolve source⟩

/-- The declaration that an import becomes; none for an import that is not of a stylesheet. -/
def inline (inliner : Inliner σ ε) (decl : Import) (journal : Journal σ) :
    Except (ImportFault ε) (Option VarDecl) × Journal σ :=
  match decl.recognise journal.events with
  | (none, events) => (.ok none, { journal with events := events })
  | (some binding, events) =>
    match inliner.request decl.source with
    | .error fault => (.error fault, { journal with events := events })
    | .ok request =>
      match inliner.provider.answer request journal.memory with
      | (.error fault, memory) => (.error (.lookup fault), ⟨memory, events⟩)
      | (.ok exports, memory) =>
        (.ok (some (.ofExports binding exports)),
          ⟨memory, events ++ [.inlined binding.name request.stylesheet exports.size]⟩)

mutual

/-- The declarations for the imports of stylesheets in an item, or the first failure. -/
def planItem (inliner : Inliner σ ε) : Item → Journal σ →
    Except (Failure ε) (List VarDecl) × Journal σ
  | .importDecl decl, journal =>
    match inliner.inline decl journal with
    | (.error fault, journal) => (.error ⟨decl.span, decl.source, fault⟩, journal)
    | (.ok found, journal) => (.ok found.toList, journal)
  | .moduleBlock _ _ items, journal => inliner.plan items journal
  | _, journal => (.ok [], journal)

/-- The declarations for the imports of stylesheets in items, or the first failure, behind which nothing is
looked up. -/
def plan (inliner : Inliner σ ε) : List Item → Journal σ →
    Except (Failure ε) (List VarDecl) × Journal σ
  | [], journal => (.ok [], journal)
  | item :: rest, journal =>
    match inliner.planItem item journal with
    | (.error failure, journal) => (.error failure, journal)
    | (.ok found, journal) =>
      match inliner.plan rest journal with
      | (.error failure, journal) => (.error failure, journal)
      | (.ok others, journal) => (.ok (found ++ others), journal)

end

/-- Inlines every import of a stylesheet among the items. The answer is the number of those imports or the
first failure, and the items as they are afterwards. -/
def inlineAll (inliner : Inliner σ ε) (items : List Item) (journal : Journal σ) :
    Except (Failure ε) Nat × List Item × Journal σ :=
  match inliner.plan items journal with
  | (.error failure, journal) => (.error failure, items, journal)
  | (.ok found, journal) =>
    let (placed, _, events) := placeAll items found journal.events
    (.ok found.length, placed, { journal with events := events })

end Inliner
end StyleInline
