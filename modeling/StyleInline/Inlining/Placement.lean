import StyleInline.Inlining.Declaration
import StyleInline.Inlining.Recognition

/-!
Putting declarations in the place of imports. The items are walked from first to last and into module blocks,
and each import of a stylesheet takes the next declaration. What is left when the declarations run out
stays as it was, and declarations that no import takes are given back.
-/
namespace StyleInline

mutual

/-- Puts declarations into an item; what was not used comes back. -/
def Item.place : Item → List VarDecl → List Event → Item × List VarDecl × List Event
  | .importDecl decl, supply, events =>
    match decl.recognise events, supply with
    | (some _, events), next :: rest => (.varDecl false next, rest, events)
    | (_, events), supply => (.importDecl decl, supply, events)
  | .moduleBlock header inner items, supply, events =>
    let (items, supply, events) := placeAll items supply events
    (.moduleBlock header inner items, supply, events)
  | item, supply, events => (item, supply, events)

/-- Puts declarations into items, one item after another. -/
def placeAll : List Item → List VarDecl → List Event → List Item × List VarDecl × List Event
  | [], supply, events => ([], supply, events)
  | item :: rest, supply, events =>
    let (item, supply, events) := item.place supply events
    let (rest, supply, events) := placeAll rest supply events
    (item :: rest, supply, events)

end

end StyleInline
