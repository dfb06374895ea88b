import StyleInline.Syntax.Basic

/-!
Places among nested items. Only module blocks are gone into, as by the inlining itself, so what stands inside
of a block of statements has no place of its own.
-/
namespace StyleInline

/-- The number of an item, or the number of a module block and a place in it. -/
abbrev Place := List Nat

/-- A number by itself is the place of an item at the top. -/
scoped instance : Coe Nat Place := ⟨fun n => [n]⟩

/-- An item by itself: of a module block its header and its names, but none of the items in it. -/
def Item.withoutItems : Item → Item
  | .moduleBlock header names _ => .moduleBlock header names []
  | item => item

/-- An item that is no module block is all that stands at its place. -/
theorem eq_of_without_items {item other : Item} (single : ∀ header names, item ≠ .moduleBlock header names [])
    (same : item = other.withoutItems) : item = other := by
  cases other with
  | moduleBlock header names items => exact absurd same (single header names)
  | _ => exact same

/-- What stands at a place. -/
def standing : Place → List Item → Option Item
  | [], _ => none
  | [n], items => items[n]?.map Item.withoutItems
  | n :: place, items =>
    match items[n]? with
    | some (.moduleBlock _ _ inside) => standing place inside
    | _ => none

theorem standing_at_top (n : Nat) (items : List Item) : standing n items = items[n]?.map Item.withoutItems := rfl

theorem standing_nil (place : Place) : standing place [] = none := by
  cases place with
  | nil => rfl
  | cons n place => cases place <;> simp [standing]

theorem standing_behind (n : Nat) (place : Place) (item : Item) (rest : List Item) :
    standing ((n + 1) :: place) (item :: rest) = standing (n :: place) rest := by
  cases place <;> simp [standing]

theorem standing_inside (n : Nat) (place : Place) (header : ModuleHeader) (names : List String)
    (items rest : List Item) :
    standing (0 :: n :: place) (.moduleBlock header names items :: rest) = standing (n :: place) items := by
  simp [standing]

end StyleInline
