import StyleInline.Proofs.SecondRun
import StyleInline.Syntax.Place

/-! Placing with any supply of declarations, told place by place. A walk that runs out of declarations says nothing,
so a walk that took a wrong turn would go unnoticed; what each place must hold afterwards is therefore told without
a walk, by the number of imports of stylesheets that stand before it in the text. -/
namespace StyleInline.PlaceByPlace
open DocumentOrder
open SecondRun (counting dotted cardImport cardConstant)

/-! ### Places -/

/-- How many imports of stylesheets come before a place in the text. -/
def before : Place → List Item → Nat
  | [], _ => 0
  | n :: place, items =>
    (stylesheetImports (items.take n)).length +
      match items[n]? with
      | some (.moduleBlock _ _ inside) => before place inside
      | _ => 0

/-- What an item becomes where this is the next declaration, if there is one: an import of a stylesheet takes it,
and everything else stays as it is. -/
def taking (next? : Option VarDecl) : Item → Item
  | .importDecl decl =>
    match binding? decl, next? with
    | some _, some next => .varDecl false next
    | _, _ => .importDecl decl
  | item => item

/-- Items before and after they were handed a supply: at every place the item that stood there, or, for the import
of a stylesheet with a number below the size of the supply, the declaration with this number. -/
def Handed (supply : List VarDecl) (items placed : List Item) : Prop :=
  ∀ place, standing place placed = (standing place items).map (taking supply[before place items]?)

/-- Where an import of a stylesheet stands, the number of those before it is its number in the text. -/
def Numbered (items : List Item) : Prop :=
  ∀ place decl, standing place items = some (.importDecl decl) → (binding? decl).isSome →
    (stylesheetImports items)[before place items]? = some decl

theorem stylesheet_imports_cons (item : Item) (rest : List Item) :
    stylesheetImports (item :: rest) = stylesheetImports [item] ++ stylesheetImports rest := by
  simp [stylesheetImports, importsOf]

theorem stylesheet_imports_import (decl : Import) :
    stylesheetImports [.importDecl decl] = if (binding? decl).isSome then [decl] else [] := by
  simp [stylesheetImports, importsOf, Item.imports, List.filter_cons]

theorem stylesheet_imports_block (header : ModuleHeader) (names : List String) (items : List Item) :
    stylesheetImports [.moduleBlock header names items] = stylesheetImports items := by
  simp [stylesheetImports, importsOf, Item.imports]

theorem stylesheet_imports_plain {item : Item} (plain : Plain item) : stylesheetImports [item] = [] := by
  simp [stylesheetImports, importsOf, imports_of_plain plain]

theorem before_behind (n : Nat) (place : Place) (item : Item) (rest : List Item) :
    before ((n + 1) :: place) (item :: rest) =
      (stylesheetImports [item]).length + before (n :: place) rest := by
  simp only [before, List.take_succ_cons, List.getElem?_cons_succ]
  rw [stylesheet_imports_cons, List.length_append, Nat.add_assoc]

theorem before_inside (place : Place) (header : ModuleHeader) (names : List String) (items rest : List Item) :
    before (0 :: place) (.moduleBlock header names items :: rest) = before place items := by
  simp [before, stylesheetImports, importsOf]

theorem without_items_plain {item : Item} (plain : Plain item) : item.withoutItems = item := by
  cases item <;> first | rfl | exact plain.elim

theorem cons_of_standing {item : Item} {rest second : List Item}
    (same : ∀ place, standing place (item :: rest) = standing place second) :
    ∃ other others, second = other :: others ∧ item.withoutItems = other.withoutItems ∧
      ∀ place, standing place rest = standing place others := by
  cases second with
  | nil => simpa [standing_at_top] using same [0]
  | cons other others =>
    refine ⟨other, others, rfl, by simpa [standing_at_top] using same [0], fun place => ?_⟩
    cases place with
    | nil => rfl
    | cons n place => simpa only [standing_behind] using same ((n + 1) :: place)

/-- Items are told apart by what stands at their places. -/
theorem standing_ext {first second : List Item} (same : ∀ place, standing place first = standing place second) :
    first = second := by
  -- A block shows nothing of its items at its own place, so they are compared by the places in it.
  induction first using items_induction generalizing second with
  | nil =>
    cases second with
    | nil => rfl
    | cons other others => simpa [standing_at_top] using same [0]
  | importDecl decl rest ih =>
    obtain ⟨other, others, rfl, start, behind⟩ := cons_of_standing same
    have front : .importDecl decl = other := eq_of_without_items (fun _ _ => Item.noConfusion) start
    rw [← front, ih behind]
  | moduleBlock header names items rest inside ih =>
    obtain ⟨other, others, rfl, start, behind⟩ := cons_of_standing same
    cases other with
    | moduleBlock headerToo namesToo itemsToo =>
      simp only [Item.withoutItems, Item.moduleBlock.injEq] at start
      obtain ⟨rfl, rfl, -⟩ := start
      have within : items = itemsToo := inside fun place => by
        cases place with
        | nil => rfl
        | cons n place => simpa only [standing_inside] using same (0 :: n :: place)
      rw [within, ih behind]
    | _ => simp [Item.withoutItems] at start
  | plain item rest plain ih =>
    obtain ⟨other, others, rfl, start, behind⟩ := cons_of_standing same
    rw [without_items_plain plain] at start
    have single (header names) : item ≠ .moduleBlock header names [] := by
      rintro rfl
      exact plain
    rw [← eq_of_without_items single start, ih behind]

/-- The place of an item in front, and the places behind it, which all have the imports in it before them. -/
theorem numbered_cons {item : Item} {rest : List Item}
    (front : ∀ place decl, standing (0 :: place) (item :: rest) = some (.importDecl decl) → (binding? decl).isSome →
      (stylesheetImports (item :: rest))[before (0 :: place) (item :: rest)]? = some decl)
    (behind : Numbered rest) : Numbered (item :: rest) := by
  intro place decl stands stylesheet
  match place with
  | [] => simp [standing] at stands
  | 0 :: place => exact front place decl stands stylesheet
  | (n + 1) :: place =>
    rw [standing_behind] at stands
    rw [before_behind, stylesheet_imports_cons, List.getElem?_append_right (Nat.le_add_right _ _),
      Nat.add_sub_cancel_left, behind (n :: place) decl stands stylesheet]

theorem numbered (items : List Item) : Numbered items := by
  induction items using items_induction with
  | nil =>
    intro place decl stands
    simp [standing_nil] at stands
  | importDecl first rest ih =>
    refine numbered_cons (fun place decl stands stylesheet => ?_) ih
    cases place with
    | nil =>
      simp only [standing_at_top, List.getElem?_cons_zero, Option.map_some, Item.withoutItems, Option.some.injEq,
        Item.importDecl.injEq] at stands
      rw [stands, stylesheet_imports_cons, stylesheet_imports_import, if_pos stylesheet]
      simp [before, stylesheetImports, importsOf]
    | cons n place => simp [standing] at stands
  | moduleBlock header names items rest inside ih =>
    refine numbered_cons (fun place decl stands stylesheet => ?_) ih
    cases place with
    | nil => simp [standing, Item.withoutItems] at stands
    | cons n place =>
      rw [standing_inside] at stands
      have within := inside (n :: place) decl stands stylesheet
      rw [before_inside, stylesheet_imports_cons, stylesheet_imports_block,
        List.getElem?_append_left (List.getElem?_eq_some_iff.mp within).1, within]
  | plain item rest plain ih =>
    refine numbered_cons (fun place decl stands stylesheet => ?_) ih
    cases place with
    | nil => cases item <;> first | exact plain.elim | simp [standing, Item.withoutItems] at stands
    | cons n place => cases item <;> first | exact plain.elim | simp [standing] at stands

/-! ### The walk -/

/-- A walk gives back what the imports of stylesheets did not take. -/
theorem place_leaves (items : List Item) (supply : List VarDecl) (events : List Event) :
    (placeAll items supply events).2 =
      (supply.drop (stylesheetImports items).length, events ++ walkRemarks items) := by
  induction items using items_induction generalizing supply events with
  | nil => simp [placeAll, stylesheetImports, importsOf, walkRemarks]
  | importDecl decl rest ih =>
    rw [stylesheet_imports_cons, stylesheet_imports_import]
    cases binds : binding? decl with
    | none => simp [placeAll, Item.place, recognise_eq, binds, ih, walkRemarks, importsOf, Item.imports]
    | some binding =>
      cases supply <;>
        simp [placeAll, Item.place, recognise_eq, binds, ih, walkRemarks, importsOf, Item.imports]
  | moduleBlock header names items rest inside ih =>
    rw [stylesheet_imports_cons, stylesheet_imports_block]
    simp [placeAll, Item.place, inside, ih, walkRemarks, importsOf, Item.imports, List.drop_drop]
  | plain item rest plain ih =>
    rw [place_plain plain, ih, stylesheet_imports_cons, stylesheet_imports_plain plain]
    simp [walkRemarks, importsOf, imports_of_plain plain]

theorem taking_import (decl : Import) (next? : Option VarDecl) :
    taking next? (.importDecl decl) = .importDecl decl ∨
      ∃ declared, taking next? (.importDecl decl) = .varDecl false declared := by
  cases binds : binding? decl with
  | none => exact .inl (by simp [taking, binds])
  | some binding => cases next? <;> simp [taking, binds]

/-- The import in front takes the first declaration if it is of a stylesheet. -/
theorem place_import (decl : Import) (rest : List Item) (supply : List VarDecl) (events : List Event) :
    (placeAll (.importDecl decl :: rest) supply events).1 =
      taking supply[0]? (.importDecl decl) ::
        (placeAll rest (supply.drop (stylesheetImports [.importDecl decl]).length) (events ++ remarks decl)).1 := by
  rw [stylesheet_imports_import]
  cases binds : binding? decl with
  | none => simp [placeAll, Item.place, recognise_eq, binds, taking]
  | some binding => cases supply <;> simp [placeAll, Item.place, recognise_eq, binds, taking]

/-- Behind a module block the walk goes on with what the block did not take. -/
theorem place_block (header : ModuleHeader) (names : List String) (items rest : List Item)
    (supply : List VarDecl) (events : List Event) :
    (placeAll (.moduleBlock header names items :: rest) supply events).1 =
      .moduleBlock header names (placeAll items supply events).1 ::
        (placeAll rest (supply.drop (stylesheetImports items).length) (events ++ walkRemarks items)).1 := by
  have left := place_leaves items supply events
  simp only [placeAll, Item.place, left]

/-- The place of an item in front, and the places behind it, are handed their declarations one after the other. -/
theorem handed_cons {item placedItem : Item} {rest placed : List Item} {supply : List VarDecl}
    (front : ∀ place, standing (0 :: place) (placedItem :: placed) =
      (standing (0 :: place) (item :: rest)).map (taking supply[before (0 :: place) (item :: rest)]?))
    (behind : Handed (supply.drop (stylesheetImports [item]).length) rest placed) :
    Handed supply (item :: rest) (placedItem :: placed) := by
  intro place
  match place with
  | [] => rfl
  | 0 :: place => exact front place
  | (n + 1) :: place =>
    rw [standing_behind, standing_behind, before_behind, behind, List.getElem?_drop]

/-- A walk hands its supply to the places in the order of the text. -/
theorem place_hands (items : List Item) (supply : List VarDecl) (events : List Event) :
    Handed supply items (placeAll items supply events).1 := by
  -- The supply is free in the induction: a block hands on to what is behind it all that it did not take.
  induction items using items_induction generalizing supply events with
  | nil =>
    intro place
    simp [placeAll, standing_nil]
  | importDecl decl rest ih =>
    rw [place_import]
    refine handed_cons (fun place => ?_) (ih _ _)
    have start : before (0 :: place) (.importDecl decl :: rest) = 0 := by
      simp [before, stylesheetImports, importsOf]
    rw [start]
    rcases taking_import decl supply[0]? with kept | ⟨declared, taken⟩ <;> cases place <;>
      simp_all [standing, Item.withoutItems]
  | moduleBlock header names items rest inside ih =>
    rw [place_block]
    refine handed_cons (fun place => ?_) ?_
    · cases place with
      | nil => rfl
      | cons n place => rw [standing_inside, standing_inside, before_inside, inside]
    · rw [stylesheet_imports_block]
      exact ih _ _
  | plain item rest plain ih =>
    rw [place_plain plain]
    refine handed_cons (fun place => ?_) ?_
    · cases place with
      | nil => cases item <;> first | rfl | exact plain.elim
      | cons n place => cases item <;> first | rfl | exact plain.elim
    · rw [stylesheet_imports_plain plain]
      exact ih supply events

/-- What is not handed a declaration stays behind the others. -/
theorem place_keeps (items : List Item) (supply : List VarDecl) (events : List Event) :
    stylesheetImports (placeAll items supply events).1 = (stylesheetImports items).drop supply.length := by
  induction items using items_induction generalizing supply events with
  | nil => simp [placeAll, stylesheetImports, importsOf]
  | importDecl decl rest ih =>
    rw [place_import, stylesheet_imports_cons, ih, stylesheet_imports_cons (.importDecl decl) rest,
      stylesheet_imports_import]
    cases binds : binding? decl with
    | none => simp [taking, binds, stylesheet_imports_import]
    | some binding =>
      cases supply with
      | nil => simp [taking, binds, stylesheet_imports_import]
      | cons next later =>
        have gone : stylesheetImports [.varDecl false next] = [] := stylesheet_imports_plain trivial
        simp [taking, binds, gone]
  | moduleBlock header names items rest inside ih =>
    rw [place_block, stylesheet_imports_cons, ih, stylesheet_imports_cons (.moduleBlock header names items) rest,
      stylesheet_imports_block, stylesheet_imports_block, inside, List.length_drop, List.drop_append]
  | plain item rest plain ih =>
    rw [place_plain plain, stylesheet_imports_cons, ih, stylesheet_imports_cons item rest,
      stylesheet_imports_plain plain, List.nil_append, List.nil_append]

/-- Placing hands out declarations in the order of the text. The items afterwards are those, and no others, that
have at every place what stood there, or the declaration with the number of the import of a stylesheet there; the
declarations that no import takes come back, and the imports that get none stay. When the looking up has succeeded,
there is one declaration for each such import: none of them is met without one, and none is left over. -/
theorem handed_out_in_order (items : List Item) (supply : List VarDecl) (events : List Event) :
    (∀ placed, placed = (placeAll items supply events).1 ↔ Handed supply items placed) ∧
      (placeAll items supply events).2.1 = supply.drop (stylesheetImports items).length ∧
      stylesheetImports (placeAll items supply events).1 = (stylesheetImports items).drop supply.length ∧
      Numbered items ∧
      ∀ {σ ε : Type} (inliner : Inliner σ ε) (start reached : Journal σ) (found : List VarDecl),
        inliner.plan items start = (.ok found, reached) →
        found.length = (stylesheetImports items).length ∧
          (∀ place decl, standing place items = some (.importDecl decl) → (binding? decl).isSome →
            ∃ declared, found[before place items]? = some declared) ∧
          (placeAll items found events).2.1 = [] ∧ stylesheetImports (placeAll items found events).1 = [] := by
  refine ⟨fun placed => ⟨?_, ?_⟩, ?_, place_keeps items supply events, numbered items, ?_⟩
  · rintro rfl
    exact place_hands items supply events
  · intro handed
    refine standing_ext fun place => ?_
    rw [handed place, place_hands items supply events place]
  · rw [place_leaves]
  · intro σ ε inliner start reached found planned
    rw [plan_in_document_order] at planned
    have counted : found.length = (stylesheetImports items).length := inline_each_found planned
    refine ⟨counted, fun place decl stands stylesheet => ?_, ?_, ?_⟩
    · have below := (List.getElem?_eq_some_iff.mp (numbered items place decl stands stylesheet)).1
      exact ⟨_, List.getElem?_eq_getElem (counted ▸ below)⟩
    · rw [place_leaves, ← counted, List.drop_length]
    · rw [place_keeps, counted, List.drop_length]

def cardDeclaration : VarDecl :=
  .ofExports ⟨"styles", .between 47 53, 2, false⟩ (.ofList [("card", "x1_card")])

theorem second_declaration_left_over :
    counting.plan (dotted cardImport) ⟨0, []⟩ =
        (.ok [cardDeclaration], ⟨1, [.skipped "react", .inlined "styles" ⟨"/app/Card.module.css"⟩ 1]⟩) ∧
      standing [0, 1] (dotted cardImport) = some cardImport ∧ before [0, 1] (dotted cardImport) = 0 ∧
      (∀ next, standing [0, 1] (placeAll (dotted cardImport) [cardDeclaration, next] []).1 = some cardConstant ∧
        (placeAll (dotted cardImport) [cardDeclaration, next] []).2.1 = [next]) ∧
      (∃ declared, [cardDeclaration][0]? = some declared) ∧
      (placeAll (dotted cardImport) [cardDeclaration] []).2.1 = [] := by
  have planned : counting.plan (dotted cardImport) ⟨0, []⟩ =
      (.ok [cardDeclaration], ⟨1, [.skipped "react", .inlined "styles" ⟨"/app/Card.module.css"⟩ 1]⟩) := rfl
  refine ⟨planned, rfl, rfl, fun next => ?_, ?_⟩
  · obtain ⟨decided, left, -⟩ := handed_out_in_order (dotted cardImport) [cardDeclaration, next] []
    exact ⟨(decided _).mp rfl [0, 1], left⟩
  · obtain ⟨-, -, -, -, fits⟩ := handed_out_in_order (dotted cardImport) [] []
    obtain ⟨-, each, used, -⟩ := fits counting _ _ _ planned
    exact ⟨each [0, 1] _ rfl rfl, used⟩

end StyleInline.PlaceByPlace
