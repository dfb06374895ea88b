import Mathlib.Logic.Function.Basic
import StyleInline.Proofs.DocumentOrder
import StyleInline.Proofs.Gathering

/-! What the object literal that is written for exports means where the program runs. The properties of a literal are
defined from first to last, and a later one of the same name takes the place of an earlier one. One name is apart:
`__proto__` in front of a colon names no property but the prototype, which is set to an object or to nothing and to
no other kind of value. So a selector of that name is written and yet lost, and it is the only one. -/
namespace StyleInline.ObjectMeaning
open DocumentOrder Gathering

variable {σ ε ω : Type}

/-! ### Object literals -/

/-- A value, as far as the rule for prototypes tells values apart. -/
inductive Datum (ω : Type) where
  | text (text : String)
  | null
  | object (ref : ω)

/-- What an object inherits from, if anything, and what its own properties hold. Their order is left out. -/
structure Object (ω : Type) where
  prototype? : Option ω
  own : String → Option (Datum ω)

/-- The effect of `name: value` in a literal on the object that is being made. -/
def Object.define (object : Object ω) (name : String) (value : Datum ω) : Object ω :=
  if name = "__proto__" then
    match value with
    | .text _ => object
    | .null => { object with prototype? := none }
    | .object ref => { object with prototype? := some ref }
  else { object with own := Function.update object.own name (some value) }

/-- An object that inherits from `standard`, as objects of literals do at first, and has no own properties. -/
def bare (standard : ω) : Object ω := ⟨some standard, fun _ => none⟩

/-- The object that a literal comes to. -/
def evaluate (standard : ω) (literal : ObjectLiteral) : Object ω :=
  literal.properties.foldl (fun object property => object.define property.1 (.text property.2)) (bare standard)

/-- The names that a declaration binds, each with the object of its initialiser. -/
def bindings (standard : ω) (declared : VarDecl) : List (Ident × Option (Object ω)) :=
  declared.declarators.map fun declarator => (declarator.binding, declarator.init.map (evaluate standard))

/-- The own properties are the pairs of the exports, no more and no less. -/
def HoldsJust (object : Object ω) (exports : Exports) : Prop :=
  ∀ selector, object.own selector = (exports.get? selector).map .text

/-! ### One property -/

theorem define_text_prototype (object : Object ω) (name text : String) :
    (object.define name (.text text)).prototype? = object.prototype? := by
  unfold Object.define
  split <;> rfl

/-- A text that is defined changes the property of its name and no other, and under `__proto__` none at all. -/
theorem define_text_own (object : Object ω) (name text asked : String) :
    (object.define name (.text text)).own asked =
      if name = asked ∧ asked ≠ "__proto__" then some (.text text) else object.own asked := by
  unfold Object.define
  split
  · rename_i proto
    have elsewhere : ¬ (name = asked ∧ asked ≠ "__proto__") := by
      rintro ⟨rfl, other⟩
      exact other proto
    rw [if_neg elsewhere]
  · rename_i other
    by_cases same : name = asked
    · subst same
      simp [other]
    · simp [same, Function.update_of_ne (Ne.symm same)]

/-! ### All properties -/

theorem evaluate_snoc (standard : ω) (properties : List (String × String)) (property : String × String) :
    evaluate standard ⟨properties ++ [property]⟩ =
      (evaluate standard ⟨properties⟩).define property.1 (.text property.2) := by
  simp [evaluate]

/-- Texts never set the prototype. -/
theorem evaluate_prototype (standard : ω) (properties : List (String × String)) :
    (evaluate standard ⟨properties⟩).prototype? = some standard := by
  induction properties using List.reverseRecOn with
  | nil => rfl
  | append_singleton properties property ih => rw [evaluate_snoc, define_text_prototype, ih]

/-- A literal holds under each name what the table of its properties answers, but under `__proto__` nothing. -/
theorem evaluate_own (standard : ω) (properties : List (String × String)) (asked : String) :
    (evaluate standard ⟨properties⟩).own asked =
      if asked = "__proto__" then none else ((Table.ofList properties).get? asked).map .text := by
  induction properties using List.reverseRecOn with
  | nil => exact (ite_self none).symm
  | append_singleton properties property ih =>
    obtain ⟨name, text⟩ := property
    rw [evaluate_snoc, define_text_own, ih, of_list_snoc, get_insert]
    by_cases proto : asked = "__proto__"
    · simp [proto]
    · by_cases same : name = asked <;> simp [proto, same]

/-! ### Exports -/

theorem own_of_exports (standard : ω) (exports : Exports) (selector : String) :
    (evaluate standard exports.toObject).own selector =
      if selector = "__proto__" then none else (exports.get? selector).map .text := by
  rw [Exports.toObject, evaluate_own, of_list_to_list]

/-- The object is what the exports say just when no selector has the name of the prototype. -/
theorem holds_just_iff (standard : ω) (exports : Exports) :
    HoldsJust (evaluate standard exports.toObject) exports ↔ exports.get? "__proto__" = none := by
  constructor
  · intro just
    have lost := (own_of_exports standard exports "__proto__").symm.trans (just "__proto__")
    rw [if_pos rfl] at lost
    exact Option.map_eq_none_iff.mp lost.symm
  · intro free selector
    rw [own_of_exports]
    split
    · rename_i proto
      rw [proto, free]
      rfl
    · rfl

/-- The object written for exports inherits what every literal does, and its own properties are the pairs of the
exports, all but a selector `__proto__`: that one is missing, so the object is what the exports say just when they
have no such selector. It is this object that an import comes to bind when its stylesheet has these exports. -/
theorem one_selector_is_lost (standard : ω) (exports : Exports) :
    (evaluate standard exports.toObject).prototype? = some standard ∧
      (∀ selector, (evaluate standard exports.toObject).own selector =
        if selector = "__proto__" then none else (exports.get? selector).map .text) ∧
      (HoldsJust (evaluate standard exports.toObject) exports ↔ exports.get? "__proto__" = none) ∧
      ∀ (inliner : Inliner σ ε) (decl : Import) (binding : Ident) (before : Journal σ) (request : Request) (memory : σ),
        decl.specifiers = [.byDefault binding] → isStylesheetSource decl.source = true →
        inliner.request decl.source = .ok request →
        inliner.provider.answer request before.memory = (.ok exports, memory) →
        ∃ declared after, inliner.inline decl before = (.ok (some declared), after) ∧
          bindings standard declared = [(binding, some (evaluate standard exports.toObject))] := by
  refine ⟨evaluate_prototype standard exports.toList, own_of_exports standard exports,
    holds_just_iff standard exports, ?_⟩
  intro inliner decl binding before request memory only accepted asked answered
  have binds : binding? decl = some binding := by
    simp [binding?, Import.role, only, accepted]
  have inlined := inline_stylesheet binds inliner before
  simp only [asked, answered] at inlined
  exact ⟨.ofExports binding exports, _, inlined, rfl⟩

/-- Exports with a selector that has the name of the prototype. -/
def protoAndCard : Exports := .ofList [("__proto__", "x_proto"), ("card", "x_card")]

def styleImport : Import :=
  ⟨"./Card.module.css", [.byDefault ⟨"style", .between 7 12, 2, false⟩], false, .evaluation, none, .between 0 38⟩

/-- Every stylesheet exports the same here. -/
def sameForAll (exports : Exports) : Inliner Unit Empty :=
  ⟨some ⟨"/"⟩, .forFile ⟨"/Card.tsx"⟩, .stateless fun _ => .ok exports⟩

theorem style_holds_card_alone :
    ∃ declared after object, (sameForAll protoAndCard).inline styleImport ⟨(), []⟩ = (.ok (some declared), after) ∧
      bindings () declared = [(⟨"style", .between 7 12, 2, false⟩, some object)] ∧
      object.own "card" = some (.text "x_card") ∧ object.own "__proto__" = none := by
  obtain ⟨-, own, -, bound⟩ := one_selector_is_lost () protoAndCard
  obtain ⟨declared, after, inlined, binds⟩ := bound (sameForAll protoAndCard) styleImport _ ⟨(), []⟩ _ _ rfl
    (by decide) rfl rfl
  exact ⟨declared, after, _, inlined, binds, own "card", own "__proto__"⟩

/-- A selector is among the exports and yet no property of their object. -/
theorem proto_is_no_property :
    protoAndCard.get? "__proto__" = some "x_proto" ∧
      (evaluate () protoAndCard.toObject).own "__proto__" = none ∧
      ¬ ∀ selector text, (evaluate () protoAndCard.toObject).own selector = some (.text text) ↔
        protoAndCard.get? selector = some text := by
  have held : protoAndCard.get? "__proto__" = some "x_proto" := rfl
  have lost : (evaluate () protoAndCard.toObject).own "__proto__" = none := rfl
  refine ⟨held, lost, fun just => ?_⟩
  have kept := (just "__proto__" "x_proto").mpr held
  rw [lost] at kept
  cases kept

end StyleInline.ObjectMeaning
