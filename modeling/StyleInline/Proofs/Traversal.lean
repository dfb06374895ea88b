import StyleInline.Proofs.DocumentOrder

/-! Inlining is written as two walks: the first only looks up, the second only places. They agree with one
walk that handles every import on the spot. What could go wrong is that the walks part and a declaration
lands on another import's binding; the invariant is therefore kept on what placing does with any supply that
begins with the declarations found. -/
namespace StyleInline.Traversal
open DocumentOrder

variable {σ ε : Type}

mutual

/-- Handles one item on the spot: the number of imports inlined in it, and what stands there afterwards. -/
def traverseItem (inliner : Inliner σ ε) : Item → Journal σ →
    Except (Failure ε) (Nat × Item) × Journal σ
  | .importDecl decl, journal =>
    match inliner.inline decl journal with
    | (.error fault, journal) => (.error ⟨decl.span, decl.source, fault⟩, journal)
    | (.ok none, journal) => (.ok (0, .importDecl decl), journal)
    | (.ok (some declared), journal) => (.ok (1, .varDecl false declared), journal)
  | .moduleBlock header inner items, journal =>
    match traverse inliner items journal with
    | (.error failure, journal) => (.error failure, journal)
    | (.ok (count, items), journal) => (.ok (count, .moduleBlock header inner items), journal)
  | item, journal => (.ok (0, item), journal)

/-- One walk from first to last and into module blocks. The first import that fails ends it. -/
def traverse (inliner : Inliner σ ε) : List Item → Journal σ →
    Except (Failure ε) (Nat × List Item) × Journal σ
  | [], journal => (.ok (0, []), journal)
  | item :: rest, journal =>
    match traverseItem inliner item journal with
    | (.error failure, journal) => (.error failure, journal)
    | (.ok (count, item), journal) =>
      match traverse inliner rest journal with
      | (.error failure, journal) => (.error failure, journal)
      | (.ok (more, rest), journal) => (.ok (count + more, item :: rest), journal)

end

/-- Items before and after inlining. Only an import of a stylesheet gives way, at its own position and to
a declaration that is `given` for it; block headers and all other items are the same. -/
inductive Inlined (given : Import → Ident → VarDecl → Prop) : List Item → List Item → Prop where
  | nil : Inlined given [] []
  | declared {decl : Import} {binding : Ident} {declared : VarDecl} {items placed : List Item}
      (binds : binding? decl = some binding) (gives : given decl binding declared)
      (rest : Inlined given items placed) :
      Inlined given (.importDecl decl :: items) (.varDecl false declared :: placed)
  | passed {decl : Import} {items placed : List Item} (other : binding? decl = none)
      (rest : Inlined given items placed) :
      Inlined given (.importDecl decl :: items) (.importDecl decl :: placed)
  | inside {header : ModuleHeader} {names : List String} {body placedBody items placed : List Item}
      (within : Inlined given body placedBody) (rest : Inlined given items placed) :
      Inlined given (.moduleBlock header names body :: items)
        (.moduleBlock header names placedBody :: placed)
  | plain {item : Item} {items placed : List Item} (same : Plain item)
      (rest : Inlined given items placed) : Inlined given (item :: items) (item :: placed)

/-- What is known of the declarations may be weakened, import by import. -/
theorem inlined_imp {given known : Import → Ident → VarDecl → Prop} {items placed : List Item}
    (inlined : Inlined given items placed)
    (weaken : ∀ decl binding declared, binding? decl = some binding → given decl binding declared →
      known decl binding declared) : Inlined known items placed := by
  induction inlined with
  | nil => exact .nil
  | declared binds gives _ ih => exact .declared binds (weaken _ _ _ binds gives) ih
  | passed other _ ih => exact .passed other ih
  | inside _ _ within rest => exact .inside within rest
  | plain same _ ih => exact .plain same ih

/-- The imports that are left are those that were passed over, in their old order. -/
theorem imports_of_inlined {given : Import → Ident → VarDecl → Prop} {items placed : List Item}
    (inlined : Inlined given items placed) :
    importsOf placed = (importsOf items).filter fun decl => (binding? decl).isNone := by
  induction inlined with
  | nil => rfl
  | declared binds _ _ ih => simp [importsOf, Item.imports, binds, ih]
  | passed other _ ih => simp [importsOf, Item.imports, other, ih]
  | inside _ _ within rest => simp [importsOf, Item.imports, within, rest]
  | plain same _ ih => simp [importsOf, ih, imports_of_plain same]

/-- Nothing that was put in place is itself work to do. -/
theorem none_left {given : Import → Ident → VarDecl → Prop} {items placed : List Item}
    (inlined : Inlined given items placed) : stylesheetImports placed = [] := by
  rw [stylesheetImports, imports_of_inlined inlined, List.filter_filter, List.filter_eq_nil_iff]
  intro decl _
  cases binding? decl <;> simp

/-- A constant of exports: the one thing it declares is this very identifier, with its span, scope and mark, and
its value is an object of the selectors with their scoped selectors, in their order. What is new around the
identifier stands nowhere in the source. -/
structure ConstantOf (binding : Ident) (exports : Exports) (declared : VarDecl) : Prop where
  kind : declared.kind = .constant
  declarators : declared.declarators = [⟨binding, .nowhere, some ⟨exports.entries⟩, false⟩]
  declare : declared.declare = false
  scope : declared.scope = 0
  span : declared.span = .nowhere

theorem constant_of_exports (binding : Ident) (exports : Exports) :
    ConstantOf binding exports (.ofExports binding exports) where
  kind := rfl
  declarators := rfl
  declare := rfl
  scope := rfl
  span := rfl

/-- What looking up an import gives: the constant that holds, under the identifier that stands in the import, the
exports that the provider answers for its source. -/
def Gives (inliner : Inliner σ ε) (decl : Import) (binding : Ident) (declared : VarDecl) : Prop :=
  ∃ (request : Request) (exports : Exports) (before after : Journal σ),
    decl.specifiers = [.byDefault binding] ∧ inliner.request decl.source = .ok request ∧
      inliner.provider.answer request before.memory = (.ok exports, after.memory) ∧
      ConstantOf binding exports declared ∧ inliner.inline decl before = (.ok (some declared), after)

/-- How far the first walk and the single walk have come over the same items: they failed alike, or placing
what the first has found makes of the items what the single walk made of them and gives the rest back. -/
inductive InStep (inliner : Inliner σ ε) (items : List Item) :
    Except (Failure ε) (List VarDecl) × Journal σ →
    Except (Failure ε) (Nat × List Item) × Journal σ → Prop where
  | failed (failure : Failure ε) (journal : Journal σ) :
      InStep inliner items (.error failure, journal) (.error failure, journal)
  | found {found : List VarDecl} {placed : List Item}
      (fits : ∀ more events, placeAll items (found ++ more) events =
        (placed, more, events ++ walkRemarks items))
      (inlined : Inlined (Gives inliner) items placed) (journal : Journal σ) :
      InStep inliner items (.ok found, journal) (.ok (found.length, placed), journal)

private theorem gives_of_inline {inliner : Inliner σ ε} {decl : Import} {binding : Ident}
    {declared : VarDecl} {before after : Journal σ} (binds : binding? decl = some binding)
    (inlined : inliner.inline decl before = (.ok (some declared), after)) :
    Gives inliner decl binding declared := by
  have found := inline_found inlined
  simp only [binds, Option.some.injEq] at found
  obtain ⟨request, exports, asked, answered, rfl⟩ := found
  exact ⟨request, exports, before, after, (specifiers_of_stylesheet binds).1, asked, answered,
    constant_of_exports binding exports, inlined⟩

/-- One more item in front: when both walks pass it alike and placing fits it, they are in step over the
longer list if they are over the rest. -/
private theorem in_step_cons {inliner : Inliner σ ε} {item : Item} {rest : List Item}
    {journal : Journal σ} (found : List VarDecl) (placedItem : Item) (reached : Journal σ)
    (looked : inliner.planItem item journal = (.ok found, reached))
    (walked : traverseItem inliner item journal = (.ok (found.length, placedItem), reached))
    (fits : ∀ more events, item.place (found ++ more) events =
      (placedItem, more, events ++ item.imports.flatMap remarks))
    (joins : ∀ placed, Inlined (Gives inliner) rest placed →
      Inlined (Gives inliner) (item :: rest) (placedItem :: placed))
    (behind : InStep inliner rest (inliner.plan rest reached) (traverse inliner rest reached)) :
    InStep inliner (item :: rest) (inliner.plan (item :: rest) journal)
      (traverse inliner (item :: rest) journal) := by
  simp only [Inliner.plan, traverse, looked, walked]
  generalize inliner.plan rest reached = lookedBehind at behind ⊢
  generalize traverse inliner rest reached = walkedBehind at behind ⊢
  cases behind with
  | failed failure after => exact .failed failure after
  | @found others placed fitsBehind continued after =>
    dsimp only
    rw [← List.length_append]
    refine .found (fun more events => ?_) (joins placed continued) after
    simp [placeAll, fits, fitsBehind, walkRemarks, importsOf]

private theorem in_step_failed {inliner : Inliner σ ε} {item : Item} {rest : List Item}
    {journal : Journal σ} (failure : Failure ε) (after : Journal σ)
    (looked : inliner.planItem item journal = (.error failure, after))
    (walked : traverseItem inliner item journal = (.error failure, after)) :
    InStep inliner (item :: rest) (inliner.plan (item :: rest) journal)
      (traverse inliner (item :: rest) journal) := by
  simp only [Inliner.plan, traverse, looked, walked]
  exact .failed failure after

/-- The two walks stay in step over all items, from every journal that they start with alike. -/
theorem walks_in_step (inliner : Inliner σ ε) (items : List Item) (journal : Journal σ) :
    InStep inliner items (inliner.plan items journal) (traverse inliner items journal) := by
  induction items using items_induction generalizing journal with
  | nil => exact .found (fun _ _ => by simp [placeAll, walkRemarks, importsOf]) .nil journal
  | importDecl decl rest ih =>
    rcases inlined : inliner.inline decl journal with ⟨fault | found, reached⟩
    · exact in_step_failed ⟨decl.span, decl.source, fault⟩ reached
        (by simp only [Inliner.planItem, inlined]) (by simp only [traverseItem, inlined])
    · have declared := inline_found inlined
      cases binds : binding? decl with
      | none =>
        simp only [binds] at declared
        subst declared
        refine in_step_cons [] (.importDecl decl) reached
          (by simp only [Inliner.planItem, inlined, Option.toList_none])
          (by simp only [traverseItem, inlined, List.length_nil]) (fun more events => ?_)
          (fun _ => .passed binds) (ih reached)
        cases more <;> simp [Item.place, recognise_eq, binds, Item.imports]
      | some binding =>
        simp only [binds] at declared
        obtain ⟨request, exports, -, -, rfl⟩ := declared
        refine in_step_cons [.ofExports binding exports] (.varDecl false (.ofExports binding exports))
          reached (by simp only [Inliner.planItem, inlined, Option.toList_some])
          (by simp only [traverseItem, inlined, List.length_singleton]) (fun more events => ?_)
          (fun _ => .declared binds (gives_of_inline binds inlined)) (ih reached)
        simp [Item.place, recognise_eq, binds, Item.imports]
  | moduleBlock header inner items rest inside ih =>
    have within := inside journal
    generalize looked : inliner.plan items journal = lookedInside at within
    generalize walked : traverse inliner items journal = walkedInside at within
    cases within with
    | failed failure after =>
      exact in_step_failed failure after
        (by simp only [Inliner.planItem, looked]) (by simp only [traverseItem, walked])
    | @found found placed fits inlined after =>
      refine in_step_cons found (.moduleBlock header inner placed) after
        (by simp only [Inliner.planItem, looked])
        (by simp only [traverseItem, walked]) (fun more events => ?_)
        (fun _ => .inside inlined) (ih after)
      simp [Item.place, fits, walkRemarks, Item.imports]
  | plain item rest plain ih =>
    refine in_step_cons [] item journal ?_ ?_ (fun more events => ?_) (fun _ => .plain plain)
      (ih journal)
    all_goals
      cases item <;>
        first
        | exact plain.elim
        | simp [Inliner.planItem, traverseItem, Item.place, Item.imports]

/-- With declarations that fit the items, the second walk uses them all up and adds nothing but remarks. -/
private theorem inline_all_fits {inliner : Inliner σ ε} {items placed : List Item} {found : List VarDecl}
    {before reached : Journal σ} (looked : inliner.plan items before = (.ok found, reached))
    (fits : ∀ more events, placeAll items (found ++ more) events =
      (placed, more, events ++ walkRemarks items)) :
    inliner.inlineAll items before =
      (.ok found.length, placed, ⟨reached.memory, reached.events ++ walkRemarks items⟩) := by
  have placing := fits [] reached.events
  rw [List.append_nil] at placing
  simp only [Inliner.inlineAll, looked, placing]

/-- After a success every import of a stylesheet has its declaration, and behind what was looked up nothing
but remarks is added. -/
theorem inline_all_succeeded {inliner : Inliner σ ε} {items placed : List Item} {count : Nat}
    {before after : Journal σ} (ran : inliner.inlineAll items before = (.ok count, placed, after)) :
    ∃ found reached, inlineEach inliner (importsOf items) before = (.ok found, reached) ∧
      count = found.length ∧ after = ⟨reached.memory, reached.events ++ walkRemarks items⟩ ∧
      Inlined (Gives inliner) items placed := by
  have step := walks_in_step inliner items before
  have ordered := plan_in_document_order inliner items before
  generalize looked : inliner.plan items before = planned at step ordered
  generalize traverse inliner items before = walked at step
  cases step with
  | failed failure reached => simp [Inliner.inlineAll, looked] at ran
  | @found found made fits inlined reached =>
    rw [inline_all_fits looked fits] at ran
    obtain ⟨rfl, rfl, rfl⟩ : found.length = count ∧ made = placed ∧
        ⟨reached.memory, reached.events ++ walkRemarks items⟩ = after := by
      simpa only [Prod.mk.injEq, Except.ok.injEq] using ran
    exact ⟨found, reached, ordered.symm, rfl, rfl, inlined⟩

/-- After a failure the items are as they were. -/
theorem inline_all_failed {inliner : Inliner σ ε} {items placed : List Item} {failure : Failure ε}
    {before after : Journal σ} (ran : inliner.inlineAll items before = (.error failure, placed, after)) :
    placed = items ∧ inlineEach inliner (importsOf items) before = (.error failure, after) := by
  rw [← plan_in_document_order]
  rcases looked : inliner.plan items before with ⟨failed | found, reached⟩
  · simp only [Inliner.inlineAll, looked, Prod.mk.injEq, Except.error.injEq] at ran
    obtain ⟨rfl, rfl, rfl⟩ := ran
    exact ⟨rfl, rfl⟩
  · simp [Inliner.inlineAll, looked] at ran

/-- A run answers and leaves what the walk on the spot does, and after a failure what was there. -/
theorem inline_all_walked (inliner : Inliner σ ε) (items : List Item) (journal : Journal σ) :
    match (traverse inliner items journal).1 with
    | .ok (count, placed) =>
      (inliner.inlineAll items journal).1 = .ok count ∧ (inliner.inlineAll items journal).2.1 = placed
    | .error failure =>
      (inliner.inlineAll items journal).1 = .error failure ∧ (inliner.inlineAll items journal).2.1 = items := by
  have step := walks_in_step inliner items journal
  generalize looked : inliner.plan items journal = planned at step
  generalize traverse inliner items journal = walked at step
  cases step with
  | failed failure after => simp only [Inliner.inlineAll, looked, and_self]
  | @found found placed fits inlined after => simp only [inline_all_fits looked fits, and_self]

/-- Inliners that come to the same at each import of the items come to the same over the items. -/
theorem inline_all_congr {first second : Inliner σ ε} {items : List Item}
    (alike : ∀ decl ∈ importsOf items, ∀ journal, first.inline decl journal = second.inline decl journal)
    (journal : Journal σ) : first.inlineAll items journal = second.inlineAll items journal := by
  have looked : first.plan items journal = second.plan items journal := by
    rw [plan_in_document_order, plan_in_document_order, inline_each_congr alike]
  simp only [Inliner.inlineAll, looked]

/-- Looking everything up and then placing comes to what one walk on the spot comes to. Either every import
of a stylesheet, and nothing else, has given way to the constant of the exports answered for it, and they are counted;
or the failure is that of the first import in the text that fails, with its span and its source, and the
items are as they were. The provider is left with the same memory in both. -/
theorem two_walks_are_one (inliner : Inliner σ ε) (items : List Item) (journal : Journal σ) :
    match traverse inliner items journal with
    | (.ok (count, placed), after) =>
      inliner.inlineAll items journal =
          (.ok count, placed, ⟨after.memory, after.events ++ walkRemarks items⟩) ∧
        count = (stylesheetImports items).length ∧ Inlined (Gives inliner) items placed
    | (.error failure, after) =>
      inliner.inlineAll items journal = (.error failure, items, after) ∧
        ∃ passed decl later found reached fault, importsOf items = passed ++ decl :: later ∧
          inlineEach inliner passed journal = (.ok found, reached) ∧
          inliner.inline decl reached = (.error fault, after) ∧
          failure = ⟨decl.span, decl.source, fault⟩ := by
  have step := walks_in_step inliner items journal
  have ordered := plan_in_document_order inliner items journal
  generalize looked : inliner.plan items journal = planned at step ordered
  generalize traverse inliner items journal = walked at step
  cases step with
  | failed failure after =>
    exact ⟨by simp only [Inliner.inlineAll, looked], inline_each_failed ordered.symm⟩
  | @found found placed fits inlined after =>
    exact ⟨inline_all_fits looked fits, inline_each_found ordered.symm, inlined⟩

end StyleInline.Traversal
