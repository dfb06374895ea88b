import StyleInline.Inlining.Inliner

/-! Both walks over a module meet its imports in the order of the text. The walks recur over nested
items; here what each of them does is put as a recursion over the list of imports alone, so what is looked
up, told and used up can be read off that list. -/
namespace StyleInline.DocumentOrder

variable {σ ε : Type}

/-- Neither an import nor a module block: what every walk passes by. -/
def Plain : Item → Prop
  | .importDecl _ => False
  | .moduleBlock .. => False
  | _ => True

/-- Items from last to first, and those of a module block before what contains it. No other item is
entered, so every walk over a module can be followed by these four cases. -/
theorem items_induction {motive : List Item → Prop} (nil : motive [])
    (importDecl : ∀ decl rest, motive rest → motive (.importDecl decl :: rest))
    (moduleBlock : ∀ header inner items rest, motive items → motive rest →
      motive (.moduleBlock header inner items :: rest))
    (plain : ∀ item rest, Plain item → motive rest → motive (item :: rest))
    (items : List Item) : motive items := by
  match items with
  | [] => exact nil
  | item :: rest =>
    have after := items_induction nil importDecl moduleBlock plain rest
    cases item with
    | importDecl decl => exact importDecl decl rest after
    | moduleBlock header inner items =>
      have inside := items_induction nil importDecl moduleBlock plain items
      exact moduleBlock header inner items rest inside after
    | _ => exact plain _ rest trivial after

theorem imports_of_plain {item : Item} (plain : Plain item) : item.imports = [] := by
  cases item <;> first | rfl | exact plain.elim

/-! ### One import -/

/-- The binding of an import that is inlined. -/
def binding? (decl : Import) : Option Ident :=
  match decl.role with
  | .stylesheet binding => some binding
  | _ => none

/-- What is told of an import whenever a walk meets it. -/
def remarks (decl : Import) : List Event :=
  match decl.role with
  | .skipped => [.skipped decl.source]
  | _ => []

theorem recognise_eq (decl : Import) (events : List Event) :
    decl.recognise events = (binding? decl, events ++ remarks decl) := by
  unfold Import.recognise binding? remarks
  cases decl.role <;> simp

theorem remarks_of_stylesheet {decl : Import} {binding : Ident}
    (binds : binding? decl = some binding) : remarks decl = [] := by
  unfold binding? at binds
  unfold remarks
  cases role : decl.role <;> simp_all

/-- The import binds just a default, and its binding is that very identifier. -/
theorem specifiers_of_stylesheet {decl : Import} {binding : Ident}
    (binds : binding? decl = some binding) :
    decl.specifiers = [.byDefault binding] ∧ isStylesheetSource decl.source = true := by
  unfold binding? Import.role at binds
  split at binds
  · rename_i named
    split at named
    · rename_i only
      split at named
      · rename_i accepted
        cases named
        cases binds
        exact ⟨only, accepted⟩
      · contradiction
    · contradiction
  · contradiction

/-- An import that is not of a stylesheet is passed by: nothing is checked or looked up. -/
theorem inline_other {decl : Import} (other : binding? decl = none) (inliner : Inliner σ ε)
    (journal : Journal σ) :
    inliner.inline decl journal =
      (.ok none, ⟨journal.memory, journal.events ++ remarks decl⟩) := by
  simp [Inliner.inline, recognise_eq, other]

/-- Everything an import of a stylesheet can come to: the file or the root is not known, the provider
refuses, or its exports are declared. -/
theorem inline_stylesheet {decl : Import} {binding : Ident} (binds : binding? decl = some binding)
    (inliner : Inliner σ ε) (journal : Journal σ) :
    inliner.inline decl journal =
      match inliner.request decl.source with
      | .error fault => (.error fault, journal)
      | .ok request =>
        match inliner.provider.answer request journal.memory with
        | (.error fault, memory) => (.error (.lookup fault), ⟨memory, journal.events⟩)
        | (.ok exports, memory) =>
          (.ok (some (.ofExports binding exports)), ⟨memory, journal.events ++
            [.inlined binding.name request.stylesheet exports.size]⟩) := by
  have found : decl.recognise journal.events = (some binding, journal.events) := by
    rw [recognise_eq, binds, remarks_of_stylesheet binds, List.append_nil]
  cases asked : inliner.request decl.source with
  | error fault => simp only [Inliner.inline, found, asked]
  | ok request =>
    rcases answered : inliner.provider.answer request journal.memory with ⟨fault | exports, memory⟩ <;>
      simp only [Inliner.inline, found, asked, answered]

/-- A declaration is found exactly for an import of a stylesheet, with the exports that the provider answers. -/
theorem inline_found {inliner : Inliner σ ε} {decl : Import} {before after : Journal σ}
    {found : Option VarDecl} (ran : inliner.inline decl before = (.ok found, after)) :
    match binding? decl with
    | none => found = none
    | some binding => ∃ request exports, inliner.request decl.source = .ok request ∧
        inliner.provider.answer request before.memory = (.ok exports, after.memory) ∧
        found = some (.ofExports binding exports) := by
  cases binds : binding? decl with
  | none =>
    rw [inline_other binds] at ran
    cases ran
    rfl
  | some binding =>
    rw [inline_stylesheet binds] at ran
    split at ran
    · cases ran
    · rename_i request asked
      split at ran
      · cases ran
      · rename_i exports memory answered
        cases ran
        exact ⟨request, exports, asked, answered, rfl⟩

/-- Only an import of a stylesheet can fail. -/
theorem stylesheet_of_fault {inliner : Inliner σ ε} {decl : Import} {before after : Journal σ}
    {fault : ImportFault ε} (ran : inliner.inline decl before = (.error fault, after)) :
    ∃ binding, binding? decl = some binding := by
  cases binds : binding? decl with
  | none =>
    rw [inline_other binds] at ran
    cases ran
  | some binding => exact ⟨binding, rfl⟩

/-! ### Looking up -/

/-- The imports of stylesheets among the items, in the order of the text. -/
def stylesheetImports (items : List Item) : List Import :=
  (importsOf items).filter fun decl => (binding? decl).isSome

/-- Imports inlined one after another, up to the first that fails. Nothing is left of the items that they
stand in. -/
def inlineEach (inliner : Inliner σ ε) : List Import → Journal σ →
    Except (Failure ε) (List VarDecl) × Journal σ
  | [], journal => (.ok [], journal)
  | decl :: rest, journal =>
    match inliner.inline decl journal with
    | (.error fault, journal) => (.error ⟨decl.span, decl.source, fault⟩, journal)
    | (.ok found, journal) =>
      match inlineEach inliner rest journal with
      | (.error failure, journal) => (.error failure, journal)
      | (.ok others, journal) => (.ok (found.toList ++ others), journal)

/-- An import that is not of a stylesheet leaves nothing behind but its remarks. -/
theorem inline_each_other {decl : Import} (other : binding? decl = none) (inliner : Inliner σ ε)
    (rest : List Import) (journal : Journal σ) :
    inlineEach inliner (decl :: rest) journal =
      inlineEach inliner rest ⟨journal.memory, journal.events ++ remarks decl⟩ := by
  simp only [inlineEach, inline_other other, Option.toList_none, List.nil_append]
  rcases inlineEach inliner rest _ with ⟨failure | others, after⟩ <;> rfl

/-- Imports that go well do so one by one. -/
theorem inline_each_cons_found {inliner : Inliner σ ε} {decl : Import} {rest : List Import}
    {before after : Journal σ} {found : List VarDecl}
    (ran : inlineEach inliner (decl :: rest) before = (.ok found, after)) :
    ∃ first reached others, inliner.inline decl before = (.ok first, reached) ∧
      inlineEach inliner rest reached = (.ok others, after) ∧ found = first.toList ++ others := by
  rcases inlined : inliner.inline decl before with ⟨fault | first, reached⟩
  · simp [inlineEach, inlined] at ran
  · rcases behind : inlineEach inliner rest reached with ⟨failure | others, final⟩
    · simp [inlineEach, inlined, behind] at ran
    · simp only [inlineEach, inlined, behind, Prod.mk.injEq, Except.ok.injEq] at ran
      obtain ⟨rfl, rfl⟩ := ran
      exact ⟨first, reached, others, rfl, behind, rfl⟩

theorem inline_each_append (inliner : Inliner σ ε) (first second : List Import) (journal : Journal σ) :
    inlineEach inliner (first ++ second) journal =
      match inlineEach inliner first journal with
      | (.error failure, journal) => (.error failure, journal)
      | (.ok found, journal) =>
        match inlineEach inliner second journal with
        | (.error failure, journal) => (.error failure, journal)
        | (.ok others, journal) => (.ok (found ++ others), journal) := by
  induction first generalizing journal with
  | nil =>
    rcases second_run : inlineEach inliner second journal with ⟨failure | others, after⟩ <;>
      simp [inlineEach, second_run]
  | cons decl rest ih =>
    rcases inlined : inliner.inline decl journal with ⟨fault | found, reached⟩
    · simp [inlineEach, inlined]
    · simp only [List.cons_append, inlineEach, inlined, ih]
      rcases inlineEach inliner rest reached with ⟨failure | others, middle⟩
      · rfl
      · dsimp only
        rcases inlineEach inliner second middle with ⟨failure | more, after⟩
        · rfl
        · simp only [List.append_assoc]

/-- The walk over nested items looks up the imports in the order of the text, and stops where looking them
up one after another stops. -/
theorem plan_in_document_order (inliner : Inliner σ ε) (items : List Item) (journal : Journal σ) :
    inliner.plan items journal = inlineEach inliner (importsOf items) journal := by
  induction items using items_induction generalizing journal with
  | nil => rfl
  | importDecl decl rest ih =>
    simp only [Inliner.plan, Inliner.planItem, importsOf, Item.imports, List.singleton_append, inlineEach, ih]
    rcases inliner.inline decl journal with ⟨fault | found, reached⟩ <;> rfl
  | moduleBlock header inner items rest inside ih =>
    have split : importsOf (.moduleBlock header inner items :: rest) =
        importsOf items ++ importsOf rest := by simp only [importsOf, Item.imports]
    rw [split, inline_each_append]
    rcases within : inlineEach inliner (importsOf items) journal with ⟨failure | found, reached⟩
    · simp only [Inliner.plan, Inliner.planItem, inside, within]
    · rcases behind : inlineEach inliner (importsOf rest) reached with ⟨failure | others, after⟩ <;>
        simp only [Inliner.plan, Inliner.planItem, inside, ih, within, behind]
  | plain item rest plain ih =>
    have passed : inliner.planItem item journal = (.ok [], journal) := by
      cases item <;> first | rfl | exact plain.elim
    simp only [Inliner.plan, passed, importsOf, imports_of_plain plain, List.nil_append, ih]
    rcases inlineEach inliner (importsOf rest) journal with ⟨failure | others, after⟩ <;> rfl

/-- Inliners that come to the same at each of the imports come to the same over all of them. -/
theorem inline_each_congr {first second : Inliner σ ε} {imports : List Import}
    (alike : ∀ decl ∈ imports, ∀ journal, first.inline decl journal = second.inline decl journal)
    (journal : Journal σ) : inlineEach first imports journal = inlineEach second imports journal := by
  induction imports generalizing journal with
  | nil => rfl
  | cons decl rest ih =>
    obtain ⟨here, behind⟩ := List.forall_mem_cons.mp alike
    simp only [inlineEach, here, ih behind]

/-- A success has a declaration for each import of a stylesheet and for no other. -/
theorem inline_each_found {inliner : Inliner σ ε} {imports : List Import} {before after : Journal σ}
    {found : List VarDecl} (ran : inlineEach inliner imports before = (.ok found, after)) :
    found.length = (imports.filter fun decl => (binding? decl).isSome).length := by
  induction imports generalizing before after found with
  | nil =>
    cases ran
    rfl
  | cons decl rest ih =>
    obtain ⟨first, reached, others, inlined, behind, rfl⟩ := inline_each_cons_found ran
    have counted := ih behind
    have declared := inline_found inlined
    cases binds : binding? decl with
    | none =>
      simp only [binds] at declared
      simp [declared, binds, counted]
    | some binding =>
      simp only [binds] at declared
      obtain ⟨request, exports, -, -, rfl⟩ := declared
      simp [binds, counted]

/-- A failure is that of one import; all before it were inlined, and it is reached with what they left. -/
theorem inline_each_failed {inliner : Inliner σ ε} {imports : List Import} {before after : Journal σ}
    {failure : Failure ε} (ran : inlineEach inliner imports before = (.error failure, after)) :
    ∃ passed decl later found reached fault, imports = passed ++ decl :: later ∧
      inlineEach inliner passed before = (.ok found, reached) ∧
      inliner.inline decl reached = (.error fault, after) ∧
      failure = ⟨decl.span, decl.source, fault⟩ := by
  induction imports generalizing before with
  | nil => cases ran
  | cons decl rest ih =>
    rcases inlined : inliner.inline decl before with ⟨fault | first, reached⟩
    · simp only [inlineEach, inlined, Prod.mk.injEq, Except.error.injEq] at ran
      obtain ⟨rfl, rfl⟩ := ran
      exact ⟨[], decl, rest, [], before, fault, rfl, rfl, inlined, rfl⟩
    · rcases behind : inlineEach inliner rest reached with ⟨stopped | others, final⟩
      · simp only [inlineEach, inlined, behind, Prod.mk.injEq, Except.error.injEq] at ran
        obtain ⟨rfl, rfl⟩ := ran
        obtain ⟨passed, blamed, later, found, middle, fault, rfl, went, failed, same⟩ := ih behind
        refine ⟨decl :: passed, blamed, later, first.toList ++ found, middle, fault, rfl, ?_, failed, same⟩
        simp [inlineEach, inlined, went]
      · simp [inlineEach, inlined, behind] at ran

/-! ### Placing -/

/-- What a whole walk tells of the imports that it passes over. -/
def walkRemarks (items : List Item) : List Event :=
  (importsOf items).flatMap remarks

theorem place_plain {item : Item} (plain : Plain item) (rest : List Item) (supply : List VarDecl)
    (events : List Event) :
    placeAll (item :: rest) supply events =
      (item :: (placeAll rest supply events).1, (placeAll rest supply events).2) := by
  cases item <;> first | rfl | exact plain.elim

end StyleInline.DocumentOrder
