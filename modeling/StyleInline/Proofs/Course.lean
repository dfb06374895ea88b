import StyleInline.Proofs.Requests
import StyleInline.Proofs.Traversal

/-! What a run tells of its course. The first walk tells of what it finds and of what it skips, up to the import that
fails if there is one. The second walk comes after a success and finds nothing any more: it tells once again of all
that was skipped. What is told hangs on the imports and on the provider's answers alone. -/
namespace StyleInline.Course
open DocumentOrder Traversal Requests

variable {σ ε : Type}

/-- What a walk that looks up tells of imports, when those of stylesheets are answered like this in turn. Nothing is
told of an import that binds anything else than just a default, and the walk ends at an import of a stylesheet that
has no answer. -/
def told (file? : Option Path) : List Import → List (Except ε Exports) → List Event
  | [], _ => []
  | decl :: rest, given =>
    match decl.specifiers with
    | [.byDefault binding] =>
      if isStylesheetSource decl.source then
        match file?, given with
        | some file, .ok exports :: later =>
          .inlined binding.name (file.resolve decl.source) exports.toList.length :: told file? rest later
        | _, _ => []
      else .skipped decl.source :: told file? rest given
    | _ => told file? rest given

/-- What the first walk over items tells: the provider is asked for the stylesheets one after another. -/
def toldOf (inliner : Inliner σ ε) (items : List Item) (memory : σ) : List Event :=
  told inliner.host.file? (importsOf items)
    (answers inliner.provider (requestsOf inliner (stylesheetImports items)) memory)

/-- Nothing is left out: all that is skipped among the imports is told of in its order, and something was found for
each import of a stylesheet. -/
structure ToldWhole (imports : List Import) (events : List Event) : Prop where
  skipped : events.filter (fun event => event.level = .trace) = imports.flatMap remarks
  found : (events.filter fun event => event.level = .debug).length =
    (imports.filter fun decl => (binding? decl).isSome).length

/-- An import is skipped when it binds just a default, of something else than a stylesheet. -/
theorem skipped_iff {decl : Import} :
    decl.role = .skipped ↔
      ∃ binding, decl.specifiers = [.byDefault binding] ∧ isStylesheetSource decl.source = false := by
  unfold Import.role
  constructor
  · intro skipped
    split at skipped
    · rename_i binding single
      cases accepted : isStylesheetSource decl.source
      · exact ⟨binding, single, rfl⟩
      · simp [accepted] at skipped
    · cases skipped
  · rintro ⟨binding, single, rejected⟩
    simp [single, rejected]

theorem told_other {decl : Import} (other : binding? decl = none) (file? : Option Path) (rest : List Import)
    (given : List (Except ε Exports)) :
    told file? (decl :: rest) given = remarks decl ++ told file? rest given := by
  cases role : decl.role with
  | stylesheet binding => simp [binding?, role] at other
  | skipped =>
    obtain ⟨binding, single, rejected⟩ := skipped_iff.mp role
    simp [told, single, rejected, remarks, role]
  | other =>
    rw [told]
    split
    · rename_i binding single
      simp only [Import.role, single] at role
      split at role <;> cases role
    · simp [remarks, role]

theorem told_stylesheet {decl : Import} {binding : Ident} (binds : binding? decl = some binding)
    (file? : Option Path) (rest : List Import) (given : List (Except ε Exports)) :
    told file? (decl :: rest) given =
      match file?, given with
      | some file, .ok exports :: later =>
        .inlined binding.name (file.resolve decl.source) exports.toList.length :: told file? rest later
      | _, _ => [] := by
  obtain ⟨single, accepted⟩ := specifiers_of_stylesheet binds
  simp only [told, single, accepted, ↓reduceIte]

theorem told_unanswered {decl : Import} {binding : Ident} (binds : binding? decl = some binding)
    (file? : Option Path) (rest : List Import) : told file? (decl :: rest) ([] : List (Except ε Exports)) = [] := by
  rw [told_stylesheet binds]
  cases file? <;> rfl

theorem stylesheet_of_request {inliner : Inliner σ ε} {source : String} {request : Request}
    (known : inliner.request source = .ok request) :
    ∃ file, inliner.host.file? = some file ∧ request.stylesheet = file.resolve source := by
  unfold Inliner.request at known
  split at known
  · cases known
  · cases known
  · rename_i file root there _
    cases known
    exact ⟨file, there, rfl⟩

theorem each_behind_found {inliner : Inliner σ ε} {decl : Import} {found : Option VarDecl}
    {journal reached : Journal σ} (inlined : inliner.inline decl journal = (.ok found, reached))
    (rest : List Import) : (inlineEach inliner (decl :: rest) journal).2 = (inlineEach inliner rest reached).2 := by
  rcases behind : inlineEach inliner rest reached with ⟨failure | others, after⟩ <;>
    simp only [inlineEach, inlined, behind]

theorem each_behind_fault {inliner : Inliner σ ε} {decl : Import} {fault : ImportFault ε}
    {journal reached : Journal σ} (inlined : inliner.inline decl journal = (.error fault, reached))
    (rest : List Import) : (inlineEach inliner (decl :: rest) journal).2 = reached := by
  simp only [inlineEach, inlined]

/-- Imports inlined one after another tell of themselves by what the provider answers to their requests. -/
theorem each_told (inliner : Inliner σ ε) (imports : List Import) (journal : Journal σ) :
    (inlineEach inliner imports journal).2.events = journal.events ++
      told inliner.host.file? imports (answers inliner.provider
        (requestsOf inliner (imports.filter fun decl => (binding? decl).isSome)) journal.memory) := by
  -- The journal is free in the induction: the answers behind an import come from the memory that it leaves.
  induction imports generalizing journal with
  | nil => simp [inlineEach, told]
  | cons decl rest ih =>
    cases binds : binding? decl with
    | none =>
      rw [inline_each_other binds, ih, told_other binds]
      simp [binds]
    | some binding =>
      have looked := inline_stylesheet binds inliner journal
      have stylesheet : (decl :: rest).filter (fun decl => (binding? decl).isSome) =
          decl :: rest.filter (fun decl => (binding? decl).isSome) := by simp [binds]
      rw [stylesheet]
      cases asked : inliner.request decl.source with
      | error fault =>
        simp only [asked] at looked
        rw [each_behind_fault looked, requests_of_unknown asked, answers, told_unanswered binds, List.append_nil]
      | ok request =>
        obtain ⟨file, known, resolved⟩ := stylesheet_of_request asked
        rw [requests_of_known asked, answers, told_stylesheet binds, known]
        rcases answered : inliner.provider.answer request journal.memory with ⟨fault | exports, reached⟩
        · simp only [asked, answered] at looked
          rw [each_behind_fault looked, List.append_nil]
        · simp only [asked, answered] at looked
          rw [each_behind_found looked, ih, known, resolved, Table.size_eq_length, List.append_assoc,
            List.singleton_append]

theorem told_whole_append {first second : List Import} {events later : List Event} (whole : ToldWhole first events)
    (behind : ToldWhole second later) : ToldWhole (first ++ second) (events ++ later) where
  skipped := by rw [List.filter_append, whole.skipped, behind.skipped, List.flatMap_append]
  found := by
    rw [List.filter_append, List.length_append, whole.found, behind.found, List.filter_append, List.length_append]

/-- An import that did not fail has told of itself. -/
theorem told_of_found {inliner : Inliner σ ε} {decl : Import} {before after : Journal σ} {found : Option VarDecl}
    (inlined : inliner.inline decl before = (.ok found, after)) :
    ∃ own, after.events = before.events ++ own ∧ ToldWhole [decl] own := by
  cases binds : binding? decl with
  | none =>
    rw [inline_other binds] at inlined
    cases inlined
    refine ⟨remarks decl, rfl, ?_, ?_⟩ <;> cases role : decl.role <;> simp [remarks, role, binds, Event.level]
  | some binding =>
    rw [inline_stylesheet binds] at inlined
    split at inlined
    · cases inlined
    · split at inlined <;> cases inlined
      refine ⟨_, rfl, ?_, ?_⟩ <;> simp [binds, remarks_of_stylesheet binds, Event.level]

/-- Of an import that fails nothing is told. -/
theorem events_of_fault {inliner : Inliner σ ε} {decl : Import} {before after : Journal σ} {fault : ImportFault ε}
    (stopped : inliner.inline decl before = (.error fault, after)) : after.events = before.events := by
  obtain ⟨binding, binds⟩ := stylesheet_of_fault stopped
  rw [inline_stylesheet binds] at stopped
  split at stopped
  · cases stopped
    rfl
  · split at stopped <;> cases stopped
    rfl

/-- A run of imports that all went well has told of each. -/
theorem each_told_whole {inliner : Inliner σ ε} {imports : List Import} {before after : Journal σ}
    {found : List VarDecl} (ran : inlineEach inliner imports before = (.ok found, after)) :
    ∃ events, after.events = before.events ++ events ∧ ToldWhole imports events := by
  induction imports generalizing before after found with
  | nil =>
    cases ran
    exact ⟨[], by simp, rfl, rfl⟩
  | cons decl rest ih =>
    obtain ⟨first, reached, others, inlined, behind, -⟩ := inline_each_cons_found ran
    obtain ⟨own, here, whole⟩ := told_of_found inlined
    obtain ⟨later, there, wholeBehind⟩ := ih behind
    refine ⟨own ++ later, ?_, told_whole_append whole wholeBehind⟩
    rw [there, here, List.append_assoc]

/-- A run tells in its first walk of what the imports come to, up to the first that fails, and tells nothing of that
one. After a success all that was skipped is told once more in the second walk, in the same order, and nothing else;
after a failure there is no second walk. -/
theorem told_in_two_walks (inliner : Inliner σ ε) (items : List Item) (journal : Journal σ) :
    match inliner.inlineAll items journal with
    | (.ok _, _, after) =>
      after.events = journal.events ++ toldOf inliner items journal.memory ++
          (toldOf inliner items journal.memory).filter (fun event => event.level = .trace) ∧
        ToldWhole (importsOf items) (toldOf inliner items journal.memory)
    | (.error failure, _, after) =>
      after.events = journal.events ++ toldOf inliner items journal.memory ∧
        ∃ passed decl later, importsOf items = passed ++ decl :: later ∧
          ToldWhole passed (toldOf inliner items journal.memory) ∧ (binding? decl).isSome ∧
          failure.span = decl.span ∧ failure.source = decl.source := by
  have told := each_told inliner (importsOf items) journal
  rcases ran : inliner.inlineAll items journal with ⟨failure | count, placed, after⟩
  · obtain ⟨-, looked⟩ := inline_all_failed ran
    rw [looked] at told
    obtain ⟨passed, decl, later, found, reached, fault, split, went, stopped, rfl⟩ := inline_each_failed looked
    obtain ⟨binding, binds⟩ := stylesheet_of_fault stopped
    obtain ⟨events, same, whole⟩ := each_told_whole went
    have silent : after.events = reached.events := events_of_fault stopped
    -- What was told up to the import that fails is all that is told of the whole list.
    have alike : events = toldOf inliner items journal.memory :=
      List.append_cancel_left (same.symm.trans (silent.symm.trans told))
    subst alike
    exact ⟨told, passed, decl, later, split, whole, by rw [binds]; rfl, rfl, rfl⟩
  · obtain ⟨found, reached, looked, -, rfl, -⟩ := inline_all_succeeded ran
    obtain ⟨events, same, whole⟩ := each_told_whole looked
    rw [looked] at told
    have alike : events = toldOf inliner items journal.memory := List.append_cancel_left (same.symm.trans told)
    subst alike
    refine ⟨?_, whole⟩
    rw [whole.skipped, ← same]
    rfl

end StyleInline.Course
