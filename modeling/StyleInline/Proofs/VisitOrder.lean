import Mathlib.Algebra.BigOperators.Group.List.Basic
import Mathlib.Data.List.Perm.Basic
import Mathlib.Data.Set.List
import StyleInline.Proofs.Account
import StyleInline.Proofs.SecondRun
import StyleInline.Proofs.Sharing

/-! One worker visits each of several programs once, in some order, with a provider whose answers depend on the
request alone. Then visits meet only in the total and in the failure that is kept: what a visit comes to can
be told from its program by itself. So every order succeeds where any does, and with the same outcome; only
which programs a failure leaves as they were hangs on the order. -/
namespace StyleInline.VisitOrder
open Session Traversal DocumentOrder Account SecondRun Sharing

variable {σ ε : Type}

/-- The answer to a request is the same whatever was asked before. A memory may still be kept. -/
def AnswersAlike (provider : Provider σ ε) : Prop :=
  ∀ request memory other, (provider.answer request memory).1 = (provider.answer request other).1

/-! ### A run by itself -/

theorem inline_alike {inliner : Inliner σ ε} (alike : AnswersAlike inliner.provider) (decl : Import)
    (first second : Journal σ) : (inliner.inline decl first).1 = (inliner.inline decl second).1 := by
  cases binds : binding? decl with
  | none => rw [inline_other binds, inline_other binds]
  | some binding =>
    rw [inline_stylesheet binds, inline_stylesheet binds]
    cases inliner.request decl.source with
    | error fault => rfl
    | ok request =>
      have same := alike request first.memory second.memory
      rcases here : inliner.provider.answer request first.memory with ⟨fault | exports, memory⟩ <;>
        rcases there : inliner.provider.answer request second.memory with ⟨other | others, next⟩ <;>
        simp_all

/-- A longer list is walked alike if its first item and the rest of it are. -/
theorem traverse_cons_alike {inliner : Inliner σ ε} {item : Item} {rest : List Item}
    (item_alike : ∀ first second, (traverseItem inliner item first).1 = (traverseItem inliner item second).1)
    (rest_alike : ∀ first second, (traverse inliner rest first).1 = (traverse inliner rest second).1)
    (first second : Journal σ) :
    (traverse inliner (item :: rest) first).1 = (traverse inliner (item :: rest) second).1 := by
  have same := item_alike first second
  simp only [Traversal.traverse]
  rcases here : traverseItem inliner item first with ⟨failure | ⟨count, placed⟩, reached⟩ <;>
    rcases there : traverseItem inliner item second with ⟨other | ⟨more, others⟩, after⟩ <;>
    simp only [here, there, Except.error.injEq, Except.ok.injEq, Prod.mk.injEq, reduceCtorEq] at same
  · rw [same]
  · obtain ⟨rfl, rfl⟩ := same
    have behind := rest_alike reached after
    rcases ahead : traverse inliner rest reached with ⟨stopped | ⟨n, left⟩, final⟩ <;>
      rcases beside : traverse inliner rest after with ⟨halted | ⟨m, kept⟩, last⟩ <;>
      simp_all

theorem traverse_alike {inliner : Inliner σ ε} (alike : AnswersAlike inliner.provider) (items : List Item) :
    ∀ first second, (traverse inliner items first).1 = (traverse inliner items second).1 := by
  induction items using items_induction with
  | nil => exact fun _ _ => rfl
  | importDecl decl rest ih =>
    refine traverse_cons_alike (fun first second => ?_) ih
    have same := inline_alike alike decl first second
    simp only [traverseItem]
    rcases here : inliner.inline decl first with ⟨fault | found | found, reached⟩ <;>
      rcases there : inliner.inline decl second with ⟨other | others | others, after⟩ <;>
      simp_all
  | moduleBlock header inner items rest inside ih =>
    refine traverse_cons_alike (fun first second => ?_) ih
    have same := inside first second
    simp only [traverseItem]
    rcases here : traverse inliner items first with ⟨failure | ⟨count, placed⟩, reached⟩ <;>
      rcases there : traverse inliner items second with ⟨other | ⟨more, others⟩, after⟩ <;>
      simp_all
  | plain item rest plain ih =>
    refine traverse_cons_alike (fun first second => ?_) ih
    cases item <;> first | rfl | exact plain.elim

/-- Where a run starts from makes no difference to its answer and to the items it leaves. -/
theorem inline_all_alike {inliner : Inliner σ ε} (alike : AnswersAlike inliner.provider) (items : List Item)
    (first second : Journal σ) :
    (inliner.inlineAll items first).1 = (inliner.inlineAll items second).1 ∧
      (inliner.inlineAll items first).2.1 = (inliner.inlineAll items second).2.1 := by
  have same := traverse_alike alike items first second
  have here := inline_all_walked inliner items first
  have there := inline_all_walked inliner items second
  rw [same] at here
  cases told : (traverse inliner items second).1 with
  | error failure =>
    rw [told] at here there
    exact ⟨here.1.trans there.1.symm, here.2.trans there.2.symm⟩
  | ok walked =>
    rw [told] at here there
    exact ⟨here.1.trans there.1.symm, here.2.trans there.2.symm⟩

theorem worth_alike {inliner : Inliner σ ε} (alike : AnswersAlike inliner.provider) (program : Program)
    (first second : Journal σ) : worth inliner program first = worth inliner program second := by
  cases program with
  | script body => rfl
  | module items => exact (inline_all_alike alike items first second).1

theorem leaves_alike {inliner : Inliner σ ε} (alike : AnswersAlike inliner.provider) (program : Program)
    (first second : Journal σ) : leaves inliner program first = leaves inliner program second := by
  cases program with
  | script body => rfl
  | module items => exact congrArg Program.module (inline_all_alike alike items first second).2

/-! ### One order -/

/-- A single worker with this tally among the programs. -/
def soleWorker (inliner : Inliner σ ε) (tally : Tally ε) (journal : Journal σ) (programs : List Program) :
    Session σ ε :=
  ⟨[⟨inliner, tally, journal.memory⟩], programs, journal.events⟩

/-- The worker starts afresh and visits the programs with these numbers, one after another. -/
def tour (inliner : Inliner σ ε) (journal : Journal σ) (programs : List Program) (order : List Nat) :
    Session σ ε :=
  (soleWorker inliner .fresh journal programs).run (order.map (.visit 0))

/-- What the worker answers when it is asked for its result. -/
def result (session : Session σ ε) : Option (Answer ε) :=
  (session.step (.finish 0)).1

/-- What the program with this number comes to by itself. -/
def worthAt (inliner : Inliner σ ε) (start : Journal σ) (programs : List Program) (i : Nat) :
    Option (Except (Failure ε) Nat) :=
  programs[i]?.map fun program => worth inliner program start

/-- The programs, those with the numbers `done` each as a run by itself leaves it. -/
def inlinedAt (inliner : Inliner σ ε) (start : Journal σ) (programs : List Program) (done : List Nat) :
    List Program :=
  programs.mapIdx fun i program => if i ∈ done then leaves inliner program start else program

theorem inlined_at_none (inliner : Inliner σ ε) (start : Journal σ) (programs : List Program) :
    inlinedAt inliner start programs [] = programs := by
  apply List.ext_getElem?
  intro i
  simp [inlinedAt, List.getElem?_mapIdx]

/-- A program that is not visited again may be exchanged first. -/
theorem inlined_at_cons {i : Nat} {programs : List Program} {program : Program} {done : List Nat}
    (there : programs[i]? = some program) (once : i ∉ done) (inliner : Inliner σ ε) (start : Journal σ) :
    inlinedAt inliner start (programs.set i (leaves inliner program start)) done =
      inlinedAt inliner start programs (i :: done) := by
  obtain ⟨bound, same⟩ := List.getElem?_eq_some_iff.mp there
  apply List.ext_getElem?
  intro j
  simp only [inlinedAt, List.getElem?_mapIdx, List.mem_cons]
  by_cases here : i = j
  · subst here
    simp [bound, same, once]
  · have apart : ¬ j = i := fun equal => here equal.symm
    simp [List.getElem?_set_ne here, apart]

theorem run_cons (session : Session σ ε) (first : Step) (rest : List Step) :
    session.run (first :: rest) = (session.step first).2.run rest := rfl

/-- The next program is visited and put back as the visit leaves it. -/
theorem step_sole_worker {inliner : Inliner σ ε} {held tally : Tally ε} {journal reached : Journal σ}
    {programs : List Program} {i : Nat} {program left : Program} (there : programs[i]? = some program)
    (went : inliner.visit program held journal = (left, tally, reached)) :
    ((soleWorker inliner held journal programs).step (.visit 0 i)).2 =
      soleWorker inliner tally reached (programs.set i left) := by
  have here : (soleWorker inliner held journal programs).workers[0]? = some ⟨inliner, held, journal.memory⟩ := rfl
  rw [step_visit here there went]
  rfl

/-- Behind a failure nothing is changed by going on. -/
theorem run_latched (inliner : Inliner σ ε) (total : Nat) (failure : Failure ε) (journal : Journal σ)
    (programs : List Program) (order : List Nat) :
    (soleWorker inliner ⟨total, some failure⟩ journal programs).run (order.map (.visit 0)) =
      soleWorker inliner ⟨total, some failure⟩ journal programs := by
  induction order with
  | nil => rfl
  | cons i rest ih =>
    have idle : ((soleWorker inliner ⟨total, some failure⟩ journal programs).step (.visit 0 i)).2 =
        soleWorker inliner ⟨total, some failure⟩ journal programs := by
      cases there : programs[i]? with
      | none => simp [soleWorker, Session.step, there]
      | some program => rw [step_sole_worker there (visit_latched rfl inliner program journal), set_same there]
    rw [List.map_cons, run_cons, idle, ih]

/-- The worker has inlined into the programs it came to, and either none was left to visit or the next one
failed. -/
inductive Toured (inliner : Inliner σ ε) (start : Journal σ) (programs : List Program) (total : Nat) :
    List Nat → Session σ ε → Prop where
  | through {order counts : List Nat} (journal : Journal σ)
      (worths : order.map (worthAt inliner start programs) = counts.map fun count => some (.ok count)) :
      Toured inliner start programs total order
        (soleWorker inliner ⟨total + counts.sum, none⟩ journal (inlinedAt inliner start programs order))
  | stopped {passed counts : List Nat} {failing : Nat} {later : List Nat} {failure : Failure ε}
      (journal : Journal σ)
      (worths : passed.map (worthAt inliner start programs) = counts.map fun count => some (.ok count))
      (fails : worthAt inliner start programs failing = some (.error failure)) :
      Toured inliner start programs total (passed ++ failing :: later)
        (soleWorker inliner ⟨total + counts.sum, some failure⟩ journal (inlinedAt inliner start programs passed))

/-- A tour that begins with a program that counts. The rest of it never meets that program again, so its
other programs are worth what they were worth before. -/
theorem toured_cons {inliner : Inliner σ ε} {start : Journal σ} {programs : List Program}
    {program : Program} {i count total : Nat} {order : List Nat} {after : Session σ ε}
    (there : programs[i]? = some program) (new : i ∉ order)
    (succeeds : worth inliner program start = .ok count)
    (behind : Toured inliner start (programs.set i (leaves inliner program start)) (total + count) order
      after) :
    Toured inliner start programs total (i :: order) after := by
  have here : worthAt inliner start programs i = some (.ok count) := by
    rw [worthAt, there, Option.map_some, succeeds]
  have others : ∀ {done : List Nat}, i ∉ done →
      done.map (worthAt inliner start (programs.set i (leaves inliner program start))) =
        done.map (worthAt inliner start programs) := by
    intro done apart
    apply List.map_congr_left
    intro j member
    have different : i ≠ j := fun same => apart (same ▸ member)
    rw [worthAt, worthAt, List.getElem?_set_ne different]
  cases behind with
  | @through _ counts journal worths =>
    have worthsHere : (i :: order).map (worthAt inliner start programs) =
        (count :: counts).map fun count => some (.ok count) := by
      rw [List.map_cons, here, ← others new, worths, List.map_cons]
    have done := @Toured.through σ ε inliner start programs total _ _ journal worthsHere
    rwa [← inlined_at_cons there new, List.sum_cons, ← Nat.add_assoc] at done
  | @stopped passed counts failing later failure journal worths fails =>
    have newPassed : i ∉ passed := fun member => new (List.mem_append_left _ member)
    have different : i ≠ failing := fun same => new (by simp [same])
    rw [worthAt, List.getElem?_set_ne different] at fails
    have worthsHere : (i :: passed).map (worthAt inliner start programs) =
        (count :: counts).map fun count => some (.ok count) := by
      rw [List.map_cons, here, ← others newPassed, worths, List.map_cons]
    have done := @Toured.stopped σ ε inliner start programs total _ _ _ later _ journal worthsHere fails
    rwa [← inlined_at_cons there newPassed, List.sum_cons, ← Nat.add_assoc] at done

/-- However far a tour has come, it goes on as the programs that are left have it by themselves. -/
theorem tour_from {inliner : Inliner σ ε} (alike : AnswersAlike inliner.provider) (start : Journal σ)
    {order : List Nat} {programs : List Program} (once : order.Nodup)
    (inside : ∀ i ∈ order, i < programs.length) (total : Nat) (journal : Journal σ) :
    Toured inliner start programs total order
      ((soleWorker inliner ⟨total, none⟩ journal programs).run (order.map (.visit 0))) := by
  induction order generalizing programs total journal with
  | nil =>
    have done := @Toured.through σ ε inliner start programs total [] [] journal rfl
    rwa [inlined_at_none] at done
  | cons i rest ih =>
    obtain ⟨new, onceLater⟩ := List.nodup_cons.mp once
    obtain ⟨program, there⟩ : ∃ program, programs[i]? = some program :=
      ⟨_, List.getElem?_eq_getElem (inside i (by simp))⟩
    have sameWorth := worth_alike alike program start journal
    rw [List.map_cons, run_cons]
    cases answer : worth inliner program start with
    | error failure =>
      have fails : worthAt inliner start programs i = some (.error failure) := by
        rw [worthAt, there, Option.map_some, answer]
      obtain ⟨reached, went⟩ := visit_fails (sameWorth.symm.trans answer) total
      rw [step_sole_worker there went, set_same there, run_latched]
      have done := @Toured.stopped σ ε inliner start programs total [] [] i rest failure reached rfl fails
      rwa [inlined_at_none] at done
    | ok count =>
      obtain ⟨reached, went⟩ := visit_counts (sameWorth.symm.trans answer) total
      rw [leaves_alike alike program journal start] at went
      rw [step_sole_worker there went]
      refine toured_cons there new answer (ih onceLater (fun j member => ?_) (total + count) reached)
      rw [List.length_set]
      exact inside j (List.mem_cons_of_mem _ member)

/-! ### Any two orders -/

/-- The outcome of a tour, told by what each program comes to by itself. With a failure the programs before the
first that fails are inlined into, and that one and all behind it are as they were. -/
structure AsByThemselves (inliner : Inliner σ ε) (start : Journal σ) (programs : List Program)
    (order : List Nat) (after : Session σ ε) : Prop where
  total : ∀ total, result after = some (.finished (.ok total)) ↔
    ∃ counts : List Nat, programs.map (fun program => worth inliner program start) = counts.map .ok ∧
      counts.sum = total
  inlined : ∀ total, result after = some (.finished (.ok total)) →
    after.programs = programs.map fun program => leaves inliner program start
  failed : (¬ ∃ total, result after = some (.finished (.ok total))) →
    ∃ passed failing later failure, order = passed ++ failing :: later ∧
      result after = some (.finished (.error failure)) ∧
      (∀ i ∈ passed, ∃ count, worthAt inliner start programs i = some (.ok count)) ∧
      worthAt inliner start programs failing = some (.error failure) ∧
      (∀ i ∈ passed, after.programs[i]? = programs[i]?.map fun program => leaves inliner program start) ∧
      ∀ i ∈ failing :: later, after.programs[i]? = programs[i]?

/-- What the programs of a whole order come to is what the programs come to, up to their order. -/
theorem worths_perm {order : List Nat} {programs : List Program}
    (each : order.Perm (List.range programs.length)) (inliner : Inliner σ ε) (start : Journal σ) :
    (order.map (worthAt inliner start programs)).Perm
      ((programs.map fun program => worth inliner program start).map some) := by
  have listed : (List.range programs.length).map (worthAt inliner start programs) =
      (programs.map fun program => worth inliner program start).map some := by
    apply List.ext_getElem?
    intro i
    by_cases bound : i < programs.length
    · simp [worthAt, bound]
    · simp [bound]
  rw [← listed]
  exact each.map _

/-- When a whole order counts, so do the programs, and to the same sum. -/
theorem counts_of_order {order counts : List Nat} {programs : List Program} {inliner : Inliner σ ε}
    {start : Journal σ} (each : order.Perm (List.range programs.length))
    (worths : order.map (worthAt inliner start programs) = counts.map fun count => some (.ok count)) :
    ∃ listed : List Nat, programs.map (fun program => worth inliner program start) = listed.map .ok ∧
      listed.sum = counts.sum := by
  have perm := worths_perm each inliner start
  rw [worths] at perm
  have counted : ∀ answer ∈ programs.map (fun program => worth inliner program start),
      answer ∈ Set.range (Except.ok : Nat → Except (Failure ε) Nat) := by
    intro answer member
    obtain ⟨count, _, same⟩ := List.mem_map.mp (perm.mem_iff.mpr (List.mem_map_of_mem member))
    exact ⟨count, Option.some.inj same⟩
  obtain ⟨listed, same⟩ : programs.map (fun program => worth inliner program start) ∈
      Set.range (List.map Except.ok) := by
    rw [Set.range_list_map]
    exact counted
  refine ⟨listed, same.symm, ?_⟩
  rw [← same, List.map_map] at perm
  have injective : Function.Injective fun count : Nat => some (Except.ok count : Except (Failure ε) Nat) :=
    fun _ _ equal => Except.ok.inj (Option.some.inj equal)
  exact ((List.map_perm_map_iff injective).mp perm).sum_eq.symm

/-- A program that fails by itself is not worth any count. -/
theorem not_counted_of_failing {order : List Nat} {programs : List Program} {inliner : Inliner σ ε}
    {start : Journal σ} {failing : Nat} {failure : Failure ε}
    (each : order.Perm (List.range programs.length)) (member : failing ∈ order)
    (fails : worthAt inliner start programs failing = some (.error failure)) (counts : List Nat) :
    programs.map (fun program => worth inliner program start) ≠ counts.map .ok := by
  intro counted
  have listed := (worths_perm each inliner start).mem_iff.mp (List.mem_map_of_mem member)
  rw [fails, counted, List.map_map] at listed
  obtain ⟨count, _, same⟩ := List.mem_map.mp listed
  cases same

/-- A tour to its end, in which every program of a whole order counted. -/
theorem as_of_through {inliner : Inliner σ ε} {start : Journal σ} {order counts : List Nat} {programs : List Program}
    (each : order.Perm (List.range programs.length)) (journal : Journal σ)
    (worths : order.map (worthAt inliner start programs) = counts.map fun count => some (.ok count)) :
    AsByThemselves inliner start programs order
      (soleWorker inliner ⟨counts.sum, none⟩ journal (inlinedAt inliner start programs order)) := by
  obtain ⟨inOrder, counted, sum⟩ := counts_of_order each worths
  have answer : result (soleWorker inliner ⟨counts.sum, none⟩ journal (inlinedAt inliner start programs order)) =
      some (.finished (.ok counts.sum)) := rfl
  refine ⟨fun total => ?_, fun total _ => ?_, fun never => (never ⟨_, answer⟩).elim⟩
  · rw [answer]
    constructor
    · intro same
      cases same
      exact ⟨inOrder, counted, sum⟩
    · rintro ⟨others, counts_too, rfl⟩
      have same := List.map_injective_iff.mpr (fun _ _ => Except.ok.inj) (counted.symm.trans counts_too)
      rw [← same, sum]
  · have listed : ∀ i, i ∈ order ↔ i < programs.length := fun i => each.mem_iff.trans List.mem_range
    apply List.ext_getElem?
    intro i
    by_cases bound : i < programs.length
    · simp [soleWorker, inlinedAt, bound, (listed i).mpr bound]
    · simp [soleWorker, inlinedAt, bound]

/-- A tour that a program of a whole order stopped. -/
theorem as_of_stopped {inliner : Inliner σ ε} {start : Journal σ} {passed counts : List Nat} {failing : Nat}
    {later : List Nat} {failure : Failure ε} {programs : List Program}
    (each : (passed ++ failing :: later).Perm (List.range programs.length)) (total : Nat) (journal : Journal σ)
    (worths : passed.map (worthAt inliner start programs) = counts.map fun count => some (.ok count))
    (fails : worthAt inliner start programs failing = some (.error failure)) :
    AsByThemselves inliner start programs (passed ++ failing :: later)
      (soleWorker inliner ⟨total, some failure⟩ journal (inlinedAt inliner start programs passed)) := by
  have answer : result (soleWorker inliner ⟨total, some failure⟩ journal (inlinedAt inliner start programs passed)) =
      some (.finished (.error failure)) := rfl
  have once : (passed ++ failing :: later).Nodup := each.nodup_iff.mpr List.nodup_range
  have apart := (List.nodup_append.mp once).2.2
  refine ⟨fun total => ?_, fun total same => ?_, fun _ => ⟨passed, failing, later, failure, rfl, answer, ?_,
    fails, ?_, ?_⟩⟩
  · rw [answer]
    constructor
    · intro same
      cases same
    · rintro ⟨others, counted, _⟩
      exact (not_counted_of_failing each (by simp) fails others counted).elim
  · rw [answer] at same
    cases same
  · intro i among
    have held := List.mem_map_of_mem (f := worthAt inliner start programs) among
    rw [worths] at held
    obtain ⟨count, _, same⟩ := List.mem_map.mp held
    exact ⟨count, same.symm⟩
  · intro i among
    simp [soleWorker, inlinedAt, List.getElem?_mapIdx, among]
  · intro i among
    have outside : i ∉ passed := fun before => apart i before i among rfl
    simp [soleWorker, inlinedAt, List.getElem?_mapIdx, outside]

/-- A tour over a whole order ends as its programs by themselves have it. -/
theorem as_by_themselves {inliner : Inliner σ ε} (alike : AnswersAlike inliner.provider) (start : Journal σ)
    {order : List Nat} {programs : List Program} (each : order.Perm (List.range programs.length)) :
    AsByThemselves inliner start programs order (tour inliner start programs order) := by
  have once : order.Nodup := each.nodup_iff.mpr List.nodup_range
  have inside : ∀ i ∈ order, i < programs.length := fun i member => List.mem_range.mp (each.mem_iff.mp member)
  have ended : Toured inliner start programs 0 order (tour inliner start programs order) :=
    tour_from alike start once inside 0 start
  generalize tour inliner start programs order = after at ended ⊢
  cases ended with
  | through journal worths =>
    rw [Nat.zero_add]
    exact as_of_through each journal worths
  | stopped journal worths fails => exact as_of_stopped each _ journal worths fails

/-- Any two orders in which one worker visits each program once succeed or fail together: they succeed exactly
when every program by itself does. Then both come to the same total and leave every program as it would be by
itself. Otherwise each order leaves the programs before the first one that fails as they would be by
themselves, and that one and all behind it as they were. -/
theorem orders_agree (inliner : Inliner σ ε) (alike : AnswersAlike inliner.provider) (start : Journal σ)
    (programs : List Program) (order other : List Nat) (each : order.Perm (List.range programs.length))
    (again : other.Perm (List.range programs.length)) :
    AsByThemselves inliner start programs order (tour inliner start programs order) ∧
      AsByThemselves inliner start programs other (tour inliner start programs other) ∧
      ∀ total, result (tour inliner start programs order) = some (.finished (.ok total)) →
        result (tour inliner start programs other) = some (.finished (.ok total)) ∧
        (tour inliner start programs order).programs = (tour inliner start programs other).programs := by
  have here := as_by_themselves alike start each
  have there := as_by_themselves alike start again
  refine ⟨here, there, fun total succeeds => ?_⟩
  have likewise := (there.total total).mpr ((here.total total).mp succeeds)
  exact ⟨likewise, (here.inlined total succeeds).trans (there.inlined total likewise).symm⟩

/-- An inliner whose provider has exports for one stylesheet only and counts how often it is asked. -/
def picky : Inliner Nat String where
  root? := some ⟨"/app"⟩
  host := .forFile ⟨"/app/Card.tsx"⟩
  provider := ⟨fun request count =>
    (if request.stylesheet.text = "/app/Card.module.css" then .ok (.ofList [("card", "x1_card")])
      else .error request.stylesheet.text, count + 1)⟩

def lostImport : Item :=
  .importDecl ⟨"../Lost.module.css", [.byDefault ⟨"lost", .between 7 11, 1, false⟩], false, .evaluation, none,
    .between 0 40⟩

/-- Two modules, of which the second has an import that fails behind one that does not. -/
def twoModules : List Program :=
  [.module [cardImport], .module (dotted cardImport ++ [lostImport])]

theorem order_decides_what_is_left :
    AnswersAlike picky.provider ∧
      [0, 1].Perm (List.range twoModules.length) ∧ [1, 0].Perm (List.range twoModules.length) ∧
      (tour picky ⟨0, []⟩ twoModules [0, 1]).programs =
        [.module [cardConstant], .module (dotted cardImport ++ [lostImport])] ∧
      (tour picky ⟨0, []⟩ twoModules [1, 0]).programs = twoModules ∧
      AsByThemselves picky ⟨0, []⟩ twoModules [0, 1] (tour picky ⟨0, []⟩ twoModules [0, 1]) ∧
      AsByThemselves picky ⟨0, []⟩ twoModules [1, 0] (tour picky ⟨0, []⟩ twoModules [1, 0]) := by
  have alike : AnswersAlike picky.provider := fun _ _ _ => rfl
  have each : [0, 1].Perm (List.range twoModules.length) := by decide
  have again : [1, 0].Perm (List.range twoModules.length) := by decide
  have agreed := orders_agree picky alike ⟨0, []⟩ twoModules [0, 1] [1, 0] each again
  exact ⟨alike, each, again, rfl, rfl, agreed.1, agreed.2.1⟩

end StyleInline.VisitOrder
