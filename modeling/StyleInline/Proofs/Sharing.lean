import Mathlib.Data.List.Induction
import StyleInline.Inlining.Session
import StyleInline.Proofs.Account
import StyleInline.Proofs.SecondRun

/-! Programs shared by several workers. The steps may come in any order, the workers may hold failures, and
their providers may answer by what they were asked before; still a program is never half done and never
done twice. The first run over it that succeeds takes it as it was at first and leaves nothing for any later
one, so what all the steps report of it adds up to the imports that it had. -/
namespace StyleInline.Sharing
open Session Traversal DocumentOrder Account SecondRun

variable {σ ε : Type}

/-- The imports that a step reports as inlined into program `p`. A visit that ends without a failure reports
how far it has raised its worker's total, and a run outside the tally reports its answer. -/
def reportedBy (session : Session σ ε) (p : Nat) (step : Step) : Int :=
  match step, (session.step step).1 with
  | .visit w q, some (.visited ⟨total, none⟩) =>
    if q = p then total - ((session.workers[w]?.map fun worker => worker.tally.inlined).getD 0 : Nat) else 0
  | .inlineAll _ q, some (.changed (.ok count)) => if q = p then count else 0
  | _, _ => 0

/-- What a list of steps reports of program `p`, taken together. -/
def reported (session : Session σ ε) (p : Nat) : List Step → Int
  | [] => 0
  | step :: rest => reportedBy session p step + reported (session.step step).2 p rest

/-- At this step worker `w` runs over program `p` as it stands, and the run succeeds. -/
structure Inlines (session : Session σ ε) (step : Step) (p w : Nat) (inliner : Inliner σ ε)
    (items placed : List Item) (count : Nat) : Prop where
  asked : step = .visit w p ∨ step = .inlineAll w p
  found : session.programs[p]? = some (.module items)
  ran : ∃ worker after, session.workers[w]? = some worker ∧ worker.inliner = inliner ∧
    inliner.inlineAll items (session.journalOf worker) = (.ok count, placed, after)

/-! ### One step -/

/-- A visit leaves the program and the count alone, or it is a run that succeeded on a module. -/
theorem visit_cases (inliner : Inliner σ ε) (program : Program) (tally : Tally ε) (start : Journal σ) :
    (∃ after reached, inliner.visit program tally start = (program, after, reached) ∧
      after.inlined = tally.inlined) ∨
    ∃ items placed count reached, program = .module items ∧
      inliner.inlineAll items start = (.ok count, placed, reached) ∧
      inliner.visit program tally start = (.module placed, ⟨tally.inlined + count, none⟩, reached) := by
  obtain ⟨total, failure⟩ := tally
  cases failure with
  | some failure => exact .inl ⟨_, _, visit_latched rfl inliner program start, rfl⟩
  | none =>
    cases program with
    | script body => exact .inl ⟨_, _, visit_script inliner body _ start, rfl⟩
    | module items =>
      rcases ran : inliner.inlineAll items start with ⟨failure | count, placed, reached⟩
      · have fails : worth inliner (.module items) start = .error failure := by rw [worth, ran]
        obtain ⟨after, went⟩ := visit_fails fails total
        exact .inl ⟨_, after, went, rfl⟩
      · refine .inr ⟨items, placed, count, reached, rfl, ran, ?_⟩
        simp only [Inliner.visit, ran]

theorem step_visit {session : Session σ ε} {w q : Nat} {worker : Worker σ ε} {program left : Program}
    {tally : Tally ε} {reached : Journal σ} (here : session.workers[w]? = some worker)
    (found : session.programs[q]? = some program)
    (went : worker.inliner.visit program worker.tally (session.journalOf worker) = (left, tally, reached)) :
    session.step (.visit w q) =
      (some (.visited tally), (session.record w { worker with tally := tally } reached).setProgram q left) := by
  simp only [Session.step, here, found, went]

theorem step_inline_all {session : Session σ ε} {w q : Nat} {worker : Worker σ ε}
    {items placed : List Item} {result : Except (Failure ε) Nat} {reached : Journal σ}
    (here : session.workers[w]? = some worker) (found : session.programs[q]? = some (.module items))
    (ran : worker.inliner.inlineAll items (session.journalOf worker) = (result, placed, reached)) :
    session.step (.inlineAll w q) =
      (some (.changed result), (session.record w worker reached).setProgram q (.module placed)) := by
  simp only [Session.step, here, found, ran]

/-- A program that is put back as it was found is as it was. -/
theorem set_same {programs : List Program} {i : Nat} {program : Program}
    (there : programs[i]? = some program) : programs.set i program = programs := by
  obtain ⟨bound, same⟩ := List.getElem?_eq_some_iff.mp there
  rw [← same, List.set_getElem_self]

/-- Either a step leaves all programs as they are and reports nothing, or it is a run over one of them that
succeeds: that program is exchanged, and the step reports the count of that run, of that program alone. -/
def Effect (session : Session σ ε) (step : Step) : Prop :=
  ((session.step step).2.programs = session.programs ∧ ∀ p, reportedBy session p step = 0) ∨
    ∃ q w inliner items placed count, Inlines session step q w inliner items placed count ∧
      (session.step step).2.programs = session.programs.set q (.module placed) ∧
      ∀ p, reportedBy session p step = if q = p then (count : Int) else 0

/-- A visit reports by the worker's tally, from which what was counted before is taken away. -/
theorem effect_visit (session : Session σ ε) (w q : Nat) : Effect session (.visit w q) := by
  cases here : session.workers[w]? with
  | none => exact .inl (by simp [Session.step, reportedBy, here])
  | some worker =>
    cases found : session.programs[q]? with
    | none => exact .inl (by simp [Session.step, reportedBy, here, found])
    | some program =>
      rcases visit_cases worker.inliner program worker.tally (session.journalOf worker) with
        ⟨⟨total, failure⟩, reached, went, same⟩ | ⟨items, placed, count, reached, rfl, ran, went⟩
      · have stepped := step_visit here found went
        refine .inl ⟨?_, fun p => ?_⟩
        · rw [stepped]
          exact set_same found
        · cases same
          cases failure <;> simp [reportedBy, stepped, here]
      · have stepped := step_visit here found went
        have inlines : Inlines session (.visit w q) q w worker.inliner items placed count :=
          ⟨.inl rfl, found, worker, reached, here, rfl, ran⟩
        refine .inr ⟨q, w, worker.inliner, items, placed, count, inlines, ?_, fun p => ?_⟩
        · rw [stepped]
          rfl
        · simp only [reportedBy, stepped, here, Option.map_some, Option.getD_some]
          split
          · omega
          · rfl

/-- A run that is asked for by itself reports its own count. -/
theorem effect_inline_all (session : Session σ ε) (w q : Nat) : Effect session (.inlineAll w q) := by
  cases here : session.workers[w]? with
  | none => exact .inl (by simp [Session.step, reportedBy, here])
  | some worker =>
    cases found : session.programs[q]? with
    | none => exact .inl (by simp [Session.step, reportedBy, here, found])
    | some program =>
      cases program with
      | script body => exact .inl (by simp [Session.step, reportedBy, here, found])
      | module items =>
        rcases ran : worker.inliner.inlineAll items (session.journalOf worker) with
          ⟨failure | count, placed, reached⟩
        · have stepped := step_inline_all here found ran
          obtain ⟨rfl, _⟩ := inline_all_failed ran
          refine .inl ⟨?_, fun p => by simp only [reportedBy, stepped]⟩
          rw [stepped]
          exact set_same found
        · have stepped := step_inline_all here found ran
          have inlines : Inlines session (.inlineAll w q) q w worker.inliner items placed count :=
            ⟨.inr rfl, found, worker, reached, here, rfl, ran⟩
          refine .inr ⟨q, w, worker.inliner, items, placed, count, inlines, ?_, fun p => ?_⟩
          · rw [stepped]
            rfl
          · simp only [reportedBy, stepped]

/-- To inline a single import shows what would come of it, and to finish takes an account: neither is told to a
program. -/
theorem step_effect (session : Session σ ε) (step : Step) : Effect session step := by
  cases step with
  | visit w q => exact effect_visit session w q
  | inlineAll w q => exact effect_inline_all session w q
  | inline w q place =>
    refine .inl ⟨?_, fun p => rfl⟩
    simp only [Session.step]
    split
    · split <;> rfl
    · rfl
  | finish w =>
    refine .inl ⟨?_, fun p => rfl⟩
    simp only [Session.step]
    split <;> rfl

/-- What a step can do to program `p`. -/
theorem step_cases (session : Session σ ε) (step : Step) (p : Nat) :
    ((session.step step).2.programs[p]? = session.programs[p]? ∧ reportedBy session p step = 0) ∨
    ∃ w inliner items placed count, Inlines session step p w inliner items placed count ∧
      (session.step step).2.programs[p]? = some (.module placed) ∧
      reportedBy session p step = count := by
  rcases step_effect session step with ⟨same, silent⟩ |
    ⟨q, w, inliner, items, placed, count, inlines, exchanged, told⟩
  · exact .inl ⟨by rw [same], silent p⟩
  · obtain ⟨bound, _⟩ := List.getElem?_eq_some_iff.mp inlines.found
    by_cases named : q = p
    · subst named
      refine .inr ⟨w, inliner, items, placed, count, inlines, ?_, by rw [told, if_pos rfl]⟩
      rw [exchanged, List.getElem?_set_self bound]
    · refine .inl ⟨?_, by rw [told, if_neg named]⟩
      rw [exchanged, List.getElem?_set_ne named]

/-- No step puts another inliner in a worker's place. -/
theorem step_inliners (session : Session σ ε) (step : Step) :
    (session.step step).2.workers.map Worker.inliner = session.workers.map Worker.inliner := by
  have kept : ∀ {w : Nat} {worker next : Worker σ ε}, session.workers[w]? = some worker →
      next.inliner = worker.inliner →
      (session.workers.set w next).map Worker.inliner = session.workers.map Worker.inliner := by
    intro w worker next here same
    obtain ⟨bound, at_w⟩ := List.getElem?_eq_some_iff.mp here
    apply List.ext_getElem?
    intro v
    by_cases named : w = v
    · subst named
      simp [bound, at_w, same]
    · simp [List.getElem?_set_ne named]
  cases step with
  | visit w q =>
    simp only [Session.step]
    split
    · rename_i worker program here found
      exact kept here rfl
    · rfl
  | inlineAll w q =>
    simp only [Session.step]
    split
    · rename_i worker items here found
      exact kept here rfl
    · rfl
  | inline w q place =>
    simp only [Session.step]
    split
    · rename_i worker items here found
      split
      · exact kept here rfl
      · rfl
    · rfl
  | finish w =>
    simp only [Session.step]
    split
    · rename_i worker here
      exact kept here rfl
    · rfl

/-! ### Any number of steps -/

theorem run_snoc (session : Session σ ε) (steps : List Step) (step : Step) :
    session.run (steps ++ [step]) = ((session.run steps).step step).2 := by
  simp [Session.run]

theorem reported_snoc (session : Session σ ε) (p : Nat) (steps : List Step) (step : Step) :
    reported session p (steps ++ [step]) =
      reported session p steps + reportedBy (session.run steps) p step := by
  induction steps generalizing session with
  | nil => simp [reported, Session.run]
  | cons first rest ih =>
    have behind := ih (session.step first).2
    simp only [List.cons_append, reported, behind]
    rw [Int.add_assoc]
    rfl

theorem run_inliners (session : Session σ ε) (steps : List Step) :
    (session.run steps).workers.map Worker.inliner = session.workers.map Worker.inliner := by
  induction steps using List.reverseRecOn with
  | nil => rfl
  | append_singleton steps step ih => rw [run_snoc, step_inliners, ih]

/-- Whatever is done with shared programs by whichever workers, every program is as it was at first, and the
steps report nothing of it; or one run of one worker's inliner, over the program as it was at first, has
left it as it is, and the steps report the imports of stylesheets that it had at first, all of them and none
twice. -/
theorem inlined_whole_and_once (session : Session σ ε) (steps : List Step) (p : Nat) :
    ((session.run steps).programs[p]? = session.programs[p]? ∧ reported session p steps = 0) ∨
    ∃ earlier step later w inliner items placed count, steps = earlier ++ step :: later ∧
      session.workers[w]?.map Worker.inliner = some inliner ∧
      session.programs[p]? = some (.module items) ∧
      Inlines (session.run earlier) step p w inliner items placed count ∧
      (session.run steps).programs[p]? = some (.module placed) ∧
      reported session p steps = count ∧ count = (stylesheetImports items).length := by
  induction steps using List.reverseRecOn with
  | nil => exact .inl ⟨rfl, rfl⟩
  | append_singleton steps next ih =>
    rw [run_snoc, reported_snoc]
    rcases ih with ⟨same, silent⟩ | ⟨earlier, step, later, w, inliner, items, placed, count, split,
      worker, first, inlines, held, told, whole⟩
    · rcases step_cases (session.run steps) next p with ⟨unchanged, unreported⟩ |
        ⟨w, inliner, items, placed, count, inlines, after, told⟩
      · exact .inl ⟨unchanged.trans same, by rw [silent, unreported, Int.add_zero]⟩
      · obtain ⟨worker, reached, here, named, ran⟩ := inlines.ran
        have known : session.workers[w]?.map Worker.inliner = some inliner := by
          have inliners := congrArg (·[w]?) (run_inliners session steps)
          simp only [List.getElem?_map, here, Option.map_some, named] at inliners
          exact inliners.symm
        refine .inr ⟨steps, next, [], w, inliner, items, placed, count, rfl, known,
          same.symm.trans inlines.found, inlines, after, ?_, (worth_counts ran).1⟩
        rw [silent, told, Int.zero_add]
    · -- The program has been inlined into, so that a further run finds nothing to do.
      have settled : Settled placed := by
        obtain ⟨_, _, _, _, ran⟩ := inlines.ran
        exact (worth_counts ran).2
      have kept : ((session.run steps).step next).2.programs[p]? = some (.module placed) ∧
          reportedBy (session.run steps) p next = 0 := by
        rcases step_cases (session.run steps) next p with ⟨unchanged, unreported⟩ |
          ⟨v, other, again, left, more, inlinesAgain, after, toldAgain⟩
        · exact ⟨unchanged.trans held, unreported⟩
        · obtain ⟨worker, reached, _, _, ran⟩ := inlinesAgain.ran
          have found := inlinesAgain.found
          rw [held] at found
          cases found
          have resting := settled_at_rest settled other worker.memory (session.run steps).events
          have ran : other.inlineAll placed ⟨worker.memory, (session.run steps).events⟩ =
              (.ok more, left, reached) := ran
          rw [resting] at ran
          cases ran
          exact ⟨after, toldAgain⟩
      refine .inr ⟨earlier, step, later ++ [next], w, inliner, items, placed, count, ?_, worker, first,
        inlines, kept.1, ?_, whole⟩
      · rw [split, List.append_assoc, List.cons_append]
      · rw [told, kept.2, Int.add_zero]

end StyleInline.Sharing
