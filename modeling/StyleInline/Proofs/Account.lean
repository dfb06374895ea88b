import Mathlib.Algebra.GroupWithZero.Nat
import StyleInline.Inlining.Tally
import StyleInline.Proofs.Requests
import StyleInline.Proofs.Traversal

/-! The account that one inliner keeps of its visits. Between two visits anything may happen: others change the
programs, ask the same provider and tell of it. What a visit is compared with is therefore a run over the
very program it came upon, started from what it came upon; the account adds up these runs to the first
that fails and stands still from there on. -/
namespace StyleInline.Account
open DocumentOrder Traversal Requests

variable {σ ε : Type}

/-! ### One visit -/

/-- What a run over the program, started here and counted nowhere, would answer. A script has no imports. -/
def worth (inliner : Inliner σ ε) (program : Program) (start : Journal σ) : Except (Failure ε) Nat :=
  match program with
  | .module items => (inliner.inlineAll items start).1
  | .script _ => .ok 0

/-- How such a run would leave the program. -/
def leaves (inliner : Inliner σ ε) (program : Program) (start : Journal σ) : Program :=
  match program with
  | .module items => .module (inliner.inlineAll items start).2.1
  | .script body => .script body

/-- A run that fails leaves the program as it was. -/
theorem leaves_failed {inliner : Inliner σ ε} {program : Program} {start : Journal σ}
    {failure : Failure ε} (failed : worth inliner program start = .error failure) :
    leaves inliner program start = program := by
  cases program with
  | script body => rfl
  | module items =>
    rcases ran : inliner.inlineAll items start with ⟨stopped | count, placed, reached⟩
    · obtain ⟨same, _⟩ := inline_all_failed ran
      rw [leaves, ran, same]
    · simp [worth, ran] at failed

/-- A run counts the imports of stylesheets, and after it none is left. -/
theorem worth_counts {inliner : Inliner σ ε} {items placed : List Item} {count : Nat}
    {before after : Journal σ} (ran : inliner.inlineAll items before = (.ok count, placed, after)) :
    count = (stylesheetImports items).length ∧ stylesheetImports placed = [] := by
  obtain ⟨found, reached, looked, same, _, inlined⟩ := inline_all_succeeded ran
  refine ⟨?_, none_left inlined⟩
  rw [same]
  exact inline_each_found looked

theorem visit_script (inliner : Inliner σ ε) (body : List Item) (tally : Tally ε) (start : Journal σ) :
    inliner.visit (.script body) tally start = (.script body, tally, start) := by
  simp only [Inliner.visit]

/-- Once something has failed, a visit does nothing at all. -/
theorem visit_latched {tally : Tally ε} {failure : Failure ε} (latched : tally.failure = some failure)
    (inliner : Inliner σ ε) (program : Program) (start : Journal σ) :
    inliner.visit program tally start = (program, tally, start) := by
  cases program <;> simp only [Inliner.visit, latched]

/-- As long as nothing has failed, a visit is a run, and its count is added. -/
theorem visit_counts {inliner : Inliner σ ε} {program : Program} {start : Journal σ} {count : Nat}
    (succeeds : worth inliner program start = .ok count) (total : Nat) :
    ∃ reached, inliner.visit program ⟨total, none⟩ start =
      (leaves inliner program start, ⟨total + count, none⟩, reached) := by
  cases program with
  | script body =>
    cases succeeds
    exact ⟨start, visit_script inliner body _ start⟩
  | module items =>
    rcases ran : inliner.inlineAll items start with ⟨stopped | answered, placed, reached⟩
    · simp [worth, ran] at succeeds
    · rw [worth, ran] at succeeds
      cases succeeds
      exact ⟨reached, by simp only [Inliner.visit, leaves, ran]⟩

/-- The first run that fails is kept, and its program stays as it was. -/
theorem visit_fails {inliner : Inliner σ ε} {program : Program} {start : Journal σ} {failure : Failure ε}
    (fails : worth inliner program start = .error failure) (total : Nat) :
    ∃ reached, inliner.visit program ⟨total, none⟩ start = (program, ⟨total, some failure⟩, reached) := by
  have kept := leaves_failed fails
  cases program with
  | script body => cases fails
  | module items =>
    rcases ran : inliner.inlineAll items start with ⟨stopped | answered, placed, reached⟩
    · rw [worth, ran] at fails
      cases fails
      rw [leaves, ran] at kept
      exact ⟨reached, by simp only [Inliner.visit, ran, kept]⟩
    · simp [worth, ran] at fails

/-! ### Many visits -/

/-- Something to visit, and what others did to memory and events since the visit before. -/
structure Turn (σ : Type) where
  program : Program
  meanwhile : Journal σ → Journal σ

/-- A visit as it went: what it came upon, and what it left. -/
structure Visit (σ ε : Type) where
  found : Program
  held : Tally ε
  start : Journal σ
  left : Program
  tally : Tally ε
  reached : Journal σ

/-- The visits of one inliner, and its tally after them. -/
def visitEach (inliner : Inliner σ ε) : List (Turn σ) → Tally ε → Journal σ →
    List (Visit σ ε) × Tally ε
  | [], tally, _ => ([], tally)
  | turn :: rest, held, journal =>
    let start := turn.meanwhile journal
    let (left, tally, reached) := inliner.visit turn.program held start
    let (visits, final) := visitEach inliner rest tally reached
    (⟨turn.program, held, start, left, tally, reached⟩ :: visits, final)

theorem visit_each_cons {inliner : Inliner σ ε} {turn : Turn σ} {held tally : Tally ε}
    {journal reached : Journal σ} {left : Program}
    (went : inliner.visit turn.program held (turn.meanwhile journal) = (left, tally, reached))
    (rest : List (Turn σ)) :
    visitEach inliner (turn :: rest) held journal =
      (⟨turn.program, held, turn.meanwhile journal, left, tally, reached⟩ ::
        (visitEach inliner rest tally reached).1, (visitEach inliner rest tally reached).2) := by
  rw [visitEach, went]

/-- The visit changed neither the program nor the tally, told nothing and asked nothing: it is the same
visit when all that the provider is asked is written down. -/
structure Idle (inliner : Inliner σ ε) (visit : Visit σ ε) : Prop where
  left : visit.left = visit.found
  tally : visit.tally = visit.held
  reached : visit.reached = visit.start
  unasked : ∀ calls, (recorded inliner).visit visit.found visit.held
    ⟨(visit.start.memory, calls), visit.start.events⟩ =
      (visit.found, visit.held, ⟨(visit.start.memory, calls), visit.start.events⟩)

/-- Every visit is worth its count, and the tally went up by one after another, from `total` on. -/
structure Counted (inliner : Inliner σ ε) (total : Nat) (visits : List (Visit σ ε)) (counts : List Nat) :
    Prop where
  worths : visits.map (fun visit => worth inliner visit.found visit.start) = counts.map .ok
  tallies : visits.map Visit.tally = (counts.scanl (· + ·) total).tail.map (⟨·, none⟩)

/-- The first visit fails, and from it on the tally stands still and no program is changed. -/
structure Latched (inliner : Inliner σ ε) (total : Nat) (failure : Failure ε) (failing : Visit σ ε)
    (later : List (Visit σ ε)) : Prop where
  fails : worth inliner failing.found failing.start = .error failure
  left : failing.left = failing.found
  tallies : ∀ visit ∈ failing :: later, visit.tally = ⟨total, some failure⟩
  idle : ∀ visit ∈ later, Idle inliner visit

/-- Behind a failure every visit is idle. -/
theorem idle_behind_failure (inliner : Inliner σ ε) (turns : List (Turn σ)) (total : Nat)
    (failure : Failure ε) (journal : Journal σ) :
    (visitEach inliner turns ⟨total, some failure⟩ journal).2 = ⟨total, some failure⟩ ∧
      ∀ visit ∈ (visitEach inliner turns ⟨total, some failure⟩ journal).1,
        Idle inliner visit ∧ visit.tally = ⟨total, some failure⟩ := by
  induction turns generalizing journal with
  | nil => exact ⟨rfl, by simp [visitEach]⟩
  | cons turn rest ih =>
    have still : ∀ {τ : Type} (other : Inliner τ ε) (start : Journal τ),
        other.visit turn.program ⟨total, some failure⟩ start =
          (turn.program, ⟨total, some failure⟩, start) :=
      fun other start => visit_latched rfl other turn.program start
    obtain ⟨final, behind⟩ := ih (turn.meanwhile journal)
    rw [visit_each_cons (still inliner (turn.meanwhile journal))]
    refine ⟨final, ?_⟩
    intro visit member
    rcases List.mem_cons.mp member with rfl | member
    · exact ⟨⟨rfl, rfl, rfl, fun calls => still (recorded inliner) _⟩, rfl⟩
    · exact behind visit member

/-- A script is passed by, whatever the tally holds. -/
theorem idle_at_script (inliner : Inliner σ ε) (turns : List (Turn σ)) (tally : Tally ε)
    (journal : Journal σ) :
    ∀ visit ∈ (visitEach inliner turns tally journal).1, ∀ body, visit.found = .script body →
      Idle inliner visit := by
  induction turns generalizing tally journal with
  | nil => simp [visitEach]
  | cons turn rest ih =>
    rcases went : inliner.visit turn.program tally (turn.meanwhile journal) with ⟨left, after, reached⟩
    rw [visit_each_cons went]
    intro visit member body script
    rcases List.mem_cons.mp member with rfl | member
    · have found : turn.program = .script body := script
      rw [found, visit_script] at went
      cases went
      refine ⟨found.symm, rfl, rfl, fun calls => ?_⟩
      rw [script]
      exact visit_script (recorded inliner) body tally _
    · exact ih after reached visit member body script

/-- Visits from any standing without a failure: all of them count, or those before the first that fails do. -/
theorem account_from (inliner : Inliner σ ε) (turns : List (Turn σ)) (total : Nat) (journal : Journal σ) :
    ∃ counts passed rest, (visitEach inliner turns ⟨total, none⟩ journal).1 = passed ++ rest ∧
      Counted inliner total passed counts ∧
      match rest with
      | [] => (visitEach inliner turns ⟨total, none⟩ journal).2 = ⟨total + counts.sum, none⟩
      | failing :: later => ∃ failure, Latched inliner (total + counts.sum) failure failing later ∧
          (visitEach inliner turns ⟨total, none⟩ journal).2 = ⟨total + counts.sum, some failure⟩ := by
  induction turns generalizing total journal with
  | nil => exact ⟨[], [], [], rfl, ⟨rfl, rfl⟩, rfl⟩
  | cons turn rest ih =>
    cases answer : worth inliner turn.program (turn.meanwhile journal) with
    | error failure =>
      obtain ⟨reached, went⟩ := visit_fails answer total
      obtain ⟨final, behind⟩ := idle_behind_failure inliner rest total failure reached
      rw [visit_each_cons went]
      refine ⟨[], [], _, rfl, ⟨rfl, rfl⟩, failure, ⟨answer, rfl, ?_, ?_⟩, final⟩
      · intro visit member
        rcases List.mem_cons.mp member with rfl | member
        · rfl
        · exact (behind visit member).2
      · exact fun visit member => (behind visit member).1
    | ok count =>
      obtain ⟨reached, went⟩ := visit_counts answer total
      obtain ⟨counts, passed, others, split, counted, after⟩ := ih (total + count) reached
      let visit : Visit σ ε := ⟨turn.program, ⟨total, none⟩, turn.meanwhile journal,
        leaves inliner turn.program (turn.meanwhile journal), ⟨total + count, none⟩, reached⟩
      rw [visit_each_cons went]
      refine ⟨count :: counts, visit :: passed, others, ?_, ⟨?_, ?_⟩, ?_⟩
      · rw [split, List.cons_append]
      · simp only [visit, List.map_cons, answer, counted.worths]
      · rw [List.map_cons, counted.tallies, List.scanl_cons, List.tail_cons]
        cases counts <;> simp [visit]
      · simpa only [List.sum_cons, Nat.add_assoc] using after

/-- An inliner that starts afresh counts its visits up to the first that fails, and holds that failure for
good. A visit counts what a run over the program as it then stands would answer. From the first failure on
the total does not change, no program is changed and the provider is asked nothing; the result is that
failure, or the sum of all counts if there is none. Visits of scripts do nothing at any time. -/
theorem first_failure_is_kept (inliner : Inliner σ ε) (turns : List (Turn σ)) (journal : Journal σ) :
    match visitEach inliner turns .fresh journal with
    | (visits, final) =>
      (∃ counts passed rest, visits = passed ++ rest ∧ Counted inliner 0 passed counts ∧
        match rest with
        | [] => final.result = .ok counts.sum
        | failing :: later => ∃ failure, Latched inliner counts.sum failure failing later ∧
            final.result = .error failure) ∧
      ∀ visit ∈ visits, ∀ body, visit.found = .script body → Idle inliner visit := by
  obtain ⟨counts, passed, rest, split, counted, after⟩ := account_from inliner turns 0 journal
  refine ⟨⟨counts, passed, rest, split, counted, ?_⟩, idle_at_script inliner turns .fresh journal⟩
  cases rest with
  | nil =>
    have final : (visitEach inliner turns .fresh journal).2 = ⟨0 + counts.sum, none⟩ := after
    rw [final, Tally.result, Nat.zero_add]
  | cons failing later =>
    obtain ⟨failure, latched, final⟩ := after
    rw [Nat.zero_add] at latched
    refine ⟨failure, latched, ?_⟩
    have held : (visitEach inliner turns .fresh journal).2 = ⟨0 + counts.sum, some failure⟩ := final
    rw [held, Tally.result]

end StyleInline.Account
