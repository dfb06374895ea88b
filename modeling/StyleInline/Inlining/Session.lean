import StyleInline.Inlining.Tally
import StyleInline.Syntax.Place

/-!
Several inliners at work on shared programs. Each worker has its own inliner, tally and provider memory;
the programs and the events are common to all, and every step takes effect before the next begins.
-/
namespace StyleInline

/-- An inliner with what has come of its work. -/
structure Worker (σ ε : Type) where
  inliner : Inliner σ ε
  tally : Tally ε
  memory : σ

structure Session (σ ε : Type) where
  workers : List (Worker σ ε)
  programs : List Program
  events : List Event

namespace Session

/-- One thing to do; workers and programs are named by their numbers, items by their places. -/
inductive Step where
  /-- A worker visits a program. -/
  | visit (worker program : Nat)
  /-- A module is inlined into as a worker would do it, outside its tally. -/
  | inlineAll (worker program : Nat)
  /-- One import is looked up as a worker would do it, and nothing is changed. -/
  | inline (worker program : Nat) (place : Place)
  /-- A worker gives its result and starts afresh. -/
  | finish (worker : Nat)
deriving DecidableEq, Repr

/-- What a step answers. -/
inductive Answer (ε : Type) where
  | visited (tally : Tally ε)
  | changed (result : Except (Failure ε) Nat)
  | inlined (result : Except (ImportFault ε) (Option VarDecl))
  | finished (result : Except (Failure ε) Nat)

variable {σ ε : Type}

/-- What a worker's next run starts from. -/
def journalOf (session : Session σ ε) (worker : Worker σ ε) : Journal σ :=
  ⟨worker.memory, session.events⟩

/-- The session after a run of worker `w`. -/
def record (session : Session σ ε) (w : Nat) (worker : Worker σ ε) (journal : Journal σ) :
    Session σ ε :=
  { session with
    workers := session.workers.set w { worker with memory := journal.memory }
    events := journal.events }

def setProgram (session : Session σ ε) (p : Nat) (program : Program) : Session σ ε :=
  { session with programs := session.programs.set p program }

/-- Takes a step. There is no answer when the step names what is not there, or asks to inline into a script
or to look up an item that is no import. -/
def step (session : Session σ ε) : Step → Option (Answer ε) × Session σ ε
  | .visit w p =>
    match session.workers[w]?, session.programs[p]? with
    | some worker, some program =>
      let (program, tally, journal) :=
        worker.inliner.visit program worker.tally (session.journalOf worker)
      (some (.visited tally),
        (session.record w { worker with tally := tally } journal).setProgram p program)
    | _, _ => (none, session)
  | .inlineAll w p =>
    match session.workers[w]?, session.programs[p]? with
    | some worker, some (.module items) =>
      let (result, items, journal) := worker.inliner.inlineAll items (session.journalOf worker)
      (some (.changed result), (session.record w worker journal).setProgram p (.module items))
    | _, _ => (none, session)
  | .inline w p place =>
    match session.workers[w]?, session.programs[p]? with
    | some worker, some (.module items) =>
      match standing place items with
      | some (.importDecl decl) =>
        let (result, journal) := worker.inliner.inline decl (session.journalOf worker)
        (some (.inlined result), session.record w worker journal)
      | _ => (none, session)
    | _, _ => (none, session)
  | .finish w =>
    match session.workers[w]? with
    | some worker =>
      (some (.finished worker.tally.result),
        { session with workers := session.workers.set w { worker with tally := .fresh } })
    | none => (none, session)

/-- The session after a list of steps. -/
def run (session : Session σ ε) (steps : List Step) : Session σ ε :=
  steps.foldl (fun s next => (s.step next).2) session

end Session
end StyleInline
