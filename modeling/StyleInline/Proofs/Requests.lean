import StyleInline.Proofs.DocumentOrder

/-! What a provider is asked in the course of one run, in which order, and where the asking stops. A provider
may answer by what it was asked before, so the calls are told from its own answers to the requests put one
after another. Recording them changes nothing else in a run. -/
namespace StyleInline.Requests
open DocumentOrder

variable {σ ε : Type}

/-- The same inliner with a provider that keeps a list of all that it is asked. -/
def recorded (inliner : Inliner σ ε) : Inliner (σ × List Request) ε :=
  ⟨inliner.root?, inliner.host, inliner.provider.recorded⟩

/-- What imports ask for, one request each, also when two of them mean one stylesheet. Nothing is asked
where the file or the root is not known. -/
def requestsOf (inliner : Inliner σ ε) (imports : List Import) : List Request :=
  match inliner.host.file?, inliner.root? with
  | some file, some root => imports.map fun decl => ⟨root, inliner.host, file.resolve decl.source⟩
  | _, _ => []

/-- The answers of a provider to requests put one after another. -/
def answers (provider : Provider σ ε) : List Request → σ → List (Except ε Exports)
  | [], _ => []
  | request :: rest, memory =>
    (provider.answer request memory).1 :: answers provider rest (provider.answer request memory).2

/-- The requests up to the first that the provider refuses, and that one with them. -/
def untilRefused (provider : Provider σ ε) (requests : List Request) (memory : σ) : List Request :=
  requests.take ((answers provider requests memory).findIdx (fun answer => !answer.isOk) + 1)

theorem until_refused_answered {provider : Provider σ ε} {request : Request} {memory after : σ}
    {exports : Exports} (answered : provider.answer request memory = (.ok exports, after))
    (rest : List Request) :
    untilRefused provider (request :: rest) memory = request :: untilRefused provider rest after := by
  simp [untilRefused, answers, answered, List.findIdx_cons, Except.isOk, Except.toBool]

theorem until_refused_stops {provider : Provider σ ε} {request : Request} {memory after : σ}
    {fault : ε} (refused : provider.answer request memory = (.error fault, after))
    (rest : List Request) : untilRefused provider (request :: rest) memory = [request] := by
  simp [untilRefused, answers, refused, List.findIdx_cons, Except.isOk, Except.toBool]

theorem requests_of_known {inliner : Inliner σ ε} {decl : Import} {request : Request}
    (known : inliner.request decl.source = .ok request) (rest : List Import) :
    requestsOf inliner (decl :: rest) = request :: requestsOf inliner rest := by
  unfold Inliner.request at known
  unfold requestsOf
  split at known
  · cases known
  · cases known
  · rename_i file root fileKnown rootKnown
    cases known
    simp only [fileKnown, rootKnown, List.map_cons]

theorem requests_of_unknown {inliner : Inliner σ ε} {decl : Import} {fault : ImportFault ε}
    (unknown : inliner.request decl.source = .error fault) (imports : List Import) :
    requestsOf inliner imports = [] := by
  unfold Inliner.request at unknown
  unfold requestsOf
  split at unknown
  · rename_i fileMissing
    simp only [fileMissing]
  · rename_i fileKnown rootMissing
    simp only [fileKnown, rootMissing]
  · cases unknown

/-- Imports inlined one after another ask just for what their stylesheets are, up to a refusal, and come to
the same whether that is written down or not. -/
theorem each_recorded (inliner : Inliner σ ε) (imports : List Import) (memory : σ)
    (calls : List Request) (events : List Event) :
    inlineEach (recorded inliner) imports ⟨(memory, calls), events⟩ =
      match inlineEach inliner imports ⟨memory, events⟩ with
      | (result, after) => (result, ⟨(after.memory, calls ++ untilRefused inliner.provider
          (requestsOf inliner (imports.filter fun decl => (binding? decl).isSome)) memory), after.events⟩) := by
  induction imports generalizing memory calls events with
  | nil =>
    have nothing : requestsOf inliner [] = [] := by unfold requestsOf; split <;> rfl
    simp [inlineEach, nothing, untilRefused]
  | cons decl rest ih =>
    cases binds : binding? decl with
    | none =>
      rw [inline_each_other binds, inline_each_other binds, ih]
      simp only [List.filter_cons, binds, Option.isSome_none, Bool.false_eq_true, ↓reduceIte]
    | some binding =>
      have same : (recorded inliner).request decl.source = inliner.request decl.source := rfl
      simp only [inlineEach, inline_stylesheet binds, same, List.filter_cons, binds, Option.isSome_some,
        ↓reduceIte]
      cases asked : inliner.request decl.source with
      | error fault => simp [requests_of_unknown asked, untilRefused]
      | ok request =>
        rw [requests_of_known asked]
        rcases answered : inliner.provider.answer request memory with ⟨fault | exports, reached⟩
        · simp [recorded, Provider.recorded, answered, until_refused_stops answered]
        · simp only [recorded, Provider.recorded, answered, until_refused_answered answered]
          have behind := ih reached (calls ++ [request])
            (events ++ [.inlined binding.name request.stylesheet exports.size])
          simp only [recorded, Provider.recorded] at behind
          rw [behind]
          rcases inlineEach inliner rest ⟨reached, _⟩ with ⟨failure | others, after⟩ <;> simp

/-- In one run the provider is asked for the stylesheets in the order of the text, once for each import of
one, up to the first refusal; where the file or the root is not known it is asked nothing. The other imports
and the placing of declarations ask nothing, and a run that is recorded is otherwise the same. -/
theorem asked_in_document_order (inliner : Inliner σ ε) (items : List Item) (memory : σ)
    (calls : List Request) (events : List Event) :
    (recorded inliner).inlineAll items ⟨(memory, calls), events⟩ =
      match inliner.inlineAll items ⟨memory, events⟩ with
      | (result, placed, after) =>
        (result, placed, ⟨(after.memory, calls ++ untilRefused inliner.provider
          (requestsOf inliner (stylesheetImports items)) memory), after.events⟩) := by
  simp only [Inliner.inlineAll, plan_in_document_order, each_recorded, stylesheetImports]
  rcases inlineEach inliner (importsOf items) ⟨memory, events⟩ with ⟨failure | found, after⟩ <;> rfl

end StyleInline.Requests
