import Mathlib.Data.List.Induction
import StructuralDiff.Proofs.Neighborhood.Derivation
import StructuralDiff.Worker

/-!
# Runs of the derivation worker

Requests may come between any two steps of the worker, and a derivation may break down. What holds in every
run rests on one picture: the generations of what was published, of what the worker is at, and of the request
it has not seen stand in ascending order, and the last one of them is the newest that was submitted.

* `Orderly.step`: what one step preserves.
* `orderly_run`: what holds after a run.
* `wellPublished_of_run`: what is published, in which order, and that the last request is never lost.
* `settle_answers`: a worker that is left alone comes to rest, with the last request answered.
* `le_generation_of_waitFor?`: who waits for a request gets the outcome of this one or of a later one.
-/

namespace StructuralDiff

/-- The generation that the worker is at. -/
def Phase.generation? : Phase → Option Nat
  | .idle => none
  | .running generation _ | .finished generation _ | .approved generation _ => some generation

namespace Worker

/-! ### What happens along a run -/

/-- The input that is submitted in a step. -/
def Step.input? : Step → Option DerivationInput
  | .submit input => some input
  | _ => none

/-- The inputs that are submitted in a run, in order. -/
def submissions (steps : List Step) : List DerivationInput :=
  steps.filterMap Step.input?

/-- The input was the one submitted as the generation: generations count from one. -/
def SubmittedAs (inputs : List DerivationInput) (generation : Nat) (input : DerivationInput) : Prop :=
  0 < generation ∧ inputs[generation - 1]? = some input

/-- The outcome that is published in a step. -/
def publishes? (worker : Worker) : Step → Option Published
  | .publish =>
    match worker.phase with
    | .approved generation result => some (.ofResult generation result)
    | _ => none
  | _ => none

/-- The outcomes that are published in a run, in order. -/
def publications (worker : Worker) : List Step → List Published
  | [] => []
  | step :: rest => (worker.publishes? step).toList ++ (worker.step step).publications rest

/-- A derivation breaks down in the step. -/
def breaksDown (worker : Worker) : Step → Bool
  | .breakDown =>
    match worker.phase with
    | .running _ _ => true
    | _ => false
  | .finish =>
    match worker.phase with
    | .running _ input => (worker.engine.derive? input).isNone
    | _ => false
  | _ => false

/-- A derivation has broken down in the run. -/
def hasBrokenDown (worker : Worker) : List Step → Bool
  | [] => false
  | step :: rest => worker.breaksDown step || (worker.step step).hasBrokenDown rest

/-- The strategies after a run: those of the engine, and after a breakdown the standard ones. -/
def tableAfter (engine : Engine) (steps : List Step) : StrategyTable :=
  if (ofEngine engine).hasBrokenDown steps then .standard else engine.strategies

section Append

variable (worker : Worker) (steps : List Step) (step : Step)

theorem run_concat : worker.run (steps ++ [step]) = (worker.run steps).step step := by
  rw [run, List.foldl_append]
  rfl

theorem submissions_concat : submissions (steps ++ [step]) = submissions steps ++ step.input?.toList := by
  rw [submissions, List.filterMap_append]
  cases step <;> rfl

theorem publications_concat : worker.publications (steps ++ [step]) =
    worker.publications steps ++ ((worker.run steps).publishes? step).toList := by
  induction steps generalizing worker with
  | nil => simp [publications, run]
  | cons first rest ih =>
    rw [List.cons_append, publications, publications, ih, List.append_assoc]
    rfl

theorem hasBrokenDown_concat : worker.hasBrokenDown (steps ++ [step]) =
    (worker.hasBrokenDown steps || (worker.run steps).breaksDown step) := by
  induction steps generalizing worker with
  | nil => simp [hasBrokenDown, run]
  | cons first rest ih =>
    rw [List.cons_append, hasBrokenDown, hasBrokenDown, ih, Bool.or_assoc]
    rfl

end Append

theorem SubmittedAs.append {inputs : List DerivationInput} {generation : Nat} {input : DerivationInput}
    (h : SubmittedAs inputs generation input) (more : List DerivationInput) :
    SubmittedAs (inputs ++ more) generation input := by
  refine ⟨h.1, ?_⟩
  obtain ⟨hlt, -⟩ := List.getElem?_eq_some_iff.1 h.2
  rw [List.getElem?_append_left hlt]
  exact h.2

theorem SubmittedAs.mem {inputs : List DerivationInput} {generation : Nat} {input : DerivationInput}
    (h : SubmittedAs inputs generation input) : input ∈ inputs :=
  List.mem_of_getElem? h.2

/-! ### The state of a worker in a run -/

/-- The generations of what was published, of what the worker is at and of what it has not seen. -/
def generations (history : List Published) (worker : Worker) : List Nat :=
  history.map (·.generation) ++ (worker.phase.generation?.toList ++ (worker.unseen.map (·.1)).toList)

/-- What the worker is at was submitted, and a result is what the strategies make of it. -/
def Explained (table : StrategyTable) (inputs : List DerivationInput) : Phase → Prop
  | .idle => True
  | .running generation input => SubmittedAs inputs generation input
  | .finished generation result | .approved generation result =>
    ∃ input, SubmittedAs inputs generation input ∧
      ∀ derivation, result = some derivation → table.derive? input = some derivation

/-- The state of a worker after `inputs` were submitted and `history` was published, when `table` has the
strategies in use. -/
structure Orderly (table : StrategyTable) (inputs : List DerivationInput) (history : List Published)
    (worker : Worker) : Prop where
  submitted : worker.submitted = inputs.length
  published : worker.published = history.getLast?
  strategies : worker.engine.strategies = table
  faithful : worker.engine.Faithful inputs
  ascending : (worker.generations history).Pairwise (· < ·)
  newest : (worker.generations history).getLastD 0 = worker.submitted
  unseen : ∀ generation input, worker.unseen = some (generation, input) →
    SubmittedAs inputs generation input
  phase : Explained table inputs worker.phase

theorem orderly_ofEngine {engine : Engine} (h : engine.cache.size = 0) :
    Orderly engine.strategies [] [] (ofEngine engine) where
  submitted := rfl
  published := rfl
  strategies := rfl
  faithful := Engine.faithful_of_size_eq_zero h []
  ascending := .nil
  newest := rfl
  unseen := fun _ _ hsome => nomatch hsome
  phase := trivial

theorem Explained.append {table : StrategyTable} {inputs : List DerivationInput} {phase : Phase}
    (h : Explained table inputs phase) (more : List DerivationInput) :
    Explained table (inputs ++ more) phase := by
  match phase, h with
  | .idle, _ => trivial
  | .running _ _, h => exact SubmittedAs.append h more
  | .finished _ _, ⟨input, hinput, hresult⟩ => exact ⟨input, hinput.append more, hresult⟩
  | .approved _ _, ⟨input, hinput, hresult⟩ => exact ⟨input, hinput.append more, hresult⟩

theorem le_getLastD {l : List Nat} (h : l.Pairwise (· < ·)) {n : Nat} (hn : n ∈ l) : n ≤ l.getLastD 0 := by
  induction l using List.reverseRecOn with
  | nil => cases hn
  | append_singleton l last ih =>
    rw [List.getLastD_concat]
    rcases List.mem_append.1 hn with hmem | hmem
    · exact Nat.le_of_lt ((List.pairwise_append.1 h).2.2 n hmem last (List.mem_singleton_self last))
    · exact Nat.le_of_eq (List.mem_singleton.1 hmem)

namespace Orderly

variable {table : StrategyTable} {inputs : List DerivationInput} {history : List Published}
  {worker : Worker} (h : Orderly table inputs history worker)

include h

/-! ### One step -/

protected theorem submit (input : DerivationInput) :
    Orderly table (inputs ++ [input]) history (worker.submit input) where
  submitted := by rw [List.length_append, ← h.submitted]; rfl
  published := h.published
  strategies := h.strategies
  faithful := h.faithful.mono (List.subset_append_left _ _)
  ascending := by
    -- The newest generation stands above all that were there; the unseen one among them is forgotten.
    have hsub : (history.map (·.generation) ++ worker.phase.generation?.toList).Sublist
        (worker.generations history) := by
      rw [generations, ← List.append_assoc]
      exact List.sublist_append_left _ _
    show (history.map (·.generation) ++
      (worker.phase.generation?.toList ++ [worker.submitted + 1])).Pairwise (· < ·)
    rw [← List.append_assoc, List.pairwise_append]
    refine ⟨h.ascending.sublist hsub, List.pairwise_singleton _ _, fun a ha b hb => ?_⟩
    have hle := le_getLastD h.ascending (hsub.subset ha)
    rw [h.newest] at hle
    rw [List.mem_singleton.1 hb]
    omega
  newest := by
    show (history.map (·.generation) ++
      (worker.phase.generation?.toList ++ [worker.submitted + 1])).getLastD 0 = worker.submitted + 1
    rw [← List.append_assoc, List.getLastD_concat]
  unseen := by
    intro generation other hsome
    obtain ⟨rfl, rfl⟩ := Prod.mk.inj (Option.some.inj hsome)
    refine ⟨Nat.succ_pos _, ?_⟩
    rw [h.submitted, Nat.add_sub_cancel, List.getElem?_concat_length]
  phase := h.phase.append [input]

protected theorem take : Orderly table inputs history worker.take := by
  rw [Worker.take]
  split
  · next generation input hphase hunseen =>
    have hsame : generations history { worker with phase := .running generation input, unseen := none } =
        worker.generations history := by
      simp [generations, hphase, hunseen, Phase.generation?]
    exact {
      h with
      ascending := by rw [hsame]; exact h.ascending
      newest := by rw [hsame]; exact h.newest
      unseen := fun _ _ hsome => nomatch hsome
      phase := h.unseen generation input hunseen }
  · exact h

/-- When the phase changes and its generation does not, nothing moves. -/
theorem of_phase {table' : StrategyTable} {engine : Engine} {phase : Phase}
    (hgeneration : phase.generation? = worker.phase.generation?)
    (hstrategies : engine.strategies = table') (hfaithful : engine.Faithful inputs)
    (hphase : Explained table' inputs phase) :
    Orderly table' inputs history { worker with engine, phase } := by
  have hsame : generations history { worker with engine, phase } = worker.generations history := by
    simp only [generations, hgeneration]
  exact {
    submitted := h.submitted
    published := h.published
    strategies := hstrategies
    faithful := hfaithful
    ascending := by rw [hsame]; exact h.ascending
    newest := by rw [hsame]; exact h.newest
    unseen := h.unseen
    phase := hphase }

protected theorem breakDown {generation : Nat} {input : DerivationInput}
    (hphase : worker.phase = .running generation input) :
    Orderly .standard inputs history worker.breakDown := by
  have hinput : Explained table inputs worker.phase := h.phase
  rw [hphase] at hinput
  rw [Worker.breakDown, hphase]
  exact h.of_phase (by rw [hphase]; rfl) rfl (Engine.faithful_of_size_eq_zero rfl inputs)
    ⟨input, hinput, fun _ hnone => nomatch hnone⟩

protected theorem finish (hkeys : DerivationInput.KeysApart inputs) {generation : Nat}
    {input : DerivationInput} (hphase : worker.phase = .running generation input)
    {derivation : Derivation} {engine : Engine}
    (hderive : worker.engine.derive? input = some (derivation, engine)) :
    Orderly table inputs history worker.finish := by
  have hinput : Explained table inputs worker.phase := h.phase
  rw [hphase] at hinput
  obtain ⟨hmade, hstrategies, hfaithful⟩ := h.faithful.of_derive? (SubmittedAs.mem hinput) hkeys hderive
  rw [h.strategies] at hmade hstrategies
  simp only [Worker.finish, hphase, hderive]
  refine h.of_phase (by rw [hphase]; rfl) hstrategies hfaithful ⟨input, hinput, ?_⟩
  rintro _ ⟨rfl⟩
  exact hmade

protected theorem compare : Orderly table inputs history worker.compare := by
  rw [Worker.compare]
  split
  · next generation result hphase =>
    have hresult : Explained table inputs worker.phase := h.phase
    rw [hphase] at hresult
    split
    · exact h.of_phase (by rw [hphase]; rfl) h.strategies h.faithful hresult
    · next hne =>
      -- A result that is not the newest is not the last in line, so the last one stays.
      have hascending := h.ascending
      have hnewest := h.newest
      simp only [generations, hphase, Phase.generation?, Option.toList_some] at hascending hnewest
      obtain ⟨last, hlast⟩ : ∃ last, (worker.unseen.map (·.1)).toList = [last] := by
        cases hunseen : worker.unseen with
        | some request => exact ⟨request.1, rfl⟩
        | none =>
          rw [hunseen, Option.map_none, Option.toList_none, List.append_nil, List.getLastD_concat] at hnewest
          exact absurd (beq_iff_eq.2 hnewest) hne
      rw [hlast] at hascending hnewest
      exact {
        h with
        ascending := by
          simp only [generations, Phase.generation?, Option.toList_none, List.nil_append, hlast]
          exact hascending.sublist ((List.sublist_append_right [generation] [last]).append_left _)
        newest := by
          simp only [generations, Phase.generation?, Option.toList_none, List.nil_append, hlast]
          rw [← List.append_assoc, List.getLastD_concat] at hnewest
          rw [List.getLastD_concat]
          exact hnewest
        phase := trivial }
  · exact h

protected theorem publish :
    Orderly table inputs (history ++ (worker.publishes? .publish).toList) worker.publish := by
  cases hphase : worker.phase with
  | approved generation result =>
    have hsame : generations (history ++ [.ofResult generation result])
        { worker with phase := .idle, published := some (.ofResult generation result) } =
          worker.generations history := by
      have hgeneration : (Published.ofResult generation result).generation = generation := by
        cases result <;> rfl
      simp [generations, hphase, Phase.generation?, hgeneration]
    simp only [Worker.publish, publishes?, hphase, Option.toList_some]
    exact {
      submitted := h.submitted
      published := by rw [List.getLast?_concat]
      strategies := h.strategies
      faithful := h.faithful
      ascending := by rw [hsame]; exact h.ascending
      newest := by rw [hsame]; exact h.newest
      unseen := h.unseen
      phase := trivial }
  | idle | running | finished => simpa [Worker.publish, publishes?, hphase] using h

/-- **What one step preserves**, whoever takes it. -/
protected theorem step (hkeys : DerivationInput.KeysApart inputs) (step : Step) :
    Orderly (if worker.breaksDown step then .standard else table) (inputs ++ step.input?.toList)
      (history ++ (worker.publishes? step).toList) (worker.step step) := by
  cases step with
  | submit input => simpa [breaksDown, publishes?, Step.input?, Worker.step] using h.submit input
  | take => simpa [breaksDown, publishes?, Step.input?, Worker.step] using h.take
  | compare => simpa [breaksDown, publishes?, Step.input?, Worker.step] using h.compare
  | publish => simpa [breaksDown, Step.input?, Worker.step] using h.publish
  | breakDown =>
    simp only [publishes?, Step.input?, Option.toList_none, List.append_nil, Worker.step]
    cases hphase : worker.phase with
    | running generation input => simpa [breaksDown, hphase] using h.breakDown hphase
    | idle | finished | approved => simpa [breaksDown, Worker.breakDown, hphase] using h
  | finish =>
    simp only [publishes?, Step.input?, Option.toList_none, List.append_nil, Worker.step]
    cases hphase : worker.phase with
    | running generation input =>
      cases hderive : worker.engine.derive? input with
      | none =>
        have hbroken : worker.finish = worker.breakDown := by simp only [Worker.finish, hphase, hderive]
        simpa [breaksDown, hphase, hderive, hbroken] using h.breakDown hphase
      | some derived => simpa [breaksDown, hphase, hderive] using h.finish hkeys hphase hderive
    | idle | finished | approved => simpa [breaksDown, Worker.finish, hphase] using h

end Orderly

/-! ### Runs -/

/-- **What holds after a run**, whatever the interleaving of its steps. -/
theorem orderly_run {engine : Engine} (hempty : engine.cache.size = 0) (steps : List Step)
    (hkeys : DerivationInput.KeysApart (submissions steps)) :
    Orderly (tableAfter engine steps) (submissions steps) ((ofEngine engine).publications steps)
      ((ofEngine engine).run steps) := by
  induction steps using List.reverseRecOn with
  | nil => exact orderly_ofEngine hempty
  | append_singleton steps step ih =>
    rw [submissions_concat] at hkeys
    have hbefore : DerivationInput.KeysApart (submissions steps) := fun a ha b hb =>
      hkeys a (List.mem_append_left _ ha) b (List.mem_append_left _ hb)
    have hstep := (ih hbefore).step hbefore step
    have htable : tableAfter engine (steps ++ [step]) =
        if ((ofEngine engine).run steps).breaksDown step then .standard else tableAfter engine steps := by
      rw [tableAfter, tableAfter, hasBrokenDown_concat]
      cases (ofEngine engine).hasBrokenDown steps <;> simp
    rw [htable, submissions_concat, publications_concat, run_concat]
    exact hstep

theorem submissions_sublist {before after : List Step} :
    submissions before ⊆ submissions (before ++ after) := by
  rw [submissions, submissions, List.filterMap_append]
  exact List.subset_append_left _ _

/-- What can be said about all that a worker publishes in a run. -/
structure WellPublished (engine : Engine) (steps : List Step) : Prop where
  /-- Generations count the requests. -/
  submitted : ((ofEngine engine).run steps).submitted = (submissions steps).length
  /-- Published generations ascend. -/
  ascending : (((ofEngine engine).publications steps).map (·.generation)).Pairwise (· < ·)
  /-- Clients see what was published last. -/
  latest : ((ofEngine engine).run steps).published = ((ofEngine engine).publications steps).getLast?
  /-- What is published at any point was submitted before, and a derivation is what the strategies in use
  at this point make of the input. -/
  derived : ∀ before step after published, steps = before ++ step :: after →
    ((ofEngine engine).run before).publishes? step = some published →
      ∃ input, SubmittedAs (submissions before) published.generation input ∧
        ∀ generation derivation, published = .ready generation derivation →
          (tableAfter engine before).derive? input = some derivation
  /-- When nothing is left to do, the last request has been answered. -/
  answered : ((ofEngine engine).run steps).phase = .idle → ((ofEngine engine).run steps).unseen = none →
    submissions steps ≠ [] →
      ((ofEngine engine).run steps).published.map (·.generation) = some (submissions steps).length

/-- A worker at rest has answered the last request: the line of generations is the history then, and its last one
is the newest. -/
theorem answered_of_orderly {table : StrategyTable} {inputs : List DerivationInput} {history : List Published}
    {worker : Worker} (h : Orderly table inputs history worker) (hidle : worker.phase = .idle)
    (hunseen : worker.unseen = none) (hsome : inputs ≠ []) :
    worker.published.map (·.generation) = some inputs.length := by
  have hnewest := h.newest
  simp only [generations, hidle, hunseen, Phase.generation?, Option.map_none, Option.toList_none,
    List.append_nil, h.submitted] at hnewest
  rw [h.published]
  cases hhistory : history.getLast? with
  | none =>
    rw [List.getLast?_eq_none_iff.1 hhistory] at hnewest
    exact absurd (List.length_eq_zero_iff.1 hnewest.symm) hsome
  | some last =>
    rw [List.getLastD_eq_getLast?, List.getLast?_map, hhistory] at hnewest
    exact congrArg some hnewest

/-- What is published is the result that the worker has approved. -/
theorem phase_of_publishes? {worker : Worker} {step : Step} {published : Published}
    (h : worker.publishes? step = some published) :
    ∃ generation result, worker.phase = .approved generation result ∧
      published = .ofResult generation result := by
  cases step with
  | publish =>
    cases hphase : worker.phase with
    | approved generation result =>
      simp only [publishes?, hphase, Option.some.injEq] at h
      exact ⟨generation, result, rfl, h.symm⟩
    | idle | running | finished => simp [publishes?, hphase] at h
  | submit | take | finish | breakDown | compare => cases h

/-- **What is published in a run that starts with an empty cache**, whatever the interleaving of requests,
steps of the worker and breakdowns, when no two requests share a key. -/
theorem wellPublished_of_run (engine : Engine) (steps : List Step) (hempty : engine.cache.size = 0)
    (hkeys : DerivationInput.KeysApart (submissions steps)) : WellPublished engine steps := by
  have hrun := orderly_run hempty steps hkeys
  refine ⟨hrun.submitted, ?_, hrun.published, ?_, ?_⟩
  · exact (List.pairwise_append.1 hrun.ascending).1
  · rintro before step after published rfl hpublishes
    have hbefore := orderly_run hempty before fun a ha b hb =>
      hkeys a (submissions_sublist ha) b (submissions_sublist hb)
    obtain ⟨generation, result, hphase, rfl⟩ := phase_of_publishes? hpublishes
    have hexplained : Explained _ _ ((ofEngine engine).run before).phase := hbefore.phase
    rw [hphase] at hexplained
    obtain ⟨input, hinput, hresult⟩ := hexplained
    cases result with
    | none => exact ⟨input, hinput, fun _ _ hready => nomatch hready⟩
    | some found =>
      refine ⟨input, hinput, fun _ derivation hready => ?_⟩
      obtain ⟨-, rfl⟩ := Published.ready.inj hready
      exact hresult _ rfl
  · exact answered_of_orderly hrun

/-! ### A worker that is left alone -/

section Settle

variable (worker : Worker)

/-- Whatever the worker is at, it is done with it when it has compared and published. -/
theorem phase_answer : worker.finish.compare.publish.phase = .idle := by
  have hcompare (worker : Worker) {generation : Nat} {result : Option Derivation}
      (hphase : worker.phase = .finished generation result) : worker.compare.publish.phase = .idle := by
    rw [Worker.compare, hphase]
    dsimp only
    split <;> rfl
  cases hphase : worker.phase with
  | idle => simp [Worker.finish, Worker.compare, Worker.publish, hphase]
  | running generation input =>
    cases hderive : worker.engine.derive? input with
    | none =>
      have hfinish : worker.finish.phase = .finished generation none := by
        simp only [Worker.finish, Worker.breakDown, hphase, hderive]
      exact hcompare _ hfinish
    | some derived =>
      have hfinish : worker.finish.phase = .finished generation (some derived.1) := by
        simp only [Worker.finish, hphase, hderive]
      exact hcompare _ hfinish
  | finished generation result =>
    have hfinish : worker.finish = worker := by simp only [Worker.finish, hphase]
    rw [hfinish]
    exact hcompare worker hphase
  | approved generation result => simp [Worker.finish, Worker.compare, Worker.publish, hphase]

theorem proceed_eq : worker.proceed = worker.finish.compare.publish.take := rfl

/-- A worker that proceeds has begun with the last request. -/
theorem unseen_proceed : worker.proceed.unseen = none := by
  rw [proceed_eq, Worker.take, phase_answer]
  cases hunseen : worker.finish.compare.publish.unseen with
  | none => exact hunseen
  | some request => rfl

/-- Coming to an end leaves the last request where it is. -/
theorem unseen_answer : worker.finish.compare.publish.unseen = worker.unseen := by
  have hfinish : worker.finish.unseen = worker.unseen := by
    unfold Worker.finish Worker.breakDown
    split
    · split
      · rfl
      · split <;> rfl
    · rfl
  have hcompare (worker : Worker) : worker.compare.unseen = worker.unseen := by
    unfold Worker.compare
    split
    · split <;> rfl
    · rfl
  have hpublish (worker : Worker) : worker.publish.unseen = worker.unseen := by
    unfold Worker.publish
    split <;> rfl
  rw [hpublish, hcompare, hfinish]

/-- A worker that has begun with the last request is idle when it has proceeded. -/
theorem phase_proceed (h : worker.unseen = none) : worker.proceed.phase = .idle := by
  rw [proceed_eq, Worker.take, phase_answer, unseen_answer, h]
  exact phase_answer worker

/-- **A worker that is left alone comes to rest**: it is idle and has begun with every request. -/
theorem rests_settle : worker.settle.phase = .idle ∧ worker.settle.unseen = none :=
  ⟨phase_proceed _ (unseen_proceed worker), unseen_proceed worker.proceed⟩

/-- The steps that a worker takes until it is at rest. -/
def restSteps : List Step :=
  [.finish, .compare, .publish, .take, .finish, .compare, .publish, .take]

theorem run_append (steps more : List Step) : worker.run (steps ++ more) = (worker.run steps).run more :=
  List.foldl_append

end Settle

/-- **A worker that is left alone after a run answers the last request**, and comes to rest. -/
theorem settle_answers (engine : Engine) (steps : List Step) (hempty : engine.cache.size = 0)
    (hkeys : DerivationInput.KeysApart (submissions steps)) (hsome : submissions steps ≠ []) :
    ((ofEngine engine).run steps).settle.phase = .idle ∧ ((ofEngine engine).run steps).settle.unseen = none ∧
      ((ofEngine engine).run steps).settle.published.map (·.generation) = some (submissions steps).length := by
  have hsettle : ((ofEngine engine).run steps).settle = (ofEngine engine).run (steps ++ restSteps) :=
    (run_append _ steps restSteps).symm
  have hsubmissions : submissions (steps ++ restSteps) = submissions steps := by
    rw [submissions, submissions, List.filterMap_append]
    exact List.append_nil _
  obtain ⟨hidle, hunseen⟩ := rests_settle ((ofEngine engine).run steps)
  refine ⟨hidle, hunseen, ?_⟩
  rw [hsettle] at hidle hunseen ⊢
  rw [← hsubmissions] at hkeys hsome ⊢
  exact answered_of_orderly (orderly_run hempty _ hkeys) hidle hunseen hsome

/-- **Who waits for a generation that was submitted gets the outcome of this one or of a later one.** -/
theorem le_generation_of_waitFor? (engine : Engine) (steps : List Step) (hempty : engine.cache.size = 0)
    (hkeys : DerivationInput.KeysApart (submissions steps)) {generation : Nat}
    (hpos : submissions steps ≠ []) (hle : generation ≤ (submissions steps).length) :
    ∃ worker published, ((ofEngine engine).run steps).waitFor? generation = some (published.outcome?, worker) ∧
      worker.published = some published ∧ generation ≤ published.generation := by
  have hsubmitted : ((ofEngine engine).run steps).submitted = (submissions steps).length :=
    (orderly_run hempty steps hkeys).submitted
  have hdue : ¬(((ofEngine engine).run steps).submitted == 0 ||
      decide (((ofEngine engine).run steps).submitted < generation)) = true := by
    have hlength := List.length_pos_iff.2 hpos
    simp only [hsubmitted, Bool.or_eq_true, beq_iff_eq, decide_eq_true_eq]
    omega
  rw [waitFor?, if_neg hdue]
  by_cases hready : ((ofEngine engine).run steps).published.any (generation ≤ ·.generation) = true
  · obtain ⟨published, hpublished, hreached⟩ := (Option.any_eq_true _ _).1 hready
    refine ⟨_, published, ?_, hpublished, of_decide_eq_true hreached⟩
    rw [if_pos hready]
    dsimp only
    rw [hpublished]
    rfl
  · obtain ⟨-, -, hanswered⟩ := settle_answers engine steps hempty hkeys hpos
    obtain ⟨published, hpublished, hlast⟩ := Option.map_eq_some_iff.1 hanswered
    refine ⟨_, published, ?_, hpublished, hlast ▸ hle⟩
    rw [if_neg hready]
    dsimp only
    rw [hpublished]
    rfl

/-- A search for a text in an empty graph. -/
def searchFor (query : String) : DerivationInput :=
  { graphId := "g", nodes := [], edges := [], query, exclude := false }

/-- A request that is overtaken while it runs, one that comes between comparison and publication, a breakdown,
and a request after it. -/
def busySteps : List Step :=
  [.submit (searchFor "a"), .take, .submit (searchFor "b"), .finish, .compare, .take, .finish, .compare,
   .submit (searchFor "a"), .publish, .take, .breakDown, .compare, .publish,
   .submit (searchFor "b"), .take, .finish, .compare, .publish]

theorem wellPublished_busySteps : (Engine.ofCapacity 4).cache.size = 0 ∧
    DerivationInput.KeysApart (submissions busySteps) ∧ WellPublished (Engine.ofCapacity 4) busySteps := by
  have hempty : (Engine.ofCapacity 4).cache.size = 0 := rfl
  have hne : (searchFor "a").contentKey ≠ (searchFor "b").contentKey := by decide +kernel
  have hkeys : DerivationInput.KeysApart (submissions busySteps) := .of_two hne (by decide)
  exact ⟨hempty, hkeys, wellPublished_of_run _ _ hempty hkeys⟩

end Worker

end StructuralDiff
