import StructuralDiff.Neighborhood.Derivation

/-!
# The derivation worker

Derivations in the background. Every request gets the next generation and takes the place of an earlier one
that was not begun; a result that is no longer the newest when it is ready is dropped. A derivation that
breaks down is published as failed, and the worker goes on with a fresh engine.

The worker is a machine whose steps are taken one at a time, so that requests may come between any two of
them.

* `Worker.step`: one step.
* `Worker.settle`: all steps that the worker takes when no further request comes.
-/

namespace StructuralDiff

/-- The newest outcome that the worker has published. -/
inductive Published where
  | ready (generation : Nat) (derivation : Derivation)
  | failed (generation : Nat)

namespace Published

/-- The generation of an outcome. -/
def generation : Published → Nat
  | .ready generation _ => generation
  | .failed generation => generation

/-- The derivation of an outcome that did not fail, with its generation. -/
def outcome? : Published → Option (Nat × Derivation)
  | .ready generation derivation => some (generation, derivation)
  | .failed _ => none

/-- The outcome of a generation; none stands for a breakdown. -/
def ofResult (generation : Nat) : Option Derivation → Published
  | some derivation => .ready generation derivation
  | none => .failed generation

end Published

/-- What the worker is doing. -/
inductive Phase where
  /-- It waits for a request. -/
  | idle
  /-- A derivation is running. -/
  | running (generation : Nat) (input : DerivationInput)
  /-- A derivation has ended or broken down. -/
  | finished (generation : Nat) (result : Option Derivation)
  /-- The result was the newest when it was compared, and is about to be published. -/
  | approved (generation : Nat) (result : Option Derivation)

/-- The state of a worker and its clients. -/
structure Worker where
  engine : Engine
  /-- The generation of the last request. -/
  submitted : Nat
  /-- The last request, if the worker has not begun with it. -/
  unseen : Option (Nat × DerivationInput)
  phase : Phase
  published : Option Published

namespace Worker

/-- A worker without any request. -/
def ofEngine (engine : Engine) : Worker :=
  { engine, submitted := 0, unseen := none, phase := .idle, published := none }

/-- A client submits a request. -/
def submit (worker : Worker) (input : DerivationInput) : Worker :=
  { worker with
    submitted := worker.submitted + 1
    unseen := some (worker.submitted + 1, input) }

/-- The worker begins with the last request. -/
def take (worker : Worker) : Worker :=
  match worker.phase, worker.unseen with
  | .idle, some (generation, input) =>
    { worker with phase := .running generation input, unseen := none }
  | _, _ => worker

/-- The running derivation breaks down, and the engine is lost with it. -/
def breakDown (worker : Worker) : Worker :=
  match worker.phase with
  | .running generation _ =>
    { worker with
      engine := Engine.ofCapacity worker.engine.cache.capacity
      phase := .finished generation none }
  | _ => worker

/-- The running derivation comes to its end, or to a strategy that breaks down. -/
def finish (worker : Worker) : Worker :=
  match worker.phase with
  | .running generation input =>
    match worker.engine.derive? input with
    | some (derivation, engine) =>
      { worker with engine, phase := .finished generation (some derivation) }
    | none => worker.breakDown
  | _ => worker

/-- The worker compares the generation of its result with the last one; a result that is not the newest is
dropped. -/
def compare (worker : Worker) : Worker :=
  match worker.phase with
  | .finished generation result =>
    if generation == worker.submitted then { worker with phase := .approved generation result }
    else { worker with phase := .idle }
  | _ => worker

/-- The worker publishes its result. -/
def publish (worker : Worker) : Worker :=
  match worker.phase with
  | .approved generation result =>
    { worker with phase := .idle, published := some (.ofResult generation result) }
  | _ => worker

/-- A step of a client or of the worker. -/
inductive Step where
  | submit (input : DerivationInput)
  | take
  | finish
  | breakDown
  | compare
  | publish

/-- What a step does; a step that is not due does nothing. -/
def step (worker : Worker) : Step → Worker
  | .submit input => worker.submit input
  | .take => worker.take
  | .finish => worker.finish
  | .breakDown => worker.breakDown
  | .compare => worker.compare
  | .publish => worker.publish

/-- What the steps of a list do. -/
def run (worker : Worker) (steps : List Step) : Worker :=
  steps.foldl step worker

/-- The worker brings the running derivation to its end and begins with the last request. -/
def proceed (worker : Worker) : Worker :=
  worker.run [.finish, .compare, .publish, .take]

/-- The worker works until it is idle and has seen the last request. -/
def settle (worker : Worker) : Worker :=
  worker.proceed.proceed

/-- What a client that waits for a generation gets, and the worker after that. A generation that was never
submitted cannot be waited for. -/
def waitFor? (worker : Worker) (generation : Nat) : Option (Option (Nat × Derivation) × Worker) :=
  if worker.submitted == 0 || worker.submitted < generation then none
  else
    let worker :=
      if worker.published.any (generation ≤ ·.generation) then worker else worker.settle
    some (worker.published.bind Published.outcome?, worker)

/-- The newest derivation, unless it failed. -/
def latest? (worker : Worker) : Option (Nat × Derivation) :=
  worker.published.bind Published.outcome?

end Worker

end StructuralDiff
