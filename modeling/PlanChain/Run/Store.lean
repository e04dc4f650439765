import PlanChain.Retry
import PlanChain.Run.Registry

/-! Every operation here is one step, made on the whole store at once. -/

set_option autoImplicit false

namespace PlanChain

-- A clock: its readings, and how often it was read.
structure Clock where
  reading : Nat → Timestamp
  ticks : Nat := 0

namespace Clock

def now (clock : Clock) : Timestamp := clock.reading clock.ticks

def tick (clock : Clock) : Clock := { clock with ticks := clock.ticks + 1 }

def stopped (moment : Timestamp) : Clock := { reading := fun _ => moment }

end Clock

structure Store where
  clock : Clock
  registry : Registry := .empty
  checkpoints : Table RunRecord := ∅
  cancellations : Table Bool := ∅

namespace Store

def create (store : Store) (request : CreateRequest) : RunRecord × Store :=
  let (record, registry) := store.registry.create request store.clock.now
  (record, { store with registry, clock := store.clock.tick })

def change (store : Store)
    (transition : Registry → Timestamp → Except RegistryError (RunRecord × Registry)) :
    Except RegistryError RunRecord × Store :=
  match transition store.registry store.clock.now with
  | .error error => (.error error, store)
  | .ok (record, registry) => (.ok record, { store with registry, clock := store.clock.tick })

def save (store : Store) (runId : String) (snapshot : RunRecord) : Store :=
  { store with checkpoints := store.checkpoints.insert runId snapshot }

def discard (store : Store) (runId : String) : Store :=
  { store with checkpoints := store.checkpoints.erase runId }

def isCancelled (store : Store) (runId : String) : Bool :=
  (store.cancellations.get? runId).getD false

def signal (store : Store) (runId : String) : Store :=
  if store.cancellations.contains runId then
    { store with cancellations := store.cancellations.insert runId true }
  else store

def cancel (store : Store) (runId : String) (reason : Option String) :
    Except RegistryError RunRecord × Store :=
  match store.change (·.cancel runId reason) with
  | (.error error, store) => (.error error, store)
  | (.ok record, store) => (.ok record, store.signal runId)

def watch (store : Store) (runId : String) : Store :=
  { store with cancellations := store.cancellations.insert runId false }

def unwatch (store : Store) (runId : String) : Store :=
  { store with cancellations := store.cancellations.erase runId }

def begin (store : Store) (runId : String) : Except RegistryError RunRecord × Store :=
  match store.change (·.start runId) with
  | (.error error, store) => (.error error, store)
  | (.ok record, store) => (.ok record, (store.save runId record).watch runId)

-- Restores the checkpoint of a run before it is tried again, and tells whether to stop instead: when it
-- was cancelled, or has ended.
def beforeRetry (store : Store) (runId : String) : Bool × Store :=
  if store.isCancelled runId then (true, store)
  else
    match store.checkpoints.get? runId with
    | none => (false, store)
    | some snapshot =>
      match store.registry.restore? snapshot with
      | none => (true, store)
      | some registry => (false, { store with registry })

def output (outcome : RetryOutcome) (response : ExecutionResponse) : Members :=
  [("execution", response.toJson.sortMembers),
    ("metrics", .obj [("backoffScheduleMs", outcome.scheduleJson),
      ("fixpointIterations", .ofUInt32 outcome.iterations)])]

-- The transition that ends a run with an outcome; without one, the execution crashed.
def conclusion (runId : String) (outcome : Option RetryOutcome) (registry : Registry)
    (now : Timestamp) : Except RegistryError (RunRecord × Registry) :=
  match outcome with
  | none => registry.fail runId ⟨Failure.unhandled.code, Failure.unhandled.message⟩ now
  | some outcome =>
    match outcome.verdict with
    | .completed response => registry.complete runId (some (output outcome response)) now
    | .failed failure | .terminal failure =>
      registry.fail runId ⟨failure.code, failure.message⟩ now

-- Ends the execution of a run. A run that was cancelled meanwhile stays as it is.
def finish (store : Store) (runId : String) (outcome : Option RetryOutcome) :
    Except RegistryError RunRecord × Store :=
  match ((store.discard runId).unwatch runId).change (conclusion runId outcome) with
  | (.error (.invalidTransition .cancelled _), store) =>
    (match store.registry.get? runId with
      | some record => .ok record
      | none => .error (.notFound runId), store)
  | ended => ended

end Store

end PlanChain
