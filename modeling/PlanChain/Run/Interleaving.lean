import PlanChain.Run.Store

/-! An execution, and every call that cancels its run, is a sequence of single operations on the registry, the
checkpoints and the cancellations. A schedule says in which order the operations of all of them happen, and
what an attempt answers. -/

set_option autoImplicit false

namespace PlanChain

-- Where a call stands. It first changes the registry, then tells the execution, if there is one to tell.
inductive CancelCall where
  | waiting
  | signalling (reason : Option String) (record : RunRecord)
  | returned (reason : Option String) (result : Except RegistryError RunRecord)

def CancelCall.won? : CancelCall → Option (Option String × RunRecord)
  | waiting => none
  | signalling reason record => some (reason, record)
  | returned reason (.ok record) => some (reason, record)
  | returned _ (.error _) => none

-- Where an execution stands: a phase is named for the operation that comes next, and holds what the
-- execution has in its hands until then.
inductive Phase where
  | idle
  | refused (error : RegistryError)
  | saving (record : RunRecord)
  | watching
  | attempting (tracker : RetryTracker)
  | checking (tracker : RetryTracker)
  | loading (tracker : RetryTracker)
  | restoring (tracker : RetryTracker) (snapshot : RunRecord)
  | rechecking (tracker : RetryTracker)
  | discarding (outcome : Option RetryOutcome)
  | unwatching (outcome : Option RetryOutcome)
  | concluding (outcome : Option RetryOutcome)
  | fetching
  | returned (result : Except RegistryError RunRecord)

def Phase.isStarted : Phase → Bool
  | idle | refused _ => false
  | _ => true

-- An execution to be made. A live one looks for a cancellation once more before it tries again.
structure Job where
  runId : String
  live : Bool
  params : RetryParams

structure Situation where
  store : Store
  phase : Phase
  calls : Nat → CancelCall

def Situation.initial (store : Store) : Situation := ⟨store, .idle, fun _ => .waiting⟩

-- The next operation of the execution, or of a call. An attempt that is made next gives the answer that
-- the event holds; none is a crash. A call that begins is made for the reason that the event holds.
inductive Event where
  | execution (answer : Option ExecutionResponse)
  | cancel (call : Nat) (reason : Option String)

namespace Job

def proceed (job : Job) (tracker : RetryTracker) : Phase :=
  if job.live then .rechecking tracker else .attempting tracker

def advance (job : Job) (answer : Option ExecutionResponse) (store : Store) : Phase → Phase × Store
  | .idle =>
    match store.change (·.start job.runId) with
    | (.error error, store) => (.refused error, store)
    | (.ok record, store) => (.saving record, store)
  | .refused error => (.refused error, store)
  | .saving record => (.watching, store.save job.runId record)
  | .watching => (.attempting { params := job.params }, store.watch job.runId)
  | .attempting tracker =>
    if tracker.hasBudget then
      match answer with
      | none => (.discarding none, store)
      | some response =>
        match tracker.observe response with
        | (.error outcome, _) => (.discarding (some outcome), store)
        | (.ok _, after) => (.checking after, store)
    else (.discarding (some tracker.exhausted), store)
  | .checking tracker =>
    if store.isCancelled job.runId then (.discarding (some tracker.cancelled), store)
    else (.loading tracker, store)
  | .loading tracker =>
    match store.checkpoints.get? job.runId with
    | none => (job.proceed tracker, store)
    | some snapshot => (.restoring tracker snapshot, store)
  | .restoring tracker snapshot =>
    match store.registry.restore? snapshot with
    | none => (.discarding (some tracker.cancelled), store)
    | some registry => (job.proceed tracker, { store with registry })
  | .rechecking tracker =>
    if store.isCancelled job.runId then (.discarding (some tracker.cancelled), store)
    else (.attempting tracker, store)
  | .discarding outcome => (.unwatching outcome, store.discard job.runId)
  | .unwatching outcome => (.concluding outcome, store.unwatch job.runId)
  | .concluding outcome =>
    match store.change (Store.conclusion job.runId outcome) with
    | (.error (.invalidTransition .cancelled _), store) => (.fetching, store)
    | (ended, store) => (.returned ended, store)
  | .fetching =>
    match store.registry.get? job.runId with
    | some record => (.returned (.ok record), store)
    | none => (.returned (.error (.notFound job.runId)), store)
  | .returned result => (.returned result, store)

def cancelStep (job : Job) (reason : Option String) (store : Store) : CancelCall → CancelCall × Store
  | .waiting =>
    match store.change (·.cancel job.runId reason) with
    | (.error error, store) => (.returned reason (.error error), store)
    | (.ok record, store) => (.signalling reason record, store)
  | .signalling reason record => (.returned reason (.ok record), store.signal job.runId)
  | .returned reason result => (.returned reason result, store)

def step (job : Job) (situation : Situation) : Event → Situation
  | .execution answer =>
    let (phase, store) := job.advance answer situation.store situation.phase
    { situation with phase, store }
  | .cancel call reason =>
    let (made, store) := job.cancelStep reason situation.store (situation.calls call)
    { situation with
      store
      calls := fun other => if other = call then made else situation.calls other }

def run (job : Job) (situation : Situation) (schedule : List Event) : Situation :=
  schedule.foldl job.step situation

end Job

end PlanChain
