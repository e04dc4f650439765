import PlanChain.Execution.Live
import PlanChain.Execution.Result
import PlanChain.Run.Request

/-! Only retryable failures lead to another attempt. The waits between attempts are planned, and doubled each
time up to a cap, but not kept: an attempt follows at once. -/

set_option autoImplicit false

namespace PlanChain

structure RetryParams where
  maxIterations : UInt32 := 20
  baseBackoff : UInt64 := 25
  maxBackoff : UInt64 := 1000
deriving DecidableEq

namespace RetryParams

def toJson (params : RetryParams) : Json :=
  .obj [("maxIterations", .ofUInt32 params.maxIterations),
    ("baseBackoffMs", .ofUInt64 params.baseBackoff), ("maxBackoffMs", .ofUInt64 params.maxBackoff)]

def fields : List String := ["maxIterations", "baseBackoffMs", "maxBackoffMs"]

def ofJson? (json : Json) : Option RetryParams := do
  let members ← json.record? fields
  let standard : RetryParams := {}
  some {
    maxIterations := ← members.defaulted "maxIterations" standard.maxIterations Json.uint32?
    baseBackoff := ← members.defaulted "baseBackoffMs" standard.baseBackoff Json.uint64?
    maxBackoff := ← members.defaulted "maxBackoffMs" standard.maxBackoff Json.uint64? }

end RetryParams

-- The wait after an attempt: the base, doubled once for each attempt before, up to the cap.
def backoff (attempt : UInt32) (base cap : UInt64) : UInt64 :=
  min (Word.saturatingMul base (Word.saturatingPow2 attempt)) cap

inductive RetryStatus where
  | completed
  | failed
  | terminal
deriving DecidableEq

namespace RetryStatus

def all : List RetryStatus := [.completed, .failed, .terminal]

def name : RetryStatus → String
  | completed => "completed"
  | failed => "failed"
  | terminal => "terminal"

def ofName? (name : String) : Option RetryStatus := all.find? (·.name = name)

def toJson (status : RetryStatus) : Json := .str status.name

def ofJson? (json : Json) : Option RetryStatus := json.enumName?.bind ofName?

end RetryStatus

-- How retrying ended: with a response that succeeds, with a failure that another try could not mend, or
-- with one that no try will.
inductive Verdict where
  | completed (response : ExecutionResponse)
  | failed (failure : Failure)
  | terminal (failure : Failure)
deriving DecidableEq

namespace Verdict

def status : Verdict → RetryStatus
  | completed _ => .completed
  | failed _ => .failed
  | terminal _ => .terminal

def failure? : Verdict → Option Failure
  | completed _ => none
  | failed failure | terminal failure => some failure

def response? : Verdict → Option ExecutionResponse
  | completed response => some response
  | failed _ | terminal _ => none

end Verdict

structure RetryOutcome where
  verdict : Verdict
  iterations : UInt32
  schedule : List UInt64
deriving DecidableEq

namespace RetryOutcome

def scheduleJson (outcome : RetryOutcome) : Json := .arr (outcome.schedule.map .ofUInt64)

def toJson (outcome : RetryOutcome) : Json :=
  .obj <|
    [("status", outcome.verdict.status.toJson), ("iterationsUsed", .ofUInt32 outcome.iterations),
      ("backoffScheduleMs", outcome.scheduleJson)]
    ++ Json.present "lastErrorCode" (fun failure => failure.code.toJson) outcome.verdict.failure?
    ++ Json.present "lastErrorMessage" (fun failure => .str failure.message) outcome.verdict.failure?
    ++ Json.present "execution" ExecutionResponse.toJson outcome.verdict.response?

end RetryOutcome

structure RetryTracker where
  params : RetryParams
  iterations : UInt32 := 0
  schedule : List UInt64 := []

namespace RetryTracker

def hasBudget (tracker : RetryTracker) : Bool := tracker.iterations < tracker.params.maxIterations

def conclude (tracker : RetryTracker) (verdict : Verdict) : RetryOutcome :=
  ⟨verdict, tracker.iterations, tracker.schedule⟩

-- Takes in the response of an attempt: either the outcome, or the failure to be retried. Whether a failure
-- is retryable is told by its code.
def observe (tracker : RetryTracker) (response : ExecutionResponse) :
    Except RetryOutcome Failure × RetryTracker :=
  let after := { tracker with iterations := tracker.iterations + 1 }
  match response with
  | .success _ _ => (.error (after.conclude (.completed response)), after)
  | .failure failure _ =>
    if failure.code.isRetryable then
      let wait :=
        backoff tracker.iterations tracker.params.baseBackoff tracker.params.maxBackoff
      (.ok failure, { after with schedule := after.schedule ++ [wait] })
    else if failure.code = .executionConvergenceFailed then
      (.error (after.conclude (.terminal failure)), after)
    else (.error (after.conclude (.failed failure)), after)

def cancelled (tracker : RetryTracker) : RetryOutcome :=
  tracker.conclude (.failed (.of .runCancelled "Run cancelled before retry"))

def exhausted (tracker : RetryTracker) : RetryOutcome :=
  tracker.conclude
    (.terminal (.of .fixpointMaxIter "Fixpoint did not converge within max iterations"))

end RetryTracker

structure Attempt (σ : Type) where
  response : Option ExecutionResponse
  events : List StepEvent
  world : σ

-- What is tried, and what is done before it is tried again: given the number of the attempt that failed
-- and its failure, it tells whether to stop.
structure Retrying (σ : Type) where
  attempt : σ → Attempt σ
  stops : UInt32 → Failure → σ → Bool × σ

structure Retried (σ : Type) where
  outcome : Option RetryOutcome
  events : List StepEvent
  world : σ

namespace Retrying

variable {σ : Type}

def tryUpTo (retrying : Retrying σ) : (budget : Nat) → RetryTracker → σ → Retried σ
  | 0, tracker, world => ⟨some tracker.exhausted, [], world⟩
  | budget + 1, tracker, world =>
    let tried := retrying.attempt world
    match tried.response with
    | none => ⟨none, tried.events, tried.world⟩
    | some response =>
      match tracker.observe response with
      | (.error outcome, _) => ⟨some outcome, tried.events, tried.world⟩
      | (.ok failure, after) =>
        let (stop, world) := retrying.stops tracker.iterations failure tried.world
        if stop then ⟨some after.cancelled, tried.events, world⟩
        else
          let later := retrying.tryUpTo budget after world
          { later with events := tried.events ++ later.events }

def run (retrying : Retrying σ) (params : RetryParams) (world : σ) : Retried σ :=
  retrying.tryUpTo params.maxIterations.toNat { params } world

end Retrying

def Run.toAttempt {σ : Type} (options : Options) (run : Run σ) : Attempt σ :=
  ⟨run.outcome.toResponse? options, run.events, run.world⟩

def Retrying.ofApplier {σ : Type} (apply : Applier σ) (request : ExecuteRequest)
    (stops : UInt32 → Failure → σ → Bool × σ) : Retrying σ where
  attempt world := (execute apply request.plan request.options world).toAttempt request.options
  stops := stops

def retry {σ : Type} (apply : Applier σ) (request : ExecuteRequest) (params : RetryParams)
    (world : σ) : Retried σ :=
  (Retrying.ofApplier apply request fun _ _ world => (false, world)).run params world

-- Retrying a request against live sessions. What is done between the attempts takes no time, and
-- cancellation stops the retrying too.
def Environment.retrying {σ : Type} (env : Environment σ) (request : ExecuteRequest)
    (stops : UInt32 → Failure → σ → Bool × σ) : Retrying (Timeline σ) where
  attempt line := (env.execute request.plan request.options line).toAttempt request.options
  stops attempt failure line :=
    let (stop, world) := stops attempt failure line.world
    (stop || env.cancelled world, { line with world })

end PlanChain
