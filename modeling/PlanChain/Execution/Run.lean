import PlanChain.Execution.Apply
import PlanChain.Execution.Result
import PlanChain.Plan.Canonical
import PlanChain.Plan.Policy

set_option autoImplicit false

namespace PlanChain

-- Why a run ended without a result, and how many steps were done before, once steps counted.
structure Halt where
  failure : Failure
  stepCount : Option Nat
deriving DecidableEq

structure Prepared where
  plan : Plan
  planDigest : String

def prepare (raw : Json) (options : Options) : Except Halt Prepared :=
  let refuse (message : String) : Except Halt Prepared :=
    .error ⟨.of .invalidRequest message, none⟩
  if options.maxSteps ≤ 0 then refuse "maxSteps must be a positive integer"
  else
    match Policy.violations raw with
    | first :: rest => refuse ("Plan validation failed: " ++ Issue.listCodes (first :: rest))
    | [] =>
      match Plan.canonical raw with
      | .error issues => refuse ("Plan canonicalization failed: " ++ Issue.describeAll issues)
      | .ok plan =>
        if options.maxSteps.toInt < plan.steps.length then
          .error ⟨.of .executionConvergenceFailed "Plan exceeds maxSteps bound", some 0⟩
        else .ok ⟨plan, plan.digest⟩

structure StepEvent where
  traceId : String
  planId : String
  stepIndex : Nat
  stepId : String
  kind : StepKind
  failure : Option Failure
deriving DecidableEq

namespace StepEvent

def members (event : StepEvent) : Members :=
  [("event", .str "step.end"), ("level", .str (if event.failure.isNone then "INFO" else "WARN")),
    ("trace_id", .str event.traceId), ("plan_id", .str event.planId),
    ("step_index", .ofNat event.stepIndex), ("step_id", .str event.stepId),
    ("kind", event.kind.toJson), ("ok", .bool event.failure.isNone)]
  ++ match event.failure with
    | none => []
    | some failure =>
      [("error_code", failure.code.toJson), ("error_message", .str failure.message)]

def toJson (event : StepEvent) : Json := .obj event.members

end StepEvent

structure Reporter where
  traceId : Option String
  planId : String

def Reporter.report (reporter : Reporter) (stepIndex : Nat) (step : Step)
    (failure : Option Failure) : List StepEvent :=
  match reporter.traceId with
  | none => []
  | some traceId => [⟨traceId, reporter.planId, stepIndex, step.id, step.kind, failure⟩]

inductive Progress where
  | finished (chain : Trace.Chain) (state : State)
  | halted (halt : Halt)
  | crashed

structure Walk (σ : Type) where
  progress : Progress
  events : List StepEvent
  world : σ

def walk {σ : Type} (apply : Applier σ) (reporter : Reporter) (stepIndex : Nat)
    (chain : Trace.Chain) (state : State) (steps : List Step) (world : σ) : Walk σ :=
  match steps with
  | [] => ⟨.finished chain state, [], world⟩
  | step :: rest =>
    match apply state step world with
    | (.crash, world) => ⟨.crashed, [], world⟩
    | (.error reason, world) =>
      let failure := reason.toFailure
      ⟨.halted ⟨failure, some stepIndex⟩, reporter.report stepIndex step (some failure), world⟩
    | (.next next, world) =>
      let chain := chain.record step state next state.fingerprint next.fingerprint
      let later := walk apply reporter (stepIndex + 1) chain next rest world
      { later with events := reporter.report stepIndex step none ++ later.events }

def Prepared.finish (prepared : Prepared) (chain : Trace.Chain) (state : State) : ExecutionResult :=
  let stepCount := UInt64.ofNat prepared.plan.steps.length
  let finalLink := chain.latest
  { planId := prepared.plan.planId
    planDigest := prepared.planDigest
    executionDigest := Trace.ExecutionInput.digest
      { planDigest := prepared.planDigest, stepCount, finalLink, finalState := state }
    finalLink
    schemaVersion := Trace.schemaVersion
    stepsRequested := stepCount
    stepsExecuted := UInt64.ofNat chain.entries.length
    converged := true
    finalState := state
    trace := chain.entries }

inductive Outcome where
  | result (result : ExecutionResult)
  | halted (halt : Halt)
  | crashed

namespace Outcome

def ofProgress (prepared : Prepared) : Progress → Outcome
  | .finished chain state => result (prepared.finish chain state)
  | .halted reason => halted reason
  | .crashed => crashed

def toExcept? : Outcome → Option (Except Failure ExecutionResult)
  | result found => some (.ok found)
  | halted reason => some (.error reason.failure)
  | crashed => none

def toResponse? (options : Options) : Outcome → Option ExecutionResponse
  | result found =>
    some (.success found ⟨options.mode, some found.stepsExecuted, options.traceId⟩)
  | halted reason =>
    some (.failure reason.failure
      ⟨options.mode, reason.stepCount.map UInt64.ofNat, options.traceId⟩)
  | crashed => none

end Outcome

structure Run (σ : Type) where
  outcome : Outcome
  events : List StepEvent
  world : σ

def execute {σ : Type} (apply : Applier σ) (raw : Json) (options : Options) (world : σ) : Run σ :=
  match prepare raw options with
  | .error halt => ⟨.halted halt, [], world⟩
  | .ok prepared =>
    let walked := walk apply ⟨options.traceId, prepared.plan.planId⟩ 0 .empty .empty
      prepared.plan.steps world
    ⟨.ofProgress prepared walked.progress, walked.events, walked.world⟩

def simulate (raw : Json) (options : Options) : Outcome :=
  (execute simulation raw options ()).outcome

end PlanChain
