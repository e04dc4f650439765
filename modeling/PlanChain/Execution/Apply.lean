import PlanChain.Failure
import PlanChain.Part
import PlanChain.Plan.Basic
import PlanChain.Sandbox.Basic
import PlanChain.State

set_option autoImplicit false

namespace PlanChain

inductive StepError where
  | counterOverflow (key : String)
  | sandbox (kind : StepKind) (code : SandboxErrorCode) (message : String)
  | timeout (kind : StepKind) (milliseconds : UInt64)
  | cancelled
  | failed (message : String)
deriving DecidableEq

namespace StepError

-- A session's transient failures keep their class; what else it reports is an internal error.
def code : StepError → ErrorCode
  | counterOverflow _ | failed _ => .internalError
  | sandbox _ .timeout _ => .timeout
  | sandbox _ .networkError _ => .networkError
  | sandbox _ .overloaded _ => .overloaded
  | sandbox _ _ _ => .internalError
  | timeout _ _ => .timeout
  | cancelled => .runCancelled

def message : StepError → String
  | counterOverflow key => "counter overflow on key '" ++ key ++ "'"
  | sandbox kind code message => kind.name ++ " failed: " ++ code.name ++ ": " ++ message
  | timeout kind milliseconds =>
    kind.name ++ " timed out after " ++ Text.numeral milliseconds.toNat ++ "ms"
  | cancelled => "step cancelled"
  | failed message => message

def toFailure (error : StepError) : Failure := .of error.code error.message

end StepError

def checkedAdd (a b : Int64) : Option Int64 := Word.int64? (a.toInt + b.toInt)

namespace State

-- Performs a core action in place: whether it was one, or why it failed, and the state after it. A counter
-- that is not there yet starts at zero.
def perform (state : State) : Action → Except StepError Bool × State
  | .set key value => (.ok true, { state with values := state.values.insert key value })
  | .increment key amount =>
    let present := if state.counters.contains key then state.counters else state.counters.insert key 0
    match checkedAdd ((present.get? key).getD 0) amount with
    | some sum => (.ok true, { state with counters := present.insert key sum })
    | none => (.error (.counterOverflow key), { state with counters := present })
  | .appendLog line => (.ok true, { state with logs := state.logs ++ [line] })
  | .sandbox _ _ => (.ok false, state)

def placeholder (selector : String) : String := "mock:" ++ selector

def afterSandbox (state : State) (sessionId : String) (action : SandboxAction) (text : String) :
    State :=
  { state with
    values := match action.outputKey? with
      | some key => state.values.insert key text
      | none => state.values
    logs := state.logs ++ [action.logLine sessionId] }

def simulate (state : State) (step : Step) : Except StepError State :=
  match state.perform step.action with
  | (.error error, _) => .error error
  | (.ok _, next) =>
    match step.action with
    | .sandbox sessionId action =>
      .ok (next.afterSandbox sessionId action (placeholder (action.selector?.getD "")))
    | _ => .ok next

end State

inductive Applied where
  | next (state : State)
  | error (error : StepError)
  | crash

def Applied.ofExcept : Except StepError State → Applied
  | .ok state => .next state
  | .error reason => .error reason

-- Something that applies steps; it may look at and change a world of its own.
abbrev Applier (σ : Type) := State → Step → σ → Applied × σ

def Applier.within {σ τ : Type} (part : Part σ τ) (apply : Applier τ) : Applier σ :=
  fun state step world =>
    let (applied, inner) := apply state step (part.get world)
    (applied, part.set inner world)

def simulation {σ : Type} : Applier σ := fun state step world =>
  (.ofExcept (state.simulate step), world)

end PlanChain
