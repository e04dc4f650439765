import PlanChain.Proofs.Execution.Journal
import PlanChain.Proofs.Replay

set_option autoImplicit false

namespace PlanChain

namespace Step

def writes? (step : Step) : Option String :=
  match step.action with
  | .set key _ => some key
  | .sandbox _ action => action.outputKey?
  | _ => none

def leaves (step : Step) (text : String) : String :=
  match step.action with
  | .set _ value => value
  | _ => text

def sessionCall? (step : Step) : Option (String × SandboxCall) :=
  match step.action with
  | .sandbox sessionId action => some (sessionId, action.call)
  | _ => none

def placeholder (step : Step) : String :=
  State.placeholder ((step.action.sandboxAction?.bind SandboxAction.selector?).getD "")

end Step

def plannedCalls (steps : List Step) : List (String × SandboxCall) := steps.filterMap Step.sessionCall?

-- The step at an index is the last of some steps that leaves a value under a name.
def LastWrites (steps : List Step) (index : Nat) (step : Step) (key : String) : Prop :=
  steps[index]? = some step ∧ step.writes? = some key ∧ ∀ later ∈ steps.drop (index + 1), later.writes? ≠ some key

namespace State

-- What a step makes of a state when its session, if it is in one, says a text.
def told (state : State) (step : Step) (text : String) : Except StepError State :=
  match step.action with
  | .sandbox sessionId action => .ok (state.afterSandbox sessionId action text)
  | _ => state.simulate step

structure Alike (live mock : State) : Prop where
  counters : live.counters = mock.counters
  logs : live.logs = mock.logs
  names : ∀ name, live.values.contains name = mock.values.contains name

variable {live mock state next : State} {step : Step} {text other : String}

end State

inductive Leaves (answer : Option (String × SandboxOutcome)) : Action → Option String → Option String → Prop where
  | set (key value : String) : Leaves answer (.set key value) (some value) (some value)
  | extract (sessionId selector key : String) (reply : SandboxReply)
      (answered : answer = some (sessionId, .ok reply)) :
      Leaves answer (.sandbox sessionId (.extract selector key)) (some (Text.nfc reply.text))
        (some (State.placeholder selector))

-- The states that some steps lead to, live and in simulation, when the deeds were noted live.
structure Twins (done : List Step) (deeds : List Deed) (live mock : State) : Prop where
  alike : live.Alike mock
  called : deeds.filterMap Deed.called? = plannedCalls done
  answered : (deeds.filterMap Deed.answered?).length = (plannedCalls done).length
  values : ∀ index step key, LastWrites done index step key →
    Leaves (deeds.filterMap Deed.answered?)[(plannedCalls (done.take index)).length]? step.action
      (live.values.get? key) (mock.values.get? key)

section Twins

variable {done : List Step} {before deeds : List Deed} {live mock next mockNext : State} {step : Step} {text : String}

end Twins

namespace Environment

variable {σ : Type}

variable {env : Environment σ} {provider : Provider σ} {alarms : List (Alarm σ)}
  {ready : Table Unit → List (String × SandboxCall) → σ → Prop} {opened : Table Unit}
  {calls : List (String × SandboxCall)}

section Asks

variable {kind : StepKind} {sessionId : String} {asked : SandboxCall} {line later : Timeline σ} {deeds : List Deed}
  {answer : Except StepError SandboxReply}

end Asks

section Acts

variable {options : Options} {state : State} {step : Step} {rest : List Step} {run later : Underway σ}
  {result : Applied} {deeds : List Deed}

end Acts

section Walks

variable {options : Options} {index : Nat} {state mock : State} {done steps : List Step} {run later : Underway σ}
  {progress : Progress} {before deeds : List Deed}

inductive Ends (done : List Step) (deeds : List Deed) : Progress → Progress → Prop where
  | together (chain mockChain : Trace.Chain) (live mock : State) (twins : Twins done deeds live mock) :
      Ends done deeds (.finished chain live) (.finished mockChain mock)
  | apart (halt mockHalt : Halt) : Ends done deeds (.halted halt) (.halted mockHalt)

end Walks

end Environment

section Runs

variable {σ : Type} {env : Environment σ} {provider : Provider σ} {alarms : List (Alarm σ)}
  {ready : Table Unit → List (String × SandboxCall) → σ → Prop} {raw : Json} {options : Options} {prepared : Prepared}

end Runs

end PlanChain
