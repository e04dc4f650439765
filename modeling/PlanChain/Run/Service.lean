import PlanChain.Config
import PlanChain.Execution.Live
import PlanChain.Run.Store
import PlanChain.Tool

set_option autoImplicit false

namespace PlanChain

structure World (ρ : Type) where
  store : Store
  rest : ρ

structure Service (ρ : Type) where
  config : Config := {}
  tools : ToolRegistry := .builtin
  apply : Applier (World ρ) := simulation
  provider : Option (Provider (World ρ)) := none

structure Served (σ : Type) where
  result : Except RegistryError RunRecord
  events : List StepEvent
  world : σ

namespace Service

variable {ρ : Type}

def beforeRetry (runId : String) (world : World ρ) : Bool × World ρ :=
  let (stop, store) := world.store.beforeRetry runId
  (stop, { world with store })

def conclude (runId : String) (outcome : Option RetryOutcome) (events : List StepEvent)
    (world : World ρ) : Served (World ρ) :=
  let (result, store) := world.store.finish runId outcome
  ⟨result, events, { world with store }⟩

def execute (service : Service ρ) (runId : String) (request : ExecuteRequest) (world : World ρ) :
    Served (World ρ) :=
  match world.store.begin runId with
  | (.error error, store) => ⟨.error error, [], { world with store }⟩
  | (.ok _, store) =>
    let retrying := Retrying.ofApplier service.apply request fun _ _ => beforeRetry runId
    let retried := retrying.run service.config.retry { world with store }
    conclude runId retried.outcome retried.events retried.world

def environment (service : Service ρ) (runId : String) : Environment (World ρ) where
  apply := service.apply
  provider := service.provider
  timeout := service.config.stepTimeout
  cancelled world := world.store.isCancelled runId

-- Executes a run against live sessions, with retries, while alarms ring. The alarms that are due at the
-- start ring before the first attempt; those that have not rung at the end never will.
def executeLive (service : Service ρ) (runId : String) (request : ExecuteRequest)
    (alarms : List (Alarm (World ρ))) (world : World ρ) : Served (World ρ) :=
  match world.store.begin runId with
  | (.error error, store) => ⟨.error error, [], { world with store }⟩
  | (.ok _, store) =>
    let retrying := (service.environment runId).retrying request fun _ _ => beforeRetry runId
    let retried :=
      retrying.run service.config.retry (Timeline.start alarms { world with store }).giveWay
    conclude runId retried.outcome retried.events retried.world.world

def invoke (service : Service ρ) (toolName : String) (input : Members) (traceId : Option String) :
    ToolExecution :=
  service.tools.invoke { toolName, input, timeout := some service.config.toolTimeout, traceId }

def describe (service : Service ρ) (world : World ρ) : String :=
  "RunService \x7b config: " ++ service.config.describe ++ ", runs: "
    ++ Text.numeral world.store.registry.size ++ ", tools: " ++ service.tools.describe
    ++ ", .. \x7d"

end Service

namespace Environment

def describe {σ : Type} (env : Environment σ) : String :=
  "SessionExecutor \x7b has_factory: " ++ (if env.provider.isSome then "true" else "false")
    ++ ", step_timeout: " ++ describeMilliseconds env.timeout.toNat ++ ", .. \x7d"

end Environment

end PlanChain
