import PlanChain.Execution.Run
import PlanChain.Sandbox.Provider

/-! In live mode each sandbox step is a call to the session of its id, created when it is first needed,
bounded by the step timeout and cut short by cancellation; every other step goes to the applier. Whatever the
outcome, the sessions are closed in the order of their ids, and then the provider is shut down. -/

set_option autoImplicit false

namespace PlanChain

structure Environment (σ : Type) where
  apply : Applier σ
  provider : Option (Provider σ)
  timeout : UInt64
  cancelled : σ → Bool

def defaultStepTimeout : UInt64 := 5000

structure Underway (σ : Type) where
  line : Timeline σ
  opened : Table Unit

namespace Environment

variable {σ : Type}

def ensure (provider : Provider σ) (traceId : Option String) (sessionId : String)
    (run : Underway σ) : Underway σ :=
  if run.opened.contains sessionId then run
  else
    { line := { run.line with world := provider.create sessionId traceId run.line.world }
      opened := run.opened.insert sessionId () }

def ask (env : Environment σ) (provider : Provider σ) (kind : StepKind) (sessionId : String)
    (call : SandboxCall) (line : Timeline σ) : Except StepError SandboxReply × Timeline σ :=
  if env.cancelled line.world then (.error .cancelled, line)
  else
    let (pending, world) := provider.call sessionId call line.world
    match { line with world }.await env.cancelled env.timeout.toNat pending with
    | (.cut, line) => (.error .cancelled, line)
    | (.expired, line) => (.error (.timeout kind env.timeout), line)
    | (.answered (.error error), line) => (.error (.sandbox kind error.code error.message), line)
    | (.answered (.ok reply), line) => (.ok reply, line)

-- Applies a step in a session. What is read there is kept in form C.
def applyInSession (env : Environment σ) (provider : Provider σ) (traceId : Option String)
    (state : State) (sessionId : String) (action : SandboxAction) (run : Underway σ) :
    Applied × Underway σ :=
  let run := ensure provider traceId sessionId run
  let (answer, line) := env.ask provider action.kind sessionId action.call run.line
  (.ofExcept (answer.map fun reply =>
      state.afterSandbox sessionId action (Text.nfc reply.text)),
    { run with line })

def applyAside (env : Environment σ) (state : State) (step : Step) (run : Underway σ) :
    Applied × Underway σ :=
  let (applied, world) := env.apply state step run.line.world
  (applied, { run with line := { run.line with world } })

def step (env : Environment σ) (options : Options) : Applier (Underway σ) := fun state step run =>
  if env.cancelled run.line.world then (.error .cancelled, run)
  else
    match options.mode, step.action, env.provider with
    | .live, .sandbox sessionId action, some provider =>
      env.applyInSession provider options.traceId state sessionId action run
    | _, _, _ => env.applyAside state step run

def settle (env : Environment σ) (start : σ → Pending σ Unit × σ) (line : Timeline σ) :
    Timeline σ :=
  let (pending, world) := start line.world
  { line with world }.settle env.timeout.toNat pending

def shutdown (env : Environment σ) (line : Timeline σ) : Timeline σ :=
  match env.provider with
  | none => line
  | some provider => env.settle provider.shutdown line

def teardown (env : Environment σ) (run : Underway σ) : Timeline σ :=
  match env.provider with
  | none => run.line
  | some provider =>
    env.shutdown <|
      run.opened.keys.foldl (fun line sessionId => env.settle (provider.close sessionId) line) run.line

def lacksProvider (env : Environment σ) (options : Options) (plan : Plan) : Bool :=
  options.mode = .live && env.provider.isNone && plan.steps.any (·.kind.isSandbox)

-- Runs a submitted plan. After a crash nothing is closed.
def execute (env : Environment σ) (raw : Json) (options : Options) (line : Timeline σ) :
    Run (Timeline σ) :=
  match prepare raw options with
  | .error halt => ⟨.halted halt, [], env.shutdown line⟩
  | .ok prepared =>
    if env.lacksProvider options prepared.plan then
      ⟨.halted ⟨.of .invalidRequest "local mode sandbox steps require a sandbox factory", some 0⟩,
        [], line⟩
    else
      let walked := walk (env.step options) ⟨options.traceId, prepared.plan.planId⟩ 0 .empty .empty
        prepared.plan.steps ⟨line, ∅⟩
      ⟨.ofProgress prepared walked.progress, walked.events,
        match walked.progress with
        | .crashed => walked.world.line
        | _ => env.teardown walked.world⟩

end Environment

end PlanChain
