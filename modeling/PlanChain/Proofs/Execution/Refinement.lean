import PlanChain.Plan.Wire
import PlanChain.Proofs.Execution.Journal
import PlanChain.Proofs.Execution.Prepare

set_option autoImplicit false

namespace PlanChain

variable {σ : Type}

section Plain

variable (cancelled : σ → Bool) (apply : Applier σ)

theorem plain_walk_journalled (reporter : Reporter) (index : Nat) (chain : Trace.Chain) (state : State)
    (steps : List Step) (world : σ) (journal : List Deed) :
    ∃ deeds, walk (apply.journalled cancelled) reporter index chain state steps ⟨world, journal⟩ =
      ⟨(walk apply reporter index chain state steps world).progress,
        (walk apply reporter index chain state steps world).events,
        ⟨(walk apply reporter index chain state steps world).world, journal ++ deeds⟩⟩ := by
  induction steps generalizing index chain state world journal with
  | nil => exact ⟨[], by simp [walk]⟩
  | cons step rest ih =>
      cases applied : apply state step world with
      | mk result after =>
          have noted : apply.journalled cancelled state step ⟨world, journal⟩ = (result, ⟨after, journal ++
              (.apply state step :: (Deed.moment cancelled world after ++ [.applied result]))⟩) := by
            simp [Applier.journalled, Journalled.note, applied]
          rw [walk, walk, noted, applied]
          cases result with
          | crash => exact ⟨_, rfl⟩
          | error reason => exact ⟨_, rfl⟩
          | next next =>
              obtain ⟨deeds, same⟩ := ih (index + 1)
                (chain.record step state next state.fingerprint next.fingerprint) next after _
              exact ⟨_, by dsimp only; rw [same, List.append_assoc]⟩

theorem plain_journalled (raw : Json) (options : Options) (world : σ) (journal : List Deed) :
    ∃ deeds, execute (apply.journalled cancelled) raw options ⟨world, journal⟩ =
      ⟨(execute apply raw options world).outcome, (execute apply raw options world).events,
        ⟨(execute apply raw options world).world, journal ++ deeds⟩⟩ := by
  unfold execute
  cases prepare raw options with
  | error halt => exact ⟨[], by simp⟩
  | ok prepared =>
      obtain ⟨deeds, same⟩ := plain_walk_journalled cancelled apply ⟨options.traceId, prepared.plan.planId⟩ 0 .empty
        .empty prepared.plan.steps world journal
      exact ⟨deeds, by simp only [same]⟩

theorem plain_notes (raw : Json) (options : Options) (noted : Journalled σ)
    (plain : ∀ deed ∈ noted.journal, deed.ofProvider = false) :
    ∀ deed ∈ (execute (apply.journalled cancelled) raw options noted).world.journal, deed.ofProvider = false := by
  refine execute_keeps (apply.journalled cancelled) (fun noted => ∀ deed ∈ noted.journal, deed.ofProvider = false)
    (fun state step noted plain => ?_) raw options noted plain
  intro deed among
  simp only [Applier.journalled, Journalled.note, List.mem_append, List.mem_singleton] at among
  rcases among with (among | rfl | among) | rfl
  · exact plain deed among
  · rfl
  · rw [moment_cancels _ _ deed among]
    rfl
  · rfl

end Plain

namespace Environment

variable {env : Environment σ} {property : σ → Prop}

variable {options : Options}

theorem step_aside (state : State) (step : Step) (run : Underway σ) (going : env.cancelled run.line.world = false)
    (outside : options.mode = .mock ∨ step.action.isSandbox = false) :
    env.step options state step run = env.applyAside state step run := by
  rw [Environment.step, if_neg (by simp [going])]
  rcases outside with mock | core
  · simp [mock]
  · cases isAction : step.action with
    | sandbox sessionId action => simp [isAction, Action.isSandbox] at core
    | _ => simp

theorem walk_aside (keeps : env.apply.Keeps property) (going : ∀ world, property world → env.cancelled world = false)
    (reporter : Reporter) (index : Nat) (chain : Trace.Chain) (state : State) (steps : List Step)
    (outside : options.mode = .mock ∨ ∀ step ∈ steps, step.action.isSandbox = false) (run : Underway σ)
    (holds : property run.line.world) :
    walk (env.step options) reporter index chain state steps run =
      let plain := walk env.apply reporter index chain state steps run.line.world
      ⟨plain.progress, plain.events, { run with line := { run.line with world := plain.world } }⟩ := by
  induction steps generalizing index chain state run with
  | nil => rfl
  | cons step rest ih =>
      have outsideStep : options.mode = .mock ∨ step.action.isSandbox = false :=
        outside.imp_right fun core => core step List.mem_cons_self
      have outsideRest : options.mode = .mock ∨ ∀ step ∈ rest, step.action.isSandbox = false :=
        outside.imp_right fun core other among => core other (List.mem_cons_of_mem step among)
      have held := keeps state step run.line.world holds
      rw [walk, walk, step_aside state step run (going _ holds) outsideStep, applyAside]
      cases applied : env.apply state step run.line.world with
      | mk result after =>
          rw [applied] at held
          cases result with
          | crash => rfl
          | error reason => rfl
          | next next =>
              have others := ih (index + 1) (chain.record step state next state.fingerprint next.fingerprint) next
                outsideRest { run with line := { run.line with world := after } } held
              simp only [others]

def leave (env : Environment σ) (outcome : Outcome) (line : Timeline σ) : Timeline σ :=
  match outcome with
  | .crashed => line
  | _ => env.shutdown line

theorem teardown_unopened (line : Timeline σ) : env.teardown ⟨line, ∅⟩ = env.shutdown line := by
  unfold teardown shutdown
  cases env.provider <;> rfl

theorem kind_is_sandbox (step : Step) : step.kind.isSandbox = step.action.isSandbox := by
  unfold Step.kind
  cases step.action with
  | sandbox sessionId action => cases action <;> rfl
  | _ => rfl

theorem lacks_none {plan : Plan} (outside : options.mode = .mock ∨ ∀ step ∈ plan.steps, step.action.isSandbox = false) :
    env.lacksProvider options plan = false := by
  rcases outside with mock | core
  · simp [lacksProvider, mock]
  · have none : plan.steps.any (·.kind.isSandbox) = false :=
      List.any_eq_false.mpr fun step among => by simp [kind_is_sandbox, core step among]
    simp [lacksProvider, none]

theorem execute_aside (keeps : env.apply.Keeps property)
    (going : ∀ world, property world → env.cancelled world = false) (raw : Json) (line : Timeline σ)
    (outside : options.mode = .mock ∨ ∀ plan, Plan.canonical raw = .ok plan →
      ∀ step ∈ plan.steps, step.action.isSandbox = false) (holds : property line.world) :
    env.execute raw options line =
      let plain := PlanChain.execute env.apply raw options line.world
      ⟨plain.outcome, plain.events, env.leave plain.outcome { line with world := plain.world }⟩ := by
  unfold Environment.execute PlanChain.execute
  cases ready : prepare raw options with
  | error halt => rfl
  | ok prepared =>
      have canonical := ((prepare_ok_iff raw options prepared).mp ready).2.2.1
      have outsidePlan : options.mode = .mock ∨ ∀ step ∈ prepared.plan.steps, step.action.isSandbox = false :=
        outside.imp_right fun core => core prepared.plan canonical
      have provided : env.lacksProvider options prepared.plan = false := lacks_none outsidePlan
      simp only [provided, Bool.false_eq_true, if_false, walk_aside keeps going _ _ _ _ _ outsidePlan ⟨line, ∅⟩ holds]
      cases walked : walk env.apply ⟨options.traceId, prepared.plan.planId⟩ 0 .empty .empty prepared.plan.steps
          line.world with
      | mk progress events world =>
          cases progress with
          | crashed => rfl
          | finished chain state => simp [Outcome.ofProgress, leave, teardown_unopened]
          | halted halt => simp [Outcome.ofProgress, leave, teardown_unopened]

theorem leave_journalled (env : Environment σ) (outcome : Outcome) (line : Timeline σ) (journal : List Deed) :
    ∃ last, env.journalled.leave outcome (line.withJournal env.cancelled journal) =
        (env.leave outcome line).withJournal env.cancelled (journal ++ last) ∧
      ∀ deed ∈ last, deed = .shutdown ∨ deed = .cancel := by
  obtain ⟨last, same, spaced⟩ := env.shutdown_journalled journal line
  have among := shutdown_idle spaced
  cases outcome with
  | crashed => exact ⟨[], by simp [leave], nofun⟩
  | result result => exact ⟨last, same, among⟩
  | halted halt => exact ⟨last, same, among⟩

end Environment

-- A live run that is simulated, or has no step in a session, and is not cancelled, is the plain run of its applier, and
-- answers with the same envelope. Both note the same calls of the applier and what it made of them; at the end the live
-- run only shuts the provider down.
theorem live_run_refines_plain (env : Environment σ) (property : σ → Prop) (keeps : env.apply.Keeps property)
    (going : ∀ world, property world → env.cancelled world = false) (raw : Json) (options : Options)
    (line : Timeline σ) (holds : property line.world)
    (outside : options.mode = .mock ∨ ∀ plan, Plan.canonical raw = .ok plan →
      ∀ step ∈ plan.steps, step.action.isSandbox = false) :
    let live := env.execute raw options line
    let plain := execute env.apply raw options line.world
    live.outcome = plain.outcome ∧ live.events = plain.events ∧
      ∃ deeds last,
        env.journalled.execute raw options (line.journalled env.cancelled) =
          live.withJournal env.cancelled (deeds ++ last) ∧
        execute (env.apply.journalled env.cancelled) raw options ⟨line.world, []⟩ =
          ⟨plain.outcome, plain.events, ⟨plain.world, deeds⟩⟩ ∧
        (∀ deed ∈ deeds, deed.ofProvider = false) ∧ ∀ deed ∈ last, deed = .shutdown ∨ deed = .cancel := by
  intro live plain
  have same : live = ⟨plain.outcome, plain.events, env.leave plain.outcome { line with world := plain.world }⟩ :=
    Environment.execute_aside keeps going raw line outside holds
  obtain ⟨deeds, plainNoted⟩ := plain_journalled env.cancelled env.apply raw options line.world []
  rw [List.nil_append] at plainNoted
  have silent := plain_notes env.cancelled env.apply raw options ⟨line.world, []⟩ nofun
  rw [plainNoted] at silent
  obtain ⟨last, left, among⟩ := env.leave_journalled plain.outcome { line with world := plain.world } deeds
  refine ⟨by rw [same], by rw [same], deeds, last, ?_, plainNoted, silent, among⟩
  have begins : line.journalled env.cancelled = line.withJournal env.cancelled [] := by
    simp [Timeline.journalled, going line.world holds]
  have keepsNoting : env.journalled.apply.Keeps fun noted => property noted.world :=
    fun state step noted holds => keeps state step noted.world holds
  have noted := Environment.execute_aside keepsNoting (fun noted holds => going noted.world holds) raw
    (line.withJournal env.cancelled []) outside holds
  rw [begins, noted, same]
  have plainRun : PlanChain.execute env.journalled.apply raw options (line.withJournal env.cancelled []).world =
      ⟨plain.outcome, plain.events, ⟨plain.world, deeds⟩⟩ := plainNoted
  rw [plainRun]
  exact congrArg (Run.mk plain.outcome plain.events) left

def tiring : Environment Nat where
  apply state step calls :=
    if calls < 2 then (.ofExcept (state.simulate step), calls + 1) else (.error (.failed "tired"), calls)
  provider := some {
    create := fun _ _ calls => calls
    call := fun _ _ calls => (⟨none, fun calls => (.ok .done, calls)⟩, calls)
    close := fun _ calls => (⟨none, fun calls => ((), calls)⟩, calls)
    shutdown := fun calls => (⟨none, fun calls => ((), calls)⟩, calls) }
  timeout := 5
  cancelled calls := 10 ≤ calls

def threeSteps : Plan := ⟨"visit", 1, [⟨"first", .appendLog "one"⟩, ⟨"second", .sandbox "s" (.click "#go")⟩,
  ⟨"third", .set "k" "v"⟩]⟩

theorem tiring_run_refines_plain :
    let raw := threeSteps.toJson
    let options : Options := { traceId := some "t" }
    let line : Timeline Nat := ⟨0, [], 0⟩
    let live := tiring.execute raw options line
    let plain := execute tiring.apply raw options line.world
    plain.outcome = .halted ⟨(StepError.failed "tired").toFailure, some 2⟩ ∧ plain.world = 2 ∧
      live.outcome = plain.outcome ∧ live.events = plain.events ∧
      ∃ deeds last,
        tiring.journalled.execute raw options (line.journalled tiring.cancelled) =
          live.withJournal tiring.cancelled (deeds ++ last) ∧
        execute (tiring.apply.journalled tiring.cancelled) raw options ⟨line.world, []⟩ =
          ⟨plain.outcome, plain.events, ⟨plain.world, deeds⟩⟩ ∧
        (∀ deed ∈ deeds, deed.ofProvider = false) ∧ ∀ deed ∈ last, deed = .shutdown ∨ deed = .cancel := by
  intro raw options line live plain
  have keeps : tiring.apply.Keeps (· ≤ 2) := by
    intro state step calls few
    simp only [tiring]
    split
    · exact Nat.succ_le_of_lt (by assumption)
    · exact few
  have going : ∀ calls, calls ≤ 2 → tiring.cancelled calls = false := by
    intro calls few
    simp only [tiring, decide_eq_false_iff_not]
    omega
  exact ⟨rfl, rfl, live_run_refines_plain tiring (· ≤ 2) keeps going raw options line (Nat.zero_le 2) (Or.inl rfl)⟩

end PlanChain
