import Mathlib.Data.List.Forall2
import PlanChain.Retry

set_option autoImplicit false

namespace PlanChain

variable {σ τ α : Type}

section Parallel

variable (related : σ → τ → Prop)

def ActInStep (first : σ → α × σ) (second : τ → α × τ) : Prop :=
  ∀ a b, related a b → (first a).1 = (second b).1 ∧ related (first a).2 (second b).2

def Applier.InStep (first : Applier σ) (second : Applier τ) : Prop :=
  ∀ state step, ActInStep related (first state step) (second state step)

structure Pending.InStep (first : Pending σ α) (second : Pending τ α) : Prop where
  delay : first.delay = second.delay
  finish : ActInStep related first.finish second.finish

def BeginInStep (first : σ → Pending σ α × σ) (second : τ → Pending τ α × τ) : Prop :=
  ∀ a b, related a b → (first a).1.InStep related (second b).1 ∧ related (first a).2 (second b).2

structure Provider.InStep (first : Provider σ) (second : Provider τ) : Prop where
  create : ∀ sessionId traceId a b, related a b →
    related (first.create sessionId traceId a) (second.create sessionId traceId b)
  call : ∀ sessionId call, BeginInStep related (first.call sessionId call) (second.call sessionId call)
  close : ∀ sessionId, BeginInStep related (first.close sessionId) (second.close sessionId)
  shutdown : BeginInStep related first.shutdown second.shutdown

structure Alarm.InStep (first : Alarm σ) (second : Alarm τ) : Prop where
  due : first.due = second.due
  ring : ∀ a b, related a b → related (first.ring a) (second.ring b)

structure Timeline.InStep (first : Timeline σ) (second : Timeline τ) : Prop where
  now : first.now = second.now
  alarms : List.Forall₂ (Alarm.InStep related) first.alarms second.alarms
  world : related first.world second.world

structure Underway.InStep (first : Underway σ) (second : Underway τ) : Prop where
  line : first.line.InStep related second.line
  opened : first.opened = second.opened

structure Environment.InStep (first : Environment σ) (second : Environment τ) : Prop where
  apply : first.apply.InStep related second.apply
  provider : Option.Rel (Provider.InStep related) first.provider second.provider
  timeout : first.timeout = second.timeout
  cancelled : ∀ a b, related a b → first.cancelled a = second.cancelled b

structure Walk.InStep (first : Walk σ) (second : Walk τ) : Prop where
  progress : first.progress = second.progress
  events : first.events = second.events
  world : related first.world second.world

structure Run.InStep (first : Run σ) (second : Run τ) : Prop where
  outcome : first.outcome = second.outcome
  events : first.events = second.events
  world : related first.world second.world

end Parallel

variable {related : σ → τ → Prop}

theorem walk_in_step {first : Applier σ} {second : Applier τ} (applies : first.InStep related second)
    (reporter : Reporter) (index : Nat) (chain : Trace.Chain) (state : State) (steps : List Step) (a : σ) (b : τ)
    (isRelated : related a b) :
    (walk first reporter index chain state steps a).InStep related
      (walk second reporter index chain state steps b) := by
  induction steps generalizing index chain state a b with
  | nil => exact ⟨rfl, rfl, isRelated⟩
  | cons step rest ih =>
      obtain ⟨same, left⟩ := applies state step a b isRelated
      rw [walk, walk]
      cases one : first state step a with
      | mk applied after =>
          cases other : second state step b with
          | mk otherApplied otherAfter =>
              rw [one, other] at same left
              cases same
              cases applied with
              | crash => exact ⟨rfl, rfl, left⟩
              | error reason => exact ⟨rfl, rfl, left⟩
              | next next =>
                  have later := ih (index + 1) (chain.record step state next state.fingerprint next.fingerprint)
                    next after otherAfter left
                  exact ⟨later.progress, congrArg _ later.events, later.world⟩

theorem execute_in_step {first : Applier σ} {second : Applier τ} (applies : first.InStep related second) (raw : Json)
    (options : Options) (a : σ) (b : τ) (isRelated : related a b) :
    (execute first raw options a).InStep related (execute second raw options b) := by
  rw [execute, execute]
  cases prepare raw options with
  | error halt => exact ⟨rfl, rfl, isRelated⟩
  | ok prepared =>
      have walked := walk_in_step applies ⟨options.traceId, prepared.plan.planId⟩ 0 .empty .empty prepared.plan.steps
        a b isRelated
      exact ⟨congrArg (Outcome.ofProgress prepared) walked.progress, walked.events, walked.world⟩

namespace Timeline

variable {first : Timeline σ} {second : Timeline τ}

-- By induction on the alarms that are still to ring.
theorem ring_until_in_step {cut : σ → Bool} {otherCut : τ → Bool}
    (cuts : ∀ a b, related a b → cut a = otherCut b) (moment now : Nat) {alarms : List (Alarm σ)}
    {others : List (Alarm τ)} (paired : List.Forall₂ (Alarm.InStep related) alarms others) (a : σ) (b : τ)
    (isRelated : related a b) :
    (ringUntil cut moment now alarms a).1 = (ringUntil otherCut moment now others b).1 ∧
      (ringUntil cut moment now alarms a).2.InStep related (ringUntil otherCut moment now others b).2 := by
  induction paired generalizing now a b with
  | nil => exact ⟨rfl, rfl, .nil, isRelated⟩
  | @cons alarm other alarms others one rest ih =>
      have rung := one.ring a b isRelated
      rw [ringUntil, ringUntil, ← one.due, ← cuts _ _ rung]
      by_cases notDue : moment < alarm.due
      · rw [if_pos notDue, if_pos notDue]
        exact ⟨rfl, rfl, .cons one rest, isRelated⟩
      · rw [if_neg notDue, if_neg notDue]
        by_cases isCut : cut (alarm.ring a) = true
        · rw [if_pos isCut, if_pos isCut]
          exact ⟨rfl, rfl, rest, rung⟩
        · rw [if_neg isCut, if_neg isCut]
          exact ih _ _ _ rung

theorem start_in_step (change : (σ → σ) → τ → τ) {alarms : List (Alarm σ)}
    (paired : ∀ alarm ∈ alarms, ∀ a b, related a b → related (alarm.ring a) (change alarm.ring b)) (a : σ) (b : τ)
    (isRelated : related a b) :
    (start alarms a).InStep related (start (alarms.map fun alarm => ⟨alarm.due, change alarm.ring⟩) b) := by
  let delay (alarm : Alarm σ) : Alarm σ := { alarm with due := sleepLength alarm.due }
  let changed (alarm : Alarm σ) : Alarm τ := ⟨alarm.due, change alarm.ring⟩
  -- The order of alarms looks at what is not changed, so they are sorted first and changed after.
  have sorted : (start (alarms.map changed) b).alarms =
      ((alarms.map delay).mergeSort fun first second => first.due ≤ second.due).map changed := by
    have moved := List.map_mergeSort (f := changed) (l := alarms.map delay)
      (r := fun first second => decide (first.due ≤ second.due))
      (s := fun first second => decide (first.due ≤ second.due)) fun _ _ _ _ => rfl
    rw [moved, start, List.map_map, List.map_map]
    rfl
  refine ⟨rfl, ?_, isRelated⟩
  change List.Forall₂ (Alarm.InStep related) _ (start (alarms.map changed) b).alarms
  rw [sorted, List.forall₂_map_right_iff, start, List.forall₂_same]
  intro alarm among
  rw [List.mem_mergeSort, List.mem_map] at among
  obtain ⟨original, isOriginal, rfl⟩ := among
  exact ⟨rfl, paired original isOriginal⟩

theorem give_way_in_step (lines : first.InStep related second) : first.giveWay.InStep related second.giveWay := by
  rw [giveWay, giveWay, ← lines.now]
  exact (ring_until_in_step (fun _ _ _ => rfl) _ _ lines.alarms _ _ lines.world).2

theorem wait_in_step {cut : σ → Bool} {otherCut : τ → Bool} (cuts : ∀ a b, related a b → cut a = otherCut b)
    (lines : first.InStep related second) (milliseconds : Nat) :
    (first.wait cut milliseconds).1 = (second.wait otherCut milliseconds).1 ∧
      (first.wait cut milliseconds).2.InStep related (second.wait otherCut milliseconds).2 := by
  rw [wait, wait, ← cuts _ _ lines.world, ← lines.now]
  by_cases noWait : milliseconds = 0
  · rw [if_pos noWait, if_pos noWait]
    exact ⟨rfl, lines⟩
  · rw [if_neg noWait, if_neg noWait]
    by_cases isCut : cut first.world = true
    · rw [if_pos isCut, if_pos isCut]
      exact ⟨rfl, lines⟩
    · rw [if_neg isCut, if_neg isCut]
      exact ring_until_in_step cuts _ _ lines.alarms _ _ lines.world

theorem expire_in_step {cut : σ → Bool} {otherCut : τ → Bool} (cuts : ∀ a b, related a b → cut a = otherCut b)
    (lines : first.InStep related second) (limit : Nat) :
    (first.expire cut limit : Awaited α × Timeline σ).1 = (second.expire otherCut limit).1 ∧
      (first.expire cut limit : Awaited α × Timeline σ).2.InStep related
        (second.expire otherCut limit : Awaited α × Timeline τ).2 := by
  obtain ⟨same, left⟩ := wait_in_step cuts lines limit
  rw [expire, expire]
  cases one : first.wait cut limit with
  | mk isCut after =>
      cases other : second.wait otherCut limit with
      | mk otherCut otherAfter =>
          rw [one, other] at same left
          cases same
          cases isCut <;> exact ⟨rfl, left⟩

theorem await_in_step {cut : σ → Bool} {otherCut : τ → Bool} (cuts : ∀ a b, related a b → cut a = otherCut b)
    (lines : first.InStep related second) (limit : Nat) {pending : Pending σ α} {other : Pending τ α}
    (pendings : pending.InStep related other) :
    (first.await cut limit pending).1 = (second.await otherCut limit other).1 ∧
      (first.await cut limit pending).2.InStep related (second.await otherCut limit other).2 := by
  have expired := expire_in_step (α := α) cuts lines limit
  rw [await, await, ← pendings.delay]
  cases pending.delay with
  | none => exact expired
  | some delay =>
      dsimp only
      by_cases tooLong : limit < delay
      · rw [if_pos tooLong, if_pos tooLong]
        exact expired
      · rw [if_neg tooLong, if_neg tooLong]
        obtain ⟨same, left⟩ := wait_in_step cuts lines delay
        cases one : first.wait cut delay with
        | mk isCut after =>
            cases waited : second.wait otherCut delay with
            | mk otherIsCut otherAfter =>
                rw [one, waited] at same left
                cases same
                cases isCut with
                | true => exact ⟨rfl, left⟩
                | false =>
                    obtain ⟨value, finished⟩ := pendings.finish _ _ left.world
                    exact ⟨congrArg Awaited.answered value, left.now, left.alarms, finished⟩

end Timeline

namespace Environment

variable {env : Environment σ} {other : Environment τ} {line : Timeline σ} {otherLine : Timeline τ}

theorem in_step_providers (environments : env.InStep related other) :
    (env.provider = none ∧ other.provider = none) ∨ ∃ provider otherProvider, env.provider = some provider ∧
      other.provider = some otherProvider ∧ provider.InStep related otherProvider := by
  obtain ⟨apply, provider, timeout, cancelled⟩ := env
  obtain ⟨otherApply, otherProvider, otherTimeout, otherCancelled⟩ := other
  cases environments.provider with
  | none => exact Or.inl ⟨rfl, rfl⟩
  | some provided => exact Or.inr ⟨_, _, rfl, rfl, provided⟩

theorem settle_in_step (environments : env.InStep related other) {start : σ → Pending σ Unit × σ}
    {otherStart : τ → Pending τ Unit × τ} (begins : BeginInStep related start otherStart)
    (lines : line.InStep related otherLine) :
    (env.settle start line).InStep related (other.settle otherStart otherLine) := by
  obtain ⟨pendings, begun⟩ := begins _ _ lines.world
  have begunLines : Timeline.InStep related { line with world := (start line.world).2 }
      { otherLine with world := (otherStart otherLine.world).2 } := ⟨lines.now, lines.alarms, begun⟩
  rw [settle, settle, ← environments.timeout]
  exact (Timeline.await_in_step (fun _ _ _ => rfl) begunLines _ pendings).2

theorem shutdown_in_step (environments : env.InStep related other) (lines : line.InStep related otherLine) :
    (env.shutdown line).InStep related (other.shutdown otherLine) := by
  rw [shutdown, shutdown]
  rcases in_step_providers environments with ⟨one, two⟩ | ⟨provider, otherProvider, one, two, provided⟩
  · rw [one, two]
    exact lines
  · rw [one, two]
    exact settle_in_step environments provided.shutdown lines

theorem teardown_in_step (environments : env.InStep related other) {run : Underway σ} {otherRun : Underway τ}
    (runs : run.InStep related otherRun) : (env.teardown run).InStep related (other.teardown otherRun) := by
  rw [teardown, teardown, ← runs.opened]
  rcases in_step_providers environments with ⟨one, two⟩ | ⟨provider, otherProvider, one, two, provided⟩
  · rw [one, two]
    exact runs.line
  · rw [one, two]
    refine shutdown_in_step environments ?_
    have lines := runs.line
    generalize run.line = line at lines
    generalize otherRun.line = otherLine at lines
    induction run.opened.keys generalizing line otherLine with
    | nil => exact lines
    | cons sessionId rest ih => exact ih _ _ (settle_in_step environments (provided.close sessionId) lines)

theorem ask_in_step (environments : env.InStep related other) {provider : Provider σ} {otherProvider : Provider τ}
    (provided : provider.InStep related otherProvider) (kind : StepKind) (sessionId : String) (call : SandboxCall)
    (lines : line.InStep related otherLine) :
    (env.ask provider kind sessionId call line).1 = (other.ask otherProvider kind sessionId call otherLine).1 ∧
      (env.ask provider kind sessionId call line).2.InStep related
        (other.ask otherProvider kind sessionId call otherLine).2 := by
  rw [ask, ask, ← environments.cancelled _ _ lines.world, ← environments.timeout]
  by_cases isOver : env.cancelled line.world = true
  · rw [if_pos isOver, if_pos isOver]
    exact ⟨rfl, lines⟩
  · rw [if_neg isOver, if_neg isOver]
    obtain ⟨pendings, begun⟩ := provided.call sessionId call _ _ lines.world
    have begunLines : Timeline.InStep related { line with world := (provider.call sessionId call line.world).2 }
        { otherLine with world := (otherProvider.call sessionId call otherLine.world).2 } :=
      ⟨lines.now, lines.alarms, begun⟩
    obtain ⟨same, left⟩ := Timeline.await_in_step environments.cancelled begunLines env.timeout.toNat pendings
    dsimp only
    cases one : Timeline.await { line with world := (provider.call sessionId call line.world).2 } env.cancelled
        env.timeout.toNat (provider.call sessionId call line.world).1 with
    | mk awaited after =>
        cases two : Timeline.await { otherLine with world := (otherProvider.call sessionId call otherLine.world).2 }
            other.cancelled env.timeout.toNat (otherProvider.call sessionId call otherLine.world).1 with
        | mk otherAwaited otherAfter =>
            rw [one, two] at same left
            cases same
            cases awaited with
            | cut => exact ⟨rfl, left⟩
            | expired => exact ⟨rfl, left⟩
            | answered outcome => cases outcome <;> exact ⟨rfl, left⟩

theorem ensure_in_step {provider : Provider σ} {otherProvider : Provider τ}
    (provided : provider.InStep related otherProvider) (traceId : Option String) (sessionId : String)
    {run : Underway σ} {otherRun : Underway τ} (runs : run.InStep related otherRun) :
    (ensure provider traceId sessionId run).InStep related (ensure otherProvider traceId sessionId otherRun) := by
  rw [ensure, ensure, ← runs.opened]
  by_cases isOpen : run.opened.contains sessionId = true
  · rw [if_pos isOpen, if_pos isOpen]
    exact runs
  · rw [if_neg isOpen, if_neg isOpen]
    exact ⟨⟨runs.line.now, runs.line.alarms, provided.create sessionId traceId _ _ runs.line.world⟩, rfl⟩

theorem apply_aside_in_step (environments : env.InStep related other) (state : State) (step : Step) :
    ActInStep (Underway.InStep related) (env.applyAside state step) (other.applyAside state step) := by
  intro run otherRun runs
  obtain ⟨same, left⟩ := environments.apply state step _ _ runs.line.world
  exact ⟨same, ⟨runs.line.now, runs.line.alarms, left⟩, runs.opened⟩

theorem apply_in_session_in_step (environments : env.InStep related other) {provider : Provider σ}
    {otherProvider : Provider τ} (provided : provider.InStep related otherProvider) (traceId : Option String)
    (state : State) (sessionId : String) (action : SandboxAction) :
    ActInStep (Underway.InStep related) (env.applyInSession provider traceId state sessionId action)
      (other.applyInSession otherProvider traceId state sessionId action) := by
  intro run otherRun runs
  have ensured := ensure_in_step provided traceId sessionId runs
  obtain ⟨same, left⟩ := ask_in_step environments provided action.kind sessionId action.call ensured.line
  rw [applyInSession, applyInSession]
  dsimp only
  rw [same]
  exact ⟨rfl, left, ensured.opened⟩

theorem step_in_step (environments : env.InStep related other) (options : Options) :
    (env.step options).InStep (Underway.InStep related) (other.step options) := by
  intro state step run otherRun runs
  have aside := apply_aside_in_step environments state step run otherRun runs
  rw [Environment.step, Environment.step, ← environments.cancelled _ _ runs.line.world]
  by_cases isOver : env.cancelled run.line.world = true
  · rw [if_pos isOver, if_pos isOver]
    exact ⟨rfl, runs⟩
  · rw [if_neg isOver, if_neg isOver]
    obtain ⟨id, action⟩ := step
    rcases in_step_providers environments with ⟨one, two⟩ | ⟨provider, otherProvider, one, two, provided⟩
    · rw [one, two]
      cases options.mode <;> cases action <;> exact aside
    · rw [one, two]
      cases options.mode with
      | mock => exact aside
      | live =>
          cases action with
          | sandbox sessionId action =>
              exact apply_in_session_in_step environments provided options.traceId state sessionId action run otherRun
                runs
          | _ => exact aside

theorem execute_in_step (environments : env.InStep related other) (raw : Json) (options : Options)
    (lines : line.InStep related otherLine) :
    (env.execute raw options line).InStep (Timeline.InStep related) (other.execute raw options otherLine) := by
  rw [Environment.execute, Environment.execute]
  cases prepare raw options with
  | error halt => exact ⟨rfl, rfl, shutdown_in_step environments lines⟩
  | ok prepared =>
      have lacking : env.lacksProvider options prepared.plan = other.lacksProvider options prepared.plan := by
        rw [lacksProvider, lacksProvider]
        rcases in_step_providers environments with ⟨one, two⟩ | ⟨provider, otherProvider, one, two, -⟩ <;>
          rw [one, two] <;> rfl
      dsimp only
      rw [← lacking]
      by_cases lacks : env.lacksProvider options prepared.plan = true
      · rw [if_pos lacks, if_pos lacks]
        exact ⟨rfl, rfl, lines⟩
      · rw [if_neg lacks, if_neg lacks]
        have walked := walk_in_step (step_in_step environments options) ⟨options.traceId, prepared.plan.planId⟩ 0 .empty
          .empty prepared.plan.steps ⟨line, ∅⟩ ⟨otherLine, ∅⟩ ⟨lines, rfl⟩
        refine ⟨congrArg (Outcome.ofProgress prepared) walked.progress, walked.events, ?_⟩
        dsimp only
        rw [← walked.progress]
        split
        · exact walked.world.line
        · exact teardown_in_step environments walked.world

end Environment

end PlanChain
