import PlanChain.Proofs.Execution.Refinement
import PlanChain.Proofs.Run.Attempts

set_option autoImplicit false

namespace PlanChain

variable {σ τ κ : Type}

-- What is set in a part is what is got there, the last that was set stays, and nothing else is set.
structure Part.Lawful (part : Part σ τ) : Prop where
  get_set : ∀ inner world, part.get (part.set inner world) = inner
  set_get : ∀ world, part.set (part.get world) world = world
  set_set : ∀ later inner world, part.set later (part.set inner world) = part.set later world

section Within

variable {part : Part σ τ} (lawful : part.Lawful) (apply : Applier τ)

include lawful

theorem walk_within (reporter : Reporter) (index : Nat) (chain : Trace.Chain) (state : State) (steps : List Step)
    (world : σ) :
    walk (apply.within part) reporter index chain state steps world =
      let inner := walk apply reporter index chain state steps (part.get world)
      ⟨inner.progress, inner.events, part.set inner.world world⟩ := by
  induction steps generalizing index chain state world with
  | nil => simp only [walk, lawful.set_get]
  | cons step rest ih =>
      rw [walk, walk, Applier.within]
      cases applied : apply state step (part.get world) with
      | mk result after =>
          cases result with
          | crash => rfl
          | error reason => rfl
          | next next => simp only [ih, lawful.get_set, lawful.set_set]

theorem execute_within (raw : Json) (options : Options) (world : σ) :
    execute (apply.within part) raw options world =
      let inner := execute apply raw options (part.get world)
      ⟨inner.outcome, inner.events, part.set inner.world world⟩ := by
  rw [execute, execute]
  cases prepare raw options with
  | error halt => simp only [lawful.set_get]
  | ok prepared => simp only [walk_within lawful]

end Within

structure Noted (τ : Type) where
  own : τ
  calls : List (State × Step) := []

def Applier.noted (apply : Applier τ) : Applier (Noted τ) := fun state step world =>
  let (applied, own) := apply state step world.own
  (applied, ⟨own, world.calls ++ [(state, step)]⟩)

namespace World

def applied : Part (World (τ × κ)) τ where
  get world := world.rest.1
  set inner world := { world with rest := (inner, world.rest.2) }

def provided : Part (World (τ × κ)) κ where
  get world := world.rest.2
  set inner world := { world with rest := (world.rest.1, inner) }

theorem applied_lawful : (applied : Part (World (τ × κ)) τ).Lawful :=
  ⟨fun _ _ => rfl, fun _ => rfl, fun _ _ _ => rfl⟩

end World

namespace Retrying

structure InStep (first : Retrying σ) (second : Retrying τ) (related : σ → τ → Prop) : Prop where
  attempt : ∀ a b, related a b → (first.attempt a).response = (second.attempt b).response ∧
    (first.attempt a).events = (second.attempt b).events ∧ related (first.attempt a).world (second.attempt b).world
  pause : ∀ number failure a b, related a b →
    (first.stops number failure a).1 = (second.stops number failure b).1 ∧
      related (first.stops number failure a).2 (second.stops number failure b).2

theorem try_in_step {first : Retrying σ} {second : Retrying τ} {related : σ → τ → Prop}
    (inStep : first.InStep second related) (budget : Nat) (tracker : RetryTracker) (a : σ) (b : τ)
    (isRelated : related a b) :
    (first.tryUpTo budget tracker a).outcome = (second.tryUpTo budget tracker b).outcome ∧
      (first.tryUpTo budget tracker a).events = (second.tryUpTo budget tracker b).events ∧
      related (first.tryUpTo budget tracker a).world (second.tryUpTo budget tracker b).world := by
  induction budget generalizing tracker a b with
  | zero => exact ⟨rfl, rfl, isRelated⟩
  | succ budget ih =>
      obtain ⟨response, events, tried⟩ := inStep.attempt a b isRelated
      rw [tryUpTo, tryUpTo, response, events]
      cases (second.attempt b).response with
      | none => exact ⟨rfl, rfl, tried⟩
      | some response =>
          dsimp only
          cases tracker.observe response with
          | mk verdict after =>
              cases verdict with
              | error outcome => exact ⟨rfl, rfl, tried⟩
              | ok failure =>
                  obtain ⟨stop, paused⟩ := inStep.pause tracker.iterations failure _ _ tried
                  dsimp only
                  rw [stop]
                  split
                  · exact ⟨rfl, rfl, paused⟩
                  · obtain ⟨outcome, laterEvents, later⟩ := ih after _ _ paused
                    exact ⟨outcome, congrArg _ laterEvents, later⟩

theorem run_in_step {first : Retrying σ} {second : Retrying τ} {related : σ → τ → Prop}
    (inStep : first.InStep second related) (params : RetryParams) (a : σ) (b : τ) (isRelated : related a b) :
    (first.run params a).outcome = (second.run params b).outcome ∧
      (first.run params a).events = (second.run params b).events ∧
      related (first.run params a).world (second.run params b).world :=
  try_in_step inStep params.maxIterations.toNat { params } a b isRelated

end Retrying

theorem Registry.transition_allowed (registry : Registry) (runId : String) (status : RunStatus)
    (change : RunRecord → RunRecord) (now : Timestamp) (record : RunRecord)
    (stored : registry.get? runId = some record) (allowed : record.status.allows status = true) :
    let next := { change record with status, updatedAt := now }
    registry.transition runId status change now =
      .ok (next, { registry with records := registry.records.insert runId next }) := by
  rw [transition, stored]
  simp only [allowed, if_true]

structure RunRecord.Alike (record other : RunRecord) : Prop where
  agentId : record.agentId = other.agentId
  status : record.status = other.status
  input : record.input = other.input
  output : record.output = other.output
  error : record.error = other.error

namespace Store

-- A run is being executed and nobody has cancelled it: what is stored is the record that its execution began with.
structure Holds (runId : String) (record : RunRecord) (store : Store) : Prop where
  own : record.runId = runId
  running : record.status = .running
  stored : store.registry.get? runId = some record
  saved : store.checkpoints.get? runId = some record
  going : store.isCancelled runId = false

theorem create_begins (store : Store) (request : CreateRequest) :
    let created := store.create request
    ∃ record begun, created.2.begin created.1.runId = (.ok record, begun) ∧ begun.Holds created.1.runId record ∧
      record = { created.1 with status := .running, updatedAt := record.updatedAt } := by
  intro created
  have stored : created.2.registry.get? created.1.runId = some created.1 := by
    simp [created, create, Registry.create, Registry.get?]
  have started : created.2.registry.start created.1.runId created.2.clock.now = .ok _ :=
    created.2.registry.transition_allowed _ _ _ _ created.1 stored rfl
  refine ⟨_, _, by rw [begin, change, started], ?_, rfl⟩
  constructor
  case own => rfl
  case running => rfl
  case stored => simp [watch, save, Registry.get?]
  case saved => simp [watch, save]
  case going => simp [watch, save, isCancelled]

theorem before_retry_holds (store : Store) (runId : String) (record : RunRecord) (holds : store.Holds runId record) :
    (store.beforeRetry runId).1 = false ∧ (store.beforeRetry runId).2.Holds runId record := by
  have restored : store.registry.restore? record =
      some { store.registry with records := store.registry.records.insert runId record } := by
    simp [Registry.restore?, holds.own, holds.stored, holds.running, RunStatus.isTerminal, RunStatus.next]
  rw [beforeRetry, holds.going, holds.saved]
  simp only [Bool.false_eq_true, if_false, restored]
  exact ⟨trivial, holds.own, holds.running, by simp [Registry.get?], holds.saved,
    holds.going⟩

theorem conclusion_edits (outcome : Option RetryOutcome) :
    ∃ status edit, RunStatus.running.allows status = true ∧
      (∀ runId, conclusion runId outcome = fun registry now => registry.transition runId status edit now) ∧
      ∀ record other : RunRecord, record.Alike other → (edit record).Alike (edit other) := by
  have failing (error : RunError) (record other : RunRecord) (alike : record.Alike other) :
      RunRecord.Alike { record with error := some error } { other with error := some error } :=
    { alike with error := rfl }
  cases outcome with
  | none => exact ⟨.failed, _, rfl, fun _ => rfl, failing _⟩
  | some outcome =>
      obtain ⟨verdict, iterations, schedule⟩ := outcome
      cases verdict with
      | completed response =>
          exact ⟨.completed, _, rfl, fun _ => rfl, fun record other alike => { alike with output := rfl }⟩
      | failed failure => exact ⟨.failed, _, rfl, fun _ => rfl, failing _⟩
      | terminal failure => exact ⟨.failed, _, rfl, fun _ => rfl, failing _⟩

theorem finish_holds (store : Store) (runId : String) (record : RunRecord) (holds : store.Holds runId record)
    (outcome : Option RetryOutcome) (status : RunStatus) (edit : RunRecord → RunRecord)
    (allowed : RunStatus.running.allows status = true)
    (concludes : conclusion runId outcome = fun registry now => registry.transition runId status edit now) :
    (store.finish runId outcome).1 = .ok { edit record with status, updatedAt := store.clock.now } := by
  have ended := store.registry.transition_allowed runId status edit store.clock.now record holds.stored
    (holds.running ▸ allowed)
  rw [finish, concludes, change]
  simp only [unwatch, discard, ended]

theorem finish_alike (first second : Store) (firstId secondId : String) (record other : RunRecord)
    (firstHolds : first.Holds firstId record) (secondHolds : second.Holds secondId other)
    (alike : record.Alike other) (outcome : Option RetryOutcome) :
    ∃ firstRecord secondRecord, (first.finish firstId outcome).1 = .ok firstRecord ∧
      (second.finish secondId outcome).1 = .ok secondRecord ∧ firstRecord.Alike secondRecord := by
  obtain ⟨status, edit, allowed, concludes, keepsAlike⟩ := conclusion_edits outcome
  refine ⟨_, _, finish_holds first firstId record firstHolds outcome status edit allowed (concludes firstId),
    finish_holds second secondId other secondHolds outcome status edit allowed (concludes secondId), ?_⟩
  exact { keepsAlike record other alike with status := rfl }

end Store

namespace Service

def apart (config : Config) (apply : Applier τ) (provider : Option (Provider κ)) : Service (Noted τ × κ) where
  config
  apply := apply.noted.within World.applied
  provider := provider.map (·.within World.provided)

def executeNew {ρ : Type} (service : Service ρ) (creation : CreateRequest) (request : ExecuteRequest) (store : Store)
    (rest : ρ) (execution : Execution ρ) : Served (World ρ) :=
  let created := store.create creation
  service.executed created.1.runId request ⟨created.2, rest⟩ execution

-- Where a plain and a live execution stand when they are in step: both runs are under way, and the applier has the
-- same state and has got the same calls.
structure Abreast (plainId liveId : String) (plainRecord liveRecord : RunRecord) (world : World (τ × κ))
    (line : Timeline (World (τ × κ))) : Prop where
  plain : world.store.Holds plainId plainRecord
  live : line.world.store.Holds liveId liveRecord
  quiet : line.alarms ⊆ []
  same : world.rest.1 = line.world.rest.1

theorem leave_apart (service : Service (τ × κ)) (runId : String) (provider : Option (Provider κ))
    (provides : service.provider = provider.map (·.within World.provided)) (outcome : Outcome)
    (line : Timeline (World (τ × κ))) (quiet : line.alarms ⊆ []) :
    ((service.environment runId).leave outcome line).world.store = line.world.store ∧
      ((service.environment runId).leave outcome line).world.rest.1 = line.world.rest.1 ∧
      ((service.environment runId).leave outcome line).alarms ⊆ [] := by
  let untouched (world : World (τ × κ)) : Prop :=
    world.store = line.world.store ∧ world.rest.1 = line.world.rest.1
  -- The applier is not called any more, so any other may stand in for it.
  let parting : Environment (World (τ × κ)) := { service.environment runId with apply := simulation }
  have keeps : parting.Keeps [] untouched := by
    constructor
    case apply => exact fun _ _ _ same => same
    case alarms => exact fun _ among => absurd among List.not_mem_nil
    case provider =>
      intro whole present
      rw [show parting.provider = service.provider from rfl, provides, Option.map_eq_some_iff] at present
      obtain ⟨inner, -, rfl⟩ := present
      exact ⟨fun _ _ _ same => same, fun _ _ _ same => ⟨same, fun _ still => still⟩,
        fun _ _ same => ⟨same, fun _ still => still⟩, fun _ same => ⟨same, fun _ still => still⟩⟩
  have shut := Environment.shutdown_kept keeps line ⟨⟨rfl, rfl⟩, quiet⟩
  cases outcome with
  | crashed => exact ⟨rfl, rfl, quiet⟩
  | result result => exact ⟨shut.world.1, shut.world.2, shut.pending⟩
  | halted halt => exact ⟨shut.world.1, shut.world.2, shut.pending⟩

theorem new_run_plain {ρ : Type} (service : Service ρ) (creation : CreateRequest) (request : ExecuteRequest)
    (store begun : Store) (rest : ρ) (record : RunRecord)
    (begins : (store.create creation).2.begin (store.create creation).1.runId = (.ok record, begun)) :
    let runId := (store.create creation).1.runId
    let retrying := Retrying.ofApplier service.apply request fun _ _ => beforeRetry runId
    let retried := retrying.run service.config.retry ⟨begun, rest⟩
    service.executeNew creation request store rest .plain =
      conclude runId retried.outcome retried.events retried.world := by
  rw [executeNew, executed, execute, begins]

theorem new_run_live {ρ : Type} (service : Service ρ) (creation : CreateRequest) (request : ExecuteRequest)
    (store begun : Store) (rest : ρ) (record : RunRecord)
    (begins : (store.create creation).2.begin (store.create creation).1.runId = (.ok record, begun)) :
    let runId := (store.create creation).1.runId
    let retrying := (service.environment runId).retrying request fun _ _ => beforeRetry runId
    let retried := retrying.run service.config.retry ⟨0, [], ⟨begun, rest⟩⟩
    service.executeNew creation request store rest (.live []) =
      conclude runId retried.outcome retried.events retried.world.world := by
  have unset : (Timeline.start [] (World.mk begun rest)).giveWay = ⟨0, [], ⟨begun, rest⟩⟩ := by
    simp [Timeline.start, Timeline.giveWay, Timeline.ringUntil]
  rw [executeNew, executed, executeLive, begins]
  simp only [unset]

theorem conclude_alike {plainId liveId : String} {plainRecord liveRecord : RunRecord} {world : World (τ × κ)}
    {line : Timeline (World (τ × κ))} (abreast : Abreast plainId liveId plainRecord liveRecord world line)
    (alike : plainRecord.Alike liveRecord) (outcome : Option RetryOutcome) (events : List StepEvent) :
    let plain := conclude plainId outcome events world
    let live := conclude liveId outcome events line.world
    ∃ plainEnd liveEnd, plain.result = .ok plainEnd ∧ live.result = .ok liveEnd ∧ plainEnd.Alike liveEnd ∧
      plain.world.rest.1 = live.world.rest.1 ∧ plain.events = live.events := by
  obtain ⟨plainEnd, liveEnd, plainEnds, liveEnds, endsAlike⟩ :=
    Store.finish_alike _ _ plainId liveId plainRecord liveRecord abreast.plain abreast.live alike outcome
  exact ⟨plainEnd, liveEnd, plainEnds, liveEnds, endsAlike, abreast.same, rfl⟩

section Apart

variable (config : Config) (apply : Applier τ) (provider : Option (Provider κ)) (request : ExecuteRequest)

theorem execute_apart (mock : request.options.mode = .mock) (runId : String) (line : Timeline (World (Noted τ × κ)))
    (going : line.world.store.isCancelled runId = false) :
    let env := (apart config apply provider).environment runId
    let alone := PlanChain.execute apply.noted request.plan request.options line.world.rest.1
    env.execute request.plan request.options line = ⟨alone.outcome, alone.events,
      env.leave alone.outcome { line with world := World.applied.set alone.world line.world }⟩ := by
  intro env alone
  have keeps : env.apply.Keeps fun world => world.store = line.world.store := fun _ _ _ same => same
  have goingOn (world : World (Noted τ × κ)) (same : world.store = line.world.store) :
      env.cancelled world = false := by
    change world.store.isCancelled runId = false
    rw [same, going]
  have inPart : PlanChain.execute env.apply request.plan request.options line.world = _ :=
    execute_within World.applied_lawful apply.noted request.plan request.options line.world
  rw [Environment.execute_aside keeps goingOn request.plan line (Or.inl mock) rfl, inPart]
  rfl

theorem apart_in_step (mock : request.options.mode = .mock) (plainId liveId : String)
    (plainRecord liveRecord : RunRecord) :
    let service := apart config apply provider
    (Retrying.ofApplier service.apply request fun _ _ => beforeRetry plainId).InStep
      ((service.environment liveId).retrying request fun _ _ => beforeRetry liveId)
      (Abreast plainId liveId plainRecord liveRecord) := by
  intro service
  constructor
  case attempt =>
    intro world line abreast
    let alone := PlanChain.execute apply.noted request.plan request.options line.world.rest.1
    have plain : PlanChain.execute service.apply request.plan request.options world =
        ⟨alone.outcome, alone.events, World.applied.set alone.world world⟩ := by
      have inPart := execute_within World.applied_lawful apply.noted request.plan request.options world
      rwa [show World.applied.get world = line.world.rest.1 from abreast.same] at inPart
    have live := execute_apart config apply provider request mock liveId line abreast.live.going
    obtain ⟨sameStore, sameApplied, quiet⟩ := service.leave_apart liveId provider rfl alone.outcome
      { line with world := World.applied.set alone.world line.world } abreast.quiet
    dsimp only [Retrying.ofApplier, Environment.retrying]
    rw [plain, live]
    exact ⟨rfl, rfl, abreast.plain, sameStore ▸ abreast.live, quiet, sameApplied.symm⟩
  case pause =>
    intro number failure world line abreast
    obtain ⟨plainGoes, plainHolds⟩ := world.store.before_retry_holds plainId plainRecord abreast.plain
    obtain ⟨liveGoes, liveHolds⟩ := line.world.store.before_retry_holds liveId liveRecord abreast.live
    have liveStops := service.live_stops liveId request number failure line
    exact ⟨plainGoes.trans (liveStops.trans liveGoes).symm, plainHolds, liveHolds, abreast.quiet, abreast.same⟩

-- A new run that is simulated comes to the same whether it is executed plainly or live, whatever the applier makes of
-- its calls: the records that are answered are alike, the applier gets the same calls and is left in the same state,
-- and the same steps are reported.
theorem plain_and_live_runs_agree (mock : request.options.mode = .mock) (creation : CreateRequest)
    (plainStore liveStore : Store) (own : τ) (plainBeside liveBeside : κ) :
    let service := apart config apply provider
    let plain := service.executeNew creation request plainStore (⟨own, []⟩, plainBeside) .plain
    let live := service.executeNew creation request liveStore (⟨own, []⟩, liveBeside) (.live [])
    ∃ plainRecord liveRecord, plain.result = .ok plainRecord ∧ live.result = .ok liveRecord ∧
      plainRecord.Alike liveRecord ∧ plain.world.rest.1 = live.world.rest.1 ∧ plain.events = live.events := by
  intro service plain live
  obtain ⟨plainRecord, plainBegun, plainBegins, plainHolds, plainShape⟩ := plainStore.create_begins creation
  obtain ⟨liveRecord, liveBegun, liveBegins, liveHolds, liveShape⟩ := liveStore.create_begins creation
  have alike : plainRecord.Alike liveRecord := by
    rw [plainShape, liveShape]
    exact ⟨rfl, rfl, rfl, rfl, rfl⟩
  obtain ⟨outcome, events, left⟩ := Retrying.run_in_step
    (apart_in_step config apply provider request mock _ _ plainRecord liveRecord) config.retry
    ⟨plainBegun, (⟨own, []⟩, plainBeside)⟩ ⟨0, [], ⟨liveBegun, (⟨own, []⟩, liveBeside)⟩⟩
    ⟨plainHolds, liveHolds, List.Subset.refl _, rfl⟩
  have ended := conclude_alike left alike
  have plainRun : plain = _ := service.new_run_plain creation request plainStore plainBegun _ plainRecord plainBegins
  have liveRun : live = _ := service.new_run_live creation request liveStore liveBegun _ liveRecord liveBegins
  rw [plainRun, liveRun]
  dsimp only [service, apart] at outcome events ⊢
  rw [outcome, events]
  exact ended _ _

end Apart

theorem flaky_runs_agree :
    let request : ExecuteRequest := { plan := Sample.p1 }
    let service : Service (Noted Nat × Unit) := apart {} (Sample.flaky 1) none
    let plain := service.executeNew { agentId := "agent" } request { clock := .stopped ⟨0, 0⟩ } (⟨0, []⟩, ()) .plain
    let live := service.executeNew { agentId := "agent" } request waiting.store (⟨0, []⟩, ()) (.live [])
    request.options.mode = .mock ∧ plain.world.rest.1.calls.length = 3 ∧
      ∃ plainRecord liveRecord, plain.result = .ok plainRecord ∧ live.result = .ok liveRecord ∧
        plainRecord.Alike liveRecord ∧ plain.world.rest.1 = live.world.rest.1 ∧ plain.events = live.events := by
  intro request service plain live
  exact ⟨rfl, by decide +kernel, plain_and_live_runs_agree {} (Sample.flaky 1) none request rfl { agentId := "agent" } _
    waiting.store 0 () ()⟩

end Service

end PlanChain
