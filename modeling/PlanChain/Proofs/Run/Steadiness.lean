import PlanChain.Proofs.Execution.Parallel
import PlanChain.Proofs.Run.Agreement
import PlanChain.Proofs.Run.Consistency

set_option autoImplicit false

namespace PlanChain

variable {ρ σ α : Type}

-- A store in which the record of a run is as it was in another. Of its checkpoint no more is said than that it is the
-- same, if it is there.
structure Store.LeftAlone (runId : String) (start store : Store) : Prop where
  record : store.registry.get? runId = start.registry.get? runId
  checkpoint : store.checkpoints.get? runId = none ∨ store.checkpoints.get? runId = start.checkpoints.get? runId

-- A world of some property in which a run is left alone. The property is for what others go by when they do so, such
-- as the numbers that new runs get.
structure World.LeftAlone (property : World ρ → Prop) (runId : String) (start : Store) (world : World ρ) : Prop where
  holds : property world
  run : Store.LeftAlone runId start world.store

-- What is worked on, and what was found stored of a run before and after everything that was done.
structure Watched (ρ : Type) where
  own : ρ
  seen : List (Option RunRecord) := []

namespace World

def unwatched (world : World (Watched ρ)) : World ρ := ⟨world.store, world.rest.own⟩

def watched (world : World ρ) : World (Watched ρ) := ⟨world.store, { own := world.rest }⟩

def watch (runId : String) (act : World ρ → α × World ρ) (world : World (Watched ρ)) : α × World (Watched ρ) :=
  let (value, after) := act world.unwatched
  let looks := [world.store.registry.get? runId, after.store.registry.get? runId]
  (value, ⟨after.store, after.rest, world.rest.seen ++ looks⟩)

def watchChange (runId : String) (change : World ρ → World ρ) (world : World (Watched ρ)) : World (Watched ρ) :=
  (watch runId (fun world => ((), change world)) world).2

end World

def Applier.watched (runId : String) (apply : Applier (World ρ)) : Applier (World (Watched ρ)) :=
  fun state step => World.watch runId (apply state step)

def Pending.watched (runId : String) (pending : Pending (World ρ) α) : Pending (World (Watched ρ)) α where
  delay := pending.delay
  finish := World.watch runId pending.finish

def World.watchBegin (runId : String) (start : World ρ → Pending (World ρ) α × World ρ) (world : World (Watched ρ)) :
    Pending (World (Watched ρ)) α × World (Watched ρ) :=
  let (pending, begun) := watch runId start world
  (pending.watched runId, begun)

def Provider.watched (runId : String) (provider : Provider (World ρ)) : Provider (World (Watched ρ)) where
  create sessionId traceId := World.watchChange runId (provider.create sessionId traceId)
  call sessionId call := World.watchBegin runId (provider.call sessionId call)
  close sessionId := World.watchBegin runId (provider.close sessionId)
  shutdown := World.watchBegin runId provider.shutdown

def Service.watched (runId : String) (service : Service ρ) : Service (Watched ρ) where
  config := service.config
  tools := service.tools
  apply := service.apply.watched runId
  provider := service.provider.map (·.watched runId)

def Execution.watched (runId : String) : Execution ρ → Execution (Watched ρ)
  | .plain => .plain
  | .live alarms => .live (alarms.map fun alarm => ⟨alarm.due, World.watchChange runId alarm.ring⟩)

namespace Retrying

variable (retrying : Retrying σ) (params : RetryParams) (world : σ)

def passes : List σ :=
  ((List.range (retrying.made params world)).flatMap fun number =>
    [retrying.found world number, (retrying.tried world number).world]) ++
    [retrying.found world (retrying.made params world)]

variable {retrying params world} {steady : σ → Prop}

theorem found_steady (keeps : retrying.Keeps steady) (isSteady : steady world) (number : Nat) :
    steady (retrying.found world number) := by
  induction number with
  | zero => exact isSteady
  | succ number ih =>
      have tried := keeps.attempt _ ih
      rw [found, pause]
      cases (retrying.attempt (retrying.found world number)).retried? with
      | none => exact tried
      | some failure => exact keeps.pause _ failure _ tried

theorem passes_steady (keeps : retrying.Keeps steady) (isSteady : steady world) :
    ∀ passed ∈ retrying.passes params world, steady passed := by
  intro passed among
  rcases List.mem_append.mp among with within | isLast
  · obtain ⟨number, -, isFound⟩ := List.mem_flatMap.mp within
    have found := found_steady keeps isSteady number
    rcases List.mem_cons.mp isFound with rfl | isTried
    · exact found
    · rw [List.mem_singleton.mp isTried]
      exact keeps.attempt _ found
  · rw [List.mem_singleton.mp isLast]
    exact found_steady keeps isSteady _

theorem passes_last (retrying : Retrying σ) (params : RetryParams) (world : σ) :
    (retrying.passes params world).getLast? = some (retrying.run params world).world := by
  rw [passes, List.getLast?_append, run_by_law]
  rfl

end Retrying

namespace Service

def attemptsPass (service : Service ρ) (runId : String) (request : ExecuteRequest) (begun : World ρ) :
    Execution ρ → List Store
  | .plain =>
    let retrying := Retrying.ofApplier service.apply request fun _ _ => beforeRetry runId
    (retrying.passes service.config.retry begun).map (·.store)
  | .live alarms =>
    let retrying := (service.environment runId).retrying request fun _ _ => beforeRetry runId
    (retrying.passes service.config.retry (Timeline.start alarms begun).giveWay).map (·.world.store)

def passes (service : Service ρ) (runId : String) (request : ExecuteRequest) (world : World ρ)
    (execution : Execution ρ) : List Store :=
  match world.store.change (·.start runId) with
  | (.error _, _) => []
  | (.ok record, started) =>
    let saved := started.save runId record
    let begun := saved.watch runId
    let tried := service.attemptsPass runId request ⟨begun, world.rest⟩ execution
    let left := tried.getLast?.getD begun
    [started, saved, begun] ++ tried ++ [left.discard runId, (left.discard runId).unwatch runId]

def LeavesAlone (service : Service ρ) (property : World ρ → Prop) (runId : String) : Execution ρ → Prop
  | .plain => ∀ start, service.apply.Keeps (World.LeftAlone property runId start)
  | .live alarms => ∀ start, (service.environment runId).Keeps alarms (World.LeftAlone property runId start)

end Service

namespace Store

variable {runId : String} {record : RunRecord} {start begun store : Store}

theorem left_alone_itself (runId : String) (store : Store) : LeftAlone runId store store := ⟨rfl, Or.inr rfl⟩

theorem create_left_alone (alone : LeftAlone runId start store)
    (another : runId ≠ PlanChain.runId store.registry.nextSequence) (request : CreateRequest) :
    LeftAlone runId start (store.create request).2 := by
  refine ⟨?_, alone.checkpoint⟩
  rw [← alone.record]
  simp [create, Registry.create, Registry.get?, another]

theorem begin_holds (every : Every Proper start) (begins : start.begin runId = (.ok record, begun)) :
    begun.Holds runId record := by
  obtain ⟨started, made, rfl⟩ := begin_started begins
  obtain ⟨proper, isRunning⟩ := started_proper every made
  obtain ⟨-, -, -, -, stored⟩ := start_made start started runId record made
  refine ⟨proper.1, isRunning, stored, ?_, ?_⟩
  · simp [watch, save]
  · simp [watch, isCancelled]

-- A pause puts the checkpoint in the place of the record, and that is the record that is there.
theorem before_retry_same (holds : begun.Holds runId record) (alone : LeftAlone runId begun store) :
    (store.beforeRetry runId).2 = store := by
  rw [beforeRetry]
  by_cases told : store.isCancelled runId = true
  · rw [if_pos told]
  · rw [if_neg told]
    cases loaded : store.checkpoints.get? runId with
    | none => rfl
    | some snapshot =>
        have isRecord : snapshot = record := by
          rcases alone.checkpoint with missing | same
          · rw [missing] at loaded
            cases loaded
          · rw [same, holds.saved] at loaded
            exact (Option.some.inj loaded).symm
        subst isRecord
        have stored : store.registry.records.get? snapshot.runId = some snapshot := by
          rw [holds.own]
          exact alone.record.trans holds.stored
        cases restored : store.registry.restore? snapshot with
        | none => simp only [restored]
        | some registry =>
            have same := store.registry.records.insert_same snapshot.runId snapshot stored
            simp only [restored, restored_registry restored, same]

end Store

structure Steady (property : World ρ → Prop) (runId : String) (begun : Store) (world : World ρ)
    (watched : World (Watched ρ)) : Prop where
  same : watched.unwatched = world
  alone : world.LeftAlone property runId begun
  seen : ∀ record ∈ watched.rest.seen, record = begun.registry.get? runId

section Watching

variable {property : World ρ → Prop} {runId : String} {record : RunRecord} {begun : Store}

theorem watch_in_step (act : World ρ → α × World ρ)
    (leaves : ∀ world : World ρ, world.LeftAlone property runId begun → (act world).2.LeftAlone property runId begun) :
    ActInStep (Steady property runId begun) act (World.watch runId act) := by
  rintro world watched ⟨rfl, alone, seen⟩
  have after := leaves _ alone
  refine ⟨rfl, rfl, after, fun look among => ?_⟩
  rcases List.mem_append.mp among with earlier | now
  · exact seen look earlier
  · rcases List.mem_cons.mp now with rfl | next
    · exact alone.run.record
    · rw [List.mem_singleton.mp next]
      exact after.run.record

theorem watch_change_in_step {change : World ρ → World ρ}
    (leaves : ∀ world : World ρ, world.LeftAlone property runId begun → (change world).LeftAlone property runId begun)
    (world : World ρ) (watched : World (Watched ρ)) (steady : Steady property runId begun world watched) :
    Steady property runId begun (change world) (World.watchChange runId change watched) :=
  (watch_in_step (fun world => ((), change world)) leaves world watched steady).2

theorem watch_begin_in_step {begin : World ρ → Pending (World ρ) α × World ρ}
    (leaves : Begins (World.LeftAlone property runId begun) begin) :
    BeginInStep (Steady property runId begun) begin (World.watchBegin runId begin) := by
  rintro world watched ⟨rfl, alone, seen⟩
  obtain ⟨-, finishes⟩ := leaves _ alone
  obtain ⟨-, left⟩ := watch_in_step begin (fun world alone => (leaves world alone).1) _ watched ⟨rfl, alone, seen⟩
  exact ⟨⟨rfl, watch_in_step _ finishes⟩, left⟩

theorem provider_in_step {provider : Provider (World ρ)}
    (leaves : provider.Keeps (World.LeftAlone property runId begun)) :
    provider.InStep (Steady property runId begun) (provider.watched runId) where
  create sessionId traceId := watch_change_in_step (leaves.create sessionId traceId)
  call sessionId call := watch_begin_in_step (leaves.call sessionId call)
  close sessionId := watch_begin_in_step (leaves.close sessionId)
  shutdown := watch_begin_in_step leaves.shutdown

theorem environment_in_step (service : Service ρ) {alarms : List (Alarm (World ρ))}
    (leaves : (service.environment runId).Keeps alarms (World.LeftAlone property runId begun)) :
    (service.environment runId).InStep (Steady property runId begun) ((service.watched runId).environment runId) where
  apply state step := watch_in_step _ (leaves.apply state step)
  provider := by
    have provided := leaves.provider
    change Option.Rel _ service.provider (service.provider.map _)
    change ∀ provider, service.provider = some provider → _ at provided
    cases present : service.provider with
    | none => exact .none
    | some provider => exact .some (provider_in_step (provided provider present))
  timeout := rfl
  cancelled := by
    rintro world watched ⟨rfl, -, -⟩
    rfl

theorem before_retry_same (holds : begun.Holds runId record) {world : World ρ}
    (alone : world.LeftAlone property runId begun) : (Service.beforeRetry runId world).2 = world := by
  dsimp only [Service.beforeRetry]
  rw [Store.before_retry_same holds alone.run]

theorem pause_in_step (holds : begun.Holds runId record) :
    ActInStep (Steady property runId begun) (Service.beforeRetry runId) (Service.beforeRetry runId) := by
  rintro world watched ⟨rfl, alone, seen⟩
  refine ⟨rfl, rfl, ?_, seen⟩
  rw [before_retry_same holds alone]
  exact alone

end Watching

namespace Service

variable {property : World ρ → Prop} {runId : String} {record : RunRecord} {begun : Store}

theorem plain_in_step (service : Service ρ) (request : ExecuteRequest) (holds : begun.Holds runId record)
    (leaves : service.apply.Keeps (World.LeftAlone property runId begun)) :
    (Retrying.ofApplier service.apply request fun _ _ => beforeRetry runId).InStep
      (Retrying.ofApplier (service.watched runId).apply request fun _ _ => beforeRetry runId)
      (Steady property runId begun) where
  attempt world watched steady := by
    have applies : Applier.InStep (Steady property runId begun) service.apply (service.watched runId).apply :=
      fun state step => watch_in_step _ (leaves state step)
    have runs := execute_in_step applies request.plan request.options world watched steady
    exact ⟨congrArg (Outcome.toResponse? request.options) runs.outcome, runs.events, runs.world⟩
  pause _ _ world watched steady := pause_in_step holds world watched steady

theorem live_in_step (service : Service ρ) (request : ExecuteRequest) (holds : begun.Holds runId record)
    {alarms : List (Alarm (World ρ))}
    (leaves : (service.environment runId).Keeps alarms (World.LeftAlone property runId begun)) :
    ((service.environment runId).retrying request fun _ _ => beforeRetry runId).InStep
      (((service.watched runId).environment runId).retrying request fun _ _ => beforeRetry runId)
      (Timeline.InStep (Steady property runId begun)) where
  attempt line watched lines := by
    have runs := Environment.execute_in_step (environment_in_step service leaves) request.plan request.options lines
    exact ⟨congrArg (Outcome.toResponse? request.options) runs.outcome, runs.events, runs.world⟩
  pause _ _ line watched lines := by
    obtain ⟨stops, paused⟩ := pause_in_step holds _ _ lines.world
    have stopped := (environment_in_step service leaves).cancelled _ _ paused
    refine ⟨?_, lines.now, lines.alarms, paused⟩
    dsimp only [Environment.retrying]
    rw [stops, stopped]

theorem conclude_steady (outcome : Option RetryOutcome) (events : List StepEvent) {world : World ρ}
    {watched : World (Watched ρ)} (steady : Steady property runId begun world watched) :
    let served := conclude runId outcome events world
    let seen := conclude runId outcome events watched
    seen.result = served.result ∧ seen.events = served.events ∧ seen.world.unwatched = served.world ∧
      ∀ look ∈ seen.world.rest.seen, look = begun.registry.get? runId := by
  obtain ⟨rfl, -, seen⟩ := steady
  exact ⟨rfl, rfl, rfl, seen⟩

theorem attempts_pass_alone (service : Service ρ) (request : ExecuteRequest) (rest : ρ) (execution : Execution ρ)
    (holds : begun.Holds runId record) (leaves : service.LeavesAlone property runId execution)
    (first : property ⟨begun, rest⟩) :
    ∀ store ∈ service.attemptsPass runId request ⟨begun, rest⟩ execution, Store.LeftAlone runId begun store := by
  intro store among
  have alone : World.LeftAlone property runId begun ⟨begun, rest⟩ := ⟨first, Store.left_alone_itself runId begun⟩
  have paused (world : World ρ) (alone : world.LeftAlone property runId begun) :
      (beforeRetry runId world).2.LeftAlone property runId begun := by rwa [before_retry_same holds alone]
  cases execution with
  | plain =>
      obtain ⟨passed, isPassed, rfl⟩ := List.mem_map.mp among
      exact (Retrying.passes_steady (service.retried_keeps request (leaves begun) paused) alone passed isPassed).run
  | live alarms =>
      obtain ⟨passed, isPassed, rfl⟩ := List.mem_map.mp among
      obtain ⟨stillLeaves, rung⟩ := service.live_rings ⟨begun, rest⟩ (leaves begun) alone
      have keeps := service.retried_live_keeps request stillLeaves paused
      exact (Retrying.passes_steady keeps rung passed isPassed).world.run

theorem executed_left (service : Service ρ) (request : ExecuteRequest) (world : World ρ) (execution : Execution ρ)
    (begins : world.store.begin runId = (.ok record, begun)) :
    ∃ outcome left, (service.attemptsPass runId request ⟨begun, world.rest⟩ execution).getLast? = some left ∧
      (service.executed runId request world execution).world.store = (left.finish runId outcome).2 := by
  cases execution with
  | plain =>
      rw [executed, execute, begins, attemptsPass, List.getLast?_map, Retrying.passes_last]
      exact ⟨_, _, rfl, rfl⟩
  | live alarms =>
      rw [executed, executeLive, begins, attemptsPass, List.getLast?_map, Retrying.passes_last]
      exact ⟨_, _, rfl, rfl⟩

theorem executed_watched (service : Service ρ) (request : ExecuteRequest) (world : World ρ) (execution : Execution ρ)
    (holds : begun.Holds runId record) (begins : world.store.begin runId = (.ok record, begun))
    (leaves : service.LeavesAlone property runId execution) (isFirst : property ⟨begun, world.rest⟩) :
    let served := service.executed runId request world execution
    let seen := (service.watched runId).executed runId request world.watched (execution.watched runId)
    seen.result = served.result ∧ seen.events = served.events ∧ seen.world.unwatched = served.world ∧
      ∀ look ∈ seen.world.rest.seen, look = begun.registry.get? runId := by
  have watchedBegins : world.watched.store.begin runId = (.ok record, begun) := begins
  have first : Steady property runId begun ⟨begun, world.rest⟩ ⟨begun, { own := world.rest }⟩ :=
    ⟨rfl, ⟨isFirst, Store.left_alone_itself runId begun⟩, fun _ among => absurd among List.not_mem_nil⟩
  cases execution with
  | plain =>
      obtain ⟨outcome, events, left⟩ := Retrying.run_in_step (plain_in_step service request holds (leaves begun))
        service.config.retry _ _ first
      rw [executed, execute, begins, Execution.watched, executed, execute, watchedBegins]
      dsimp only
      rw [outcome, events]
      exact conclude_steady _ _ left
  | live alarms =>
      have rings : ∀ alarm ∈ alarms, ∀ world watched, Steady property runId begun world watched →
          Steady property runId begun (alarm.ring world) (World.watchChange runId alarm.ring watched) :=
        fun alarm among => watch_change_in_step ((leaves begun).alarms alarm among)
      have lines := Timeline.give_way_in_step (Timeline.start_in_step (World.watchChange runId) rings _ _ first)
      obtain ⟨outcome, events, left⟩ := Retrying.run_in_step (live_in_step service request holds (leaves begun))
        service.config.retry _ _ lines
      rw [executed, executeLive, begins, Execution.watched, executed, executeLive, watchedBegins]
      dsimp only
      rw [outcome, events]
      exact conclude_steady _ _ left.world

theorem passes_begun (service : Service ρ) (request : ExecuteRequest) (world : World ρ) (execution : Execution ρ)
    {left : Store} (begins : world.store.begin runId = (.ok record, begun))
    (isLast : (service.attemptsPass runId request ⟨begun, world.rest⟩ execution).getLast? = some left) :
    ∃ started : Store, begun.registry = started.registry ∧
      service.passes runId request world execution = [started, started.save runId record, begun] ++
        service.attemptsPass runId request ⟨begun, world.rest⟩ execution ++
          [left.discard runId, (left.discard runId).unwatch runId] := by
  obtain ⟨started, made, rfl⟩ := Store.begin_started begins
  refine ⟨started, rfl, ?_⟩
  rw [passes, made]
  dsimp only
  rw [isLast, Option.getD_some]

theorem passes_hold (service : Service ρ) (request : ExecuteRequest) (world : World ρ) (execution : Execution ρ)
    (holds : begun.Holds runId record) (begins : world.store.begin runId = (.ok record, begun))
    (leaves : service.LeavesAlone property runId execution) (first : property ⟨begun, world.rest⟩) :
    ∀ store ∈ service.passes runId request world execution, store.registry.get? runId = some record := by
  obtain ⟨-, left, isLast, -⟩ := executed_left service request world execution begins
  obtain ⟨started, same, isPassed⟩ := passes_begun service request world execution begins isLast
  have stored : started.registry.get? runId = some record := by rw [← same, holds.stored]
  have between : ∀ store ∈ service.attemptsPass runId request ⟨begun, world.rest⟩ execution,
      store.registry.get? runId = some record := fun store among =>
    (attempts_pass_alone service request world.rest execution holds leaves first store among).record.trans holds.stored
  have leftStored : left.registry.get? runId = some record := between left (List.mem_of_getLast? isLast)
  rw [isPassed]
  simp only [List.forall_mem_append, List.forall_mem_cons]
  exact ⟨⟨⟨stored, stored, holds.stored, fun _ => nofun⟩, between⟩, leftStored, leftStored, fun _ => nofun⟩

-- From the start of a run to where its end is written, what is stored of it is the record that it was started with,
-- in every store that its execution passes through and whenever anything is done meanwhile; and to watch the
-- execution changes nothing of it.
theorem attempts_stay_out_of_sight (service : Service ρ) (runId : String) (request : ExecuteRequest) (world : World ρ)
    (execution : Execution ρ) (visited : world.store.Visited) (property : World ρ → Prop)
    (leaves : service.LeavesAlone property runId execution) (started : RunRecord) (begun : Store)
    (begins : world.store.begin runId = (.ok started, begun)) (isFirst : property ⟨begun, world.rest⟩) :
    let served := service.executed runId request world execution
    let passes := service.passes runId request world execution
    let seen := (service.watched runId).executed runId request world.watched (execution.watched runId)
    (started.status = .running ∧ started.error = none ∧ started.output = none) ∧
      (∀ store ∈ passes, store.registry.get? runId = some started) ∧
      (∃ outcome last, passes.getLast? = some last ∧
        served.world.store = (last.change (Store.conclusion runId outcome)).2) ∧
      (seen.result = served.result ∧ seen.events = served.events ∧ seen.world.unwatched = served.world) ∧
      ∀ look ∈ seen.world.rest.seen, look = some started := by
  intro served passes seen
  have every := Store.visited_proper visited
  have holds := Store.begin_holds every begins
  obtain ⟨first, made, -⟩ := Store.begin_started begins
  obtain ⟨-, noOutput, noError⟩ := Store.proper_running (Store.started_proper every made).1 holds.running
  obtain ⟨outcome, left, isLast, ended⟩ := executed_left service request world execution begins
  obtain ⟨result, events, same, looks⟩ := executed_watched service request world execution holds begins leaves
    isFirst
  refine ⟨⟨holds.running, noError, noOutput⟩, passes_hold service request world execution holds begins leaves isFirst,
    ⟨outcome, (left.discard runId).unwatch runId, ?_, ?_⟩, ⟨result, events, same⟩, fun look among => ?_⟩
  · obtain ⟨started, -, isPassed⟩ := passes_begun service request world execution begins isLast
    dsimp only [passes]
    rw [isPassed, List.getLast?_append]
    rfl
  · rw [← Store.finish_changes]
    exact ended
  · rw [looks look among, holds.stored]

def spawning : Service Nat where
  apply state step world :=
    ((Sample.flaky 2 state step world.rest).1,
      ⟨if world.rest < 2 then (world.store.create { agentId := "helper" }).2 else world.store, world.rest + 1⟩)

-- The number of the next run, by the calls so far. The first run has been created before.
def SpawnedSoFar (world : World Nat) : Prop :=
  world.store.registry.nextSequence = UInt64.ofNat (2 + min world.rest 2)

theorem spawning_leaves_alone : spawning.LeavesAlone SpawnedSoFar "run_000001" .plain := by
  intro start state step world alone
  obtain ⟨number, left⟩ := alone
  change World.LeftAlone SpawnedSoFar "run_000001" start
    ⟨if world.rest < 2 then (world.store.create { agentId := "helper" }).2 else world.store, world.rest + 1⟩
  by_cases early : world.rest < 2
  · rw [if_pos early]
    have isNext : world.store.registry.nextSequence = UInt64.ofNat (2 + world.rest) := by
      rw [number, Nat.min_eq_left (Nat.le_of_lt early)]
    have another : "run_000001" ≠ runId world.store.registry.nextSequence := by
      have isFirst : runId 1 = "run_000001" := by decide +kernel
      rw [← isFirst, isNext]
      intro same
      have numbers := congrArg UInt64.toNat (run_id_injective _ _ same)
      rw [UInt64.toNat_ofNat'] at numbers
      change 1 = _ at numbers
      omega
    refine ⟨?_, Store.create_left_alone left another _⟩
    change world.store.registry.nextSequence + 1 = UInt64.ofNat (2 + min (world.rest + 1) 2)
    rw [isNext, Nat.min_eq_left early]
    exact (UInt64.ofNat_add (2 + world.rest) 1).symm
  · rw [if_neg early]
    refine ⟨?_, left⟩
    have still : min (world.rest + 1) 2 = min world.rest 2 := by omega
    rw [SpawnedSoFar, still]
    exact number

-- Two failed attempts and one of two steps: four calls, with a look before and after each.
theorem spawning_run_out_of_sight :
    let request : ExecuteRequest := { plan := Sample.p1 }
    let served := spawning.executed "run_000001" request waiting .plain
    let passes := spawning.passes "run_000001" request waiting .plain
    let seen := (spawning.watched "run_000001").executed "run_000001" request waiting.watched .plain
    waiting.store.Visited ∧ spawning.LeavesAlone SpawnedSoFar "run_000001" .plain ∧
      passes.length = 12 ∧ seen.world.rest.seen.length = 8 ∧ served.world.store.registry.nextSequence = 4 ∧
      ∃ started begun, waiting.store.begin "run_000001" = (.ok started, begun) ∧ SpawnedSoFar ⟨begun, waiting.rest⟩ ∧
        (started.status = .running ∧ started.error = none ∧ started.output = none) ∧
        (∀ store ∈ passes, store.registry.get? "run_000001" = some started) ∧
        (∃ outcome last, passes.getLast? = some last ∧
          served.world.store = (last.change (Store.conclusion "run_000001" outcome)).2) ∧
        (seen.result = served.result ∧ seen.events = served.events ∧ seen.world.unwatched = served.world) ∧
        ∀ look ∈ seen.world.rest.seen, look = some started := by
  intro request served passes seen
  have visited : waiting.store.Visited := .create _ _ (.initial _)
  have counted : passes.length = 12 ∧ seen.world.rest.seen.length = 8 ∧
      served.world.store.registry.nextSequence = 4 := by
    dsimp only [passes, seen, served]
    rw [waiting_run]
    decide +kernel
  obtain ⟨started, begun, begins, isFirst⟩ : ∃ started begun,
      waiting.store.begin "run_000001" = (.ok started, begun) ∧ SpawnedSoFar ⟨begun, waiting.rest⟩ := by
    rw [waiting_run]
    exact ⟨_, _, rfl, rfl⟩
  exact ⟨visited, spawning_leaves_alone, counted.1, counted.2.1, counted.2.2, started, begun, begins, isFirst,
    attempts_stay_out_of_sight spawning "run_000001" request waiting .plain visited SpawnedSoFar spawning_leaves_alone
      started begun begins isFirst⟩

end Service

end PlanChain
