import PlanChain.Proofs.Execution.Wire
import PlanChain.Proofs.Run.Ending
import PlanChain.Proofs.Run.Retrying

set_option autoImplicit false

namespace PlanChain

-- What is put out by a run that succeeded: the response, to be read again, and what it took to get it, which is one
-- attempt more than there were waits.
def TellsSuccess (output : Members) : Prop :=
  ∃ execution result info metrics schedule,
    output.get? "execution" = some execution ∧ ExecutionResponse.ofJson? execution = some (.success result info) ∧
      output.get? "metrics" = some metrics ∧ metrics.get? "backoffScheduleMs" = some (.arr schedule) ∧
      metrics.get? "fixpointIterations" = some (.ofNat (schedule.length + 1))

def RunRecord.Consistent (record : RunRecord) : Prop :=
  match record.status with
  | .created | .running => record.output = none ∧ record.error = none
  | .completed => record.error = none ∧ ∃ output, record.output = some output ∧ TellsSuccess output
  | .failed => record.output = none ∧ ∃ error, record.error = some error
  | .cancelled => record.output = none ∧
    (record.error = none ∨ ∃ message, record.error = some ⟨.runCancelled, message⟩)

namespace Retrying

variable {σ : Type}

-- What is retried is never completed, so a completed outcome is of an attempt that was not, and of those before it.
theorem completed_ending {retrying : Retrying σ} {params : RetryParams} {world : σ} {outcome : RetryOutcome}
    {response : ExecutionResponse} (ended : (retrying.run params world).outcome = some outcome)
    (completed : outcome.verdict = .completed response) :
    (∃ result info, response = .success result info) ∧ outcome.iterations.toNat = outcome.schedule.length + 1 := by
  rcases ended_cases retrying params world outcome ended with
    ⟨failure, failed, -⟩ | ⟨failure, terminal, -⟩ | ⟨last, answer, isLast, -, rfl⟩
  · rw [failed] at completed
    cases completed
  · rw [terminal] at completed
    cases completed
  · have within : last + 1 < UInt32.size := Nat.lt_of_le_of_lt isLast params.maxIterations.toNat_lt_size
    refine ⟨?_, ?_⟩
    · cases answer with
      | success result info =>
          cases completed
          exact ⟨result, info, rfl⟩
      | failure failure info =>
          dsimp only [Verdict.of] at completed
          split at completed <;> cases completed
    · dsimp only
      rw [UInt32.toNat_ofNat_of_lt' within, RetryParams.waits, List.length_map, List.length_range]

end Retrying

namespace Store

theorem conclusion_told {σ : Type} (retrying : Retrying σ) (params : RetryParams) (world : σ) (runId : String) :
    let outcome := (retrying.run params world).outcome
    (∃ output, TellsSuccess output ∧
      conclusion runId outcome = fun registry now => registry.complete runId (some output) now) ∨
      ∃ error, conclusion runId outcome = fun registry now => registry.fail runId error now := by
  intro outcome
  cases ended : outcome with
  | none => exact Or.inr ⟨_, rfl⟩
  | some found =>
      obtain ⟨verdict, iterations, schedule⟩ := found
      cases verdict with
      | failed failure => exact Or.inr ⟨_, rfl⟩
      | terminal failure => exact Or.inr ⟨_, rfl⟩
      | completed response =>
          obtain ⟨⟨result, info, rfl⟩, counted⟩ := Retrying.completed_ending ended rfl
          refine Or.inl ⟨_, ⟨_, result, info, _, schedule.map .ofUInt64, rfl, ?_, rfl, rfl, ?_⟩, rfl⟩
          · exact envelope_survives result info _ (Json.sort_settled _)
          · have counted : iterations.toNat = schedule.length + 1 := counted
            rw [List.length_map, ← counted]
            rfl

structure Every (property : String → RunRecord → Prop) (store : Store) : Prop where
  records : ∀ id record, store.registry.get? id = some record → property id record
  checkpoints : ∀ id record, store.checkpoints.get? id = some record → property id record

section Every

variable {property : String → RunRecord → Prop} {store : Store}

theorem every_changed (every : Every property store) (runId : String) (status : RunStatus)
    (edit : RunRecord → RunRecord)
    (keeps : ∀ record now, property runId record → record.status.allows status = true →
      property runId { edit record with status, updatedAt := now }) :
    Every property (store.change fun registry now => registry.transition runId status edit now).2 := by
  have elsewhere := change_elsewhere runId store status edit
  refine ⟨fun id record found => ?_, fun id record found => every.checkpoints id record ?_⟩
  · by_cases own : id = runId
    · subst own
      cases made : store.change fun registry now => registry.transition id status edit now with
      | mk result after =>
          rw [made] at found
          cases result with
          | error error =>
              rw [(change_denied store after error _ made).2] at found
              exact every.records id record found
          | ok changed =>
              obtain ⟨before, isBefore, allowed, isRecord, stored⟩ :=
                Registry.transition_made _ _ _ _ _ _ _ (change_made store after changed _ made).1
              cases found.symm.trans stored
              rw [isRecord]
              exact keeps before _ (every.records id before isBefore) allowed
    · rw [elsewhere.records id own] at found
      exact every.records id record found
  · rwa [change_checkpoints] at found

theorem every_written (every : Every property store) (runId : String) (record : RunRecord)
    (has : property runId record) (sequence : UInt64) (clock : Clock) :
    Every property { store with clock, registry := ⟨store.registry.records.insert runId record, sequence⟩ } := by
  refine ⟨fun id other found => ?_, every.checkpoints⟩
  rcases Table.of_get?_insert found with ⟨rfl, rfl⟩ | before
  · exact has
  · exact every.records id other before

theorem every_saved (every : Every property store) {runId : String} {record : RunRecord}
    (has : property runId record) : Every property (store.save runId record) := by
  refine ⟨every.records, fun id other found => ?_⟩
  rcases Table.of_get?_insert found with ⟨rfl, rfl⟩ | before
  · exact has
  · exact every.checkpoints id other before

theorem every_discarded (every : Every property store) (runId : String) : Every property (store.discard runId) :=
  ⟨every.records, fun id record found => every.checkpoints id record (Table.of_get?_erase found)⟩

end Every

def Proper (id : String) (record : RunRecord) : Prop := record.runId = id ∧ record.Consistent

-- The stores that a service can come to have, operation by operation, in whatever order those of several calls and
-- executions come. What an execution has got in its hands, it may write later, when the store has changed; and an
-- outcome is what retrying comes to, of any attempts, or none after a crash.
inductive Visited : Store → Prop where
  | initial (clock : Clock) : Visited { clock }
  | create (store : Store) (request : CreateRequest) (before : Visited store) : Visited (store.create request).2
  | cancel (store : Store) (runId : String) (reason : Option String) (before : Visited store) :
      Visited (store.change (·.cancel runId reason)).2
  | signal (store : Store) (runId : String) (before : Visited store) : Visited (store.signal runId)
  | start (store : Store) (runId : String) (before : Visited store) : Visited (store.change (·.start runId)).2
  | save (store earlier after : Store) (runId : String) (record : RunRecord) (before : Visited store)
      (wasVisited : Visited earlier) (started : earlier.change (·.start runId) = (.ok record, after)) :
      Visited (store.save runId record)
  | watch (store : Store) (runId : String) (before : Visited store) : Visited (store.watch runId)
  | restore (store earlier : Store) (runId : String) (snapshot : RunRecord) (registry : Registry)
      (before : Visited store) (wasVisited : Visited earlier)
      (loaded : earlier.checkpoints.get? runId = some snapshot)
      (restored : store.registry.restore? snapshot = some registry) : Visited { store with registry }
  | discard (store : Store) (runId : String) (before : Visited store) : Visited (store.discard runId)
  | unwatch (store : Store) (runId : String) (before : Visited store) : Visited (store.unwatch runId)
  | conclude {σ : Type} (store : Store) (runId : String) (retrying : Retrying σ) (params : RetryParams) (world : σ)
      (before : Visited store) : Visited (store.change (conclusion runId (retrying.run params world).outcome)).2

section Keeping

variable {runId : String} {record : RunRecord} {now : Timestamp}

theorem proper_started (now : Timestamp) (proper : Proper runId record)
    (allowed : record.status.allows .running = true) :
    Proper runId { record with status := .running, updatedAt := now } := by
  obtain ⟨own, consistent⟩ := proper
  have isCreated := (RunStatus.allows_running record.status).mp allowed
  rw [RunRecord.Consistent, isCreated] at consistent
  exact ⟨own, consistent⟩

theorem proper_cancelled (reason : Option String) (proper : Proper runId record)
    (allowed : record.status.allows .cancelled = true) :
    Proper runId { (match reason with
      | none => record
      | some message => { record with error := some ⟨.runCancelled, message⟩ }) with
        status := .cancelled, updatedAt := now } := by
  obtain ⟨own, consistent⟩ := proper
  have clean : record.output = none ∧ record.error = none := by
    rcases (RunStatus.allows_cancelled record.status).mp allowed with active | active <;>
      rwa [RunRecord.Consistent, active] at consistent
  cases reason with
  | none => exact ⟨own, clean.1, Or.inl clean.2⟩
  | some message => exact ⟨own, clean.1, Or.inr ⟨message, rfl⟩⟩

theorem proper_running (proper : Proper runId record) (isRunning : record.status = .running) :
    record.runId = runId ∧ record.output = none ∧ record.error = none := by
  obtain ⟨own, consistent⟩ := proper
  rw [RunRecord.Consistent, isRunning] at consistent
  exact ⟨own, consistent⟩

theorem proper_concluded {σ : Type} (retrying : Retrying σ) (params : RetryParams) (world : σ) (store : Store)
    (every : Every Proper store) (runId : String) :
    Every Proper (store.change (conclusion runId (retrying.run params world).outcome)).2 := by
  rcases conclusion_told retrying params world runId with ⟨output, tells, shape⟩ | ⟨error, shape⟩
  · rw [shape]
    refine every_changed every runId .completed _ fun record now proper allowed => ?_
    obtain ⟨own, -, noError⟩ := proper_running proper ((RunStatus.allows_ended _ _ (Or.inl rfl)).mp allowed)
    exact ⟨own, noError, output, rfl, tells⟩
  · rw [shape]
    refine every_changed every runId .failed _ fun record now proper allowed => ?_
    obtain ⟨own, noOutput, -⟩ := proper_running proper ((RunStatus.allows_ended _ _ (Or.inr rfl)).mp allowed)
    exact ⟨own, noOutput, error, rfl⟩

theorem started_proper {store after : Store} (every : Every Proper store)
    (started : store.change (·.start runId) = (.ok record, after)) :
    Proper runId record ∧ record.status = .running := by
  obtain ⟨before, found, isCreated, isRecord, -⟩ := start_made store after runId record started
  have proper := proper_started record.updatedAt (every.records runId before found)
    ((RunStatus.allows_running _).mpr isCreated)
  rw [isRecord]
  exact ⟨proper, rfl⟩

theorem restored_registry {registry after : Registry} {snapshot : RunRecord}
    (restored : registry.restore? snapshot = some after) :
    after = ⟨registry.records.insert snapshot.runId snapshot, registry.nextSequence⟩ := by
  rw [Registry.restore?] at restored
  split at restored
  · cases restored
  · split at restored
    · cases restored
    · exact (Option.some.inj restored).symm

end Keeping

-- By induction on the operations; each writes proper records at most.
theorem visited_proper {store : Store} (visited : Visited store) : Every Proper store := by
  induction visited with
  | initial clock => exact ⟨fun _ _ => nofun, fun _ _ => nofun⟩
  | create store request _ every => exact every_written every _ (store.create request).1 ⟨rfl, rfl, rfl⟩ _ _
  | cancel store runId reason _ every =>
      exact every_changed every runId .cancelled _ fun _ _ => proper_cancelled reason
  | signal store runId _ every =>
      rw [signal]
      split
      · exact ⟨every.records, every.checkpoints⟩
      · exact every
  | start store runId _ every => exact every_changed every runId .running _ fun _ now => proper_started now
  | save store earlier after runId record _ _ started every wasEvery =>
      exact every_saved every (started_proper wasEvery started).1
  | watch store runId _ every => exact ⟨every.records, every.checkpoints⟩
  | restore store earlier runId snapshot registry _ _ loaded restored every wasEvery =>
      have proper := wasEvery.checkpoints runId snapshot loaded
      rw [restored_registry restored]
      exact every_written every snapshot.runId snapshot ⟨rfl, proper.2⟩ _ _
  | discard store runId _ every => exact every_discarded every runId
  | unwatch store runId _ every => exact ⟨every.records, every.checkpoints⟩
  | conclude store runId retrying params world _ every => exact proper_concluded retrying params world store every runId

theorem cancel_visits {store : Store} (visited : Visited store) (runId : String) (reason : Option String) :
    Visited (store.cancel runId reason).2 := by
  have changed := Visited.cancel store runId reason visited
  rcases store.cancel_changes runId reason with same | told
  · rwa [same]
  · rw [told]
    exact .signal _ runId changed

theorem begin_visits {store : Store} (visited : Visited store) (runId : String) : Visited (store.begin runId).2 := by
  have changed := Visited.start store runId visited
  rw [begin]
  cases started : store.change (·.start runId) with
  | mk result after =>
      rw [started] at changed
      cases result with
      | error error => exact changed
      | ok record => exact .watch _ runId (.save after store after runId record changed visited started)

theorem before_retry_visits {store : Store} (visited : Visited store) (runId : String) :
    Visited (store.beforeRetry runId).2 := by
  rw [beforeRetry]
  by_cases told : store.isCancelled runId = true
  · rwa [if_pos told]
  · rw [if_neg told]
    cases loaded : store.checkpoints.get? runId with
    | none => exact visited
    | some snapshot =>
        cases restored : store.registry.restore? snapshot with
        | none => simpa only [restored] using visited
        | some registry =>
            have written := Visited.restore store store runId snapshot registry visited visited loaded restored
            simpa only [restored] using written

theorem finish_visits {σ : Type} {store : Store} (visited : Visited store) (runId : String) (retrying : Retrying σ)
    (params : RetryParams) (world : σ) : Visited (store.finish runId (retrying.run params world).outcome).2 := by
  rw [finish_changes]
  exact .conclude _ runId retrying params world (.unwatch _ runId (.discard store runId visited))

end Store

namespace Service

variable {ρ : Type}

def WorldVisited (world : World ρ) : Prop := world.store.Visited

def OnlyServes (service : Service ρ) (runId : String) : Execution ρ → Prop
  | .plain => service.apply.Keeps WorldVisited
  | .live alarms => (service.environment runId).Keeps alarms WorldVisited

section Retried

variable {runId : String} {property : World ρ → Prop}

theorem retried_keeps (service : Service ρ) (request : ExecuteRequest) (keeps : service.apply.Keeps property)
    (pauses : ∀ world, property world → property (beforeRetry runId world).2) :
    (Retrying.ofApplier service.apply request fun _ _ => beforeRetry runId).Keeps property where
  attempt world holds := execute_keeps service.apply property keeps request.plan request.options world holds
  pause _ _ world holds := pauses world holds

theorem retried_live_keeps (service : Service ρ) (request : ExecuteRequest) {alarms : List (Alarm (World ρ))}
    (keeps : (service.environment runId).Keeps alarms property)
    (pauses : ∀ world, property world → property (beforeRetry runId world).2) :
    ((service.environment runId).retrying request fun _ _ => beforeRetry runId).Keeps
      (Timeline.Kept property alarms) where
  attempt line kept := Environment.execute_kept keeps request.plan request.options line kept
  pause _ _ line kept := ⟨pauses line.world kept.world, kept.pending⟩

theorem live_rings (service : Service ρ) {alarms : List (Alarm (World ρ))} (world : World ρ)
    (keeps : (service.environment runId).Keeps alarms property) (holds : property world) :
    let line := Timeline.start alarms world
    (service.environment runId).Keeps line.alarms property ∧ line.giveWay.Kept property line.alarms := by
  intro line
  have stillKeep := Timeline.start_all_keep keeps.alarms world
  exact ⟨⟨keeps.apply, keeps.provider, stillKeep⟩,
    Timeline.give_way_kept stillKeep line ⟨holds, List.Subset.refl _⟩⟩

end Retried

theorem plain_visits (service : Service ρ) (runId : String) (request : ExecuteRequest) (world : World ρ)
    (visited : WorldVisited world) (serves : service.apply.Keeps WorldVisited) :
    WorldVisited (service.execute runId request world).world := by
  have begun := Store.begin_visits visited runId
  rw [execute]
  cases begins : world.store.begin runId with
  | mk result after =>
      rw [begins] at begun
      cases result with
      | error error => exact begun
      | ok record =>
          have keeps := service.retried_keeps request serves fun _ holds => Store.before_retry_visits holds runId
          have tried := Retrying.try_keeps keeps service.config.retry.maxIterations.toNat
            { params := service.config.retry } { world with store := after } begun
          exact Store.finish_visits tried runId _ _ _

theorem live_visits (service : Service ρ) (runId : String) (request : ExecuteRequest) (alarms : List (Alarm (World ρ)))
    (world : World ρ) (visited : WorldVisited world)
    (serves : (service.environment runId).Keeps alarms WorldVisited) :
    WorldVisited (service.executeLive runId request alarms world).world := by
  have begun := Store.begin_visits visited runId
  rw [executeLive]
  cases begins : world.store.begin runId with
  | mk result after =>
      rw [begins] at begun
      cases result with
      | error error => exact begun
      | ok record =>
          let line := Timeline.start alarms { world with store := after }
          obtain ⟨stillServes, rung⟩ := service.live_rings { world with store := after } serves begun
          have keeps := service.retried_live_keeps request stillServes fun _ holds =>
            Store.before_retry_visits holds runId
          have tried := Retrying.try_keeps keeps service.config.retry.maxIterations.toNat
            { params := service.config.retry } line.giveWay rung
          exact Store.finish_visits tried.world runId _ _ _

theorem executed_visits (service : Service ρ) (runId : String) (request : ExecuteRequest) (world : World ρ)
    (execution : Execution ρ) (visited : world.store.Visited) (serves : service.OnlyServes runId execution) :
    (service.executed runId request world execution).world.store.Visited := by
  cases execution with
  | plain => exact plain_visits service runId request world visited serves
  | live alarms => exact live_visits service runId request alarms world visited serves

-- Every record of every store that a service can come to have agrees with its status, and a service comes to no other
-- stores, whatever it is asked to execute and whatever becomes of it.
theorem records_agree_with_status :
    (∀ store : Store, store.Visited → ∀ id record, store.registry.get? id = some record → record.Consistent) ∧
      (∀ store : Store, store.Visited → ∀ runId reason, (store.cancel runId reason).2.Visited) ∧
      ∀ {ρ : Type} (service : Service ρ) (runId : String) (request : ExecuteRequest) (world : World ρ)
        (execution : Execution ρ), world.store.Visited → service.OnlyServes runId execution →
          (service.executed runId request world execution).world.store.Visited :=
  ⟨fun _ visited id record found => ((Store.visited_proper visited).records id record found).2,
    fun _ visited => Store.cancel_visits visited, executed_visits⟩

def recovering : Service Nat where
  apply state step world :=
    let (applied, calls) := Sample.flaky 2 state step world.rest
    (applied, { world with rest := calls })

theorem executed_runs_agree :
    let recovered := recovering.executed "run_000001" { plan := Sample.p1 } waiting .plain
    let quit := quitting.executed "run_000001" { plan := Sample.p1 } waiting .plain
    waiting.store.Visited ∧ (waiting.store.cancel "run_000001" none).2.Visited ∧
      (recovering.OnlyServes "run_000001" .plain ∧ recovered.world.store.Visited ∧
        ∃ record, recovered.world.store.registry.get? "run_000001" = some record ∧ record.status = .completed ∧
          record.Consistent) ∧
      quitting.OnlyServes "run_000001" .plain ∧ quit.world.store.Visited ∧
        ∃ record, quit.world.store.registry.get? "run_000001" = some record ∧ record.status = .cancelled ∧
          record.Consistent := by
  intro recovered quit
  have visited : waiting.store.Visited := .create _ _ (.initial _)
  have recoveringServes : recovering.OnlyServes "run_000001" .plain := fun _ _ _ holds => holds
  have quittingServes : quitting.OnlyServes "run_000001" .plain := fun _ _ _ holds => Store.cancel_visits holds _ _
  obtain ⟨consistent, cancels, executes⟩ := records_agree_with_status
  have recoveredVisited :=
    executes recovering "run_000001" { plan := Sample.p1 } waiting .plain visited recoveringServes
  have quitVisited := executes quitting "run_000001" { plan := Sample.p1 } waiting .plain visited quittingServes
  have recoveredEnds : ∃ record, recovered.world.store.registry.get? "run_000001" = some record ∧
      record.status = .completed := by
    dsimp only [recovered]
    rw [waiting_run]
    exact ⟨_, rfl, rfl⟩
  have quitEnds : ∃ record, quit.world.store.registry.get? "run_000001" = some record ∧
      record.status = .cancelled := by
    dsimp only [quit]
    rw [waiting_run]
    exact ⟨_, rfl, rfl⟩
  obtain ⟨completed, isStored, isCompleted⟩ := recoveredEnds
  obtain ⟨cancelled, isKept, isCancelled⟩ := quitEnds
  exact ⟨visited, cancels _ visited _ _,
    ⟨recoveringServes, recoveredVisited, completed, isStored, isCompleted,
      consistent _ recoveredVisited _ completed isStored⟩,
    quittingServes, quitVisited, cancelled, isKept, isCancelled, consistent _ quitVisited _ cancelled isKept⟩

end Service

end PlanChain
