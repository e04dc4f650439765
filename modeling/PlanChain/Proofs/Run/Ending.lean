import PlanChain.Proofs.Run.Attempts
import PlanChain.Proofs.Run.Service

set_option autoImplicit false

namespace PlanChain

namespace Registry

theorem after_call (calls : List RegistryCall) (call : RegistryCall) :
    after (calls ++ [call]) = ((after calls).perform call).2 := by
  simp [after]

end Registry

namespace Store

-- The stores that a service can come to have. Runs are created and cancelled, and executions, any number of them
-- at a time, begin, go back to their checkpoints, and finish.
inductive Reached : Store → Prop where
  | initial (clock : Clock) : Reached { clock }
  | create (store : Store) (request : CreateRequest) (before : Reached store) : Reached (store.create request).2
  | cancel (store : Store) (runId : String) (reason : Option String) (before : Reached store) :
      Reached (store.cancel runId reason).2
  | begin (store : Store) (runId : String) (before : Reached store) : Reached (store.begin runId).2
  | beforeRetry (store : Store) (runId : String) (before : Reached store) : Reached (store.beforeRetry runId).2
  | finish (store : Store) (runId : String) (outcome : Option RetryOutcome) (before : Reached store) :
      Reached (store.finish runId outcome).2

theorem change_answered (store : Store)
    (transition : Registry → Timestamp → Except RegistryError (RunRecord × Registry)) :
    (store.change transition).2.registry =
      (store.registry.answer (transition store.registry store.clock.now)).2 := by
  rw [change]
  cases transition store.registry store.clock.now <;> rfl

theorem cancel_changes (store : Store) (runId : String) (reason : Option String) :
    let changed := (store.change (·.cancel runId reason)).2
    (store.cancel runId reason).2 = changed ∨ (store.cancel runId reason).2 = changed.signal runId := by
  rw [cancel]
  cases store.change (·.cancel runId reason) with
  | mk result after => cases result <;> simp

theorem begin_changes (store : Store) (runId : String) :
    let changed := (store.change (·.start runId)).2
    (store.begin runId).2 = changed ∨ ∃ record, (store.begin runId).2 = (changed.save runId record).watch runId := by
  rw [begin]
  cases store.change (·.start runId) with
  | mk result after =>
      cases result with
      | error error => exact Or.inl rfl
      | ok record => exact Or.inr ⟨record, rfl⟩

theorem cancel_registry (store : Store) (runId : String) (reason : Option String) :
    (store.cancel runId reason).2.registry =
      (store.registry.perform (.cancel runId reason store.clock.now)).2 := by
  have changed := store.change_answered (·.cancel runId reason)
  rcases store.cancel_changes runId reason with same | told
  · rw [same, changed]
    rfl
  · rw [told, (signal_keeps _ runId).1, changed]
    rfl

theorem begin_registry (store : Store) (runId : String) :
    (store.begin runId).2.registry = (store.registry.perform (.start runId store.clock.now)).2 := by
  have changed := store.change_answered (·.start runId)
  rcases store.begin_changes runId with same | ⟨record, begun⟩
  · rw [same, changed]
    rfl
  · rw [begun]
    exact changed

theorem before_retry_registry (store : Store) (runId : String) :
    (store.beforeRetry runId).2.registry = store.registry ∨ ∃ snapshot,
      store.checkpoints.get? runId = some snapshot ∧
        (store.beforeRetry runId).2.registry = (store.registry.perform (.restore snapshot)).2 := by
  rw [beforeRetry]
  cases store.isCancelled runId with
  | true => exact Or.inl rfl
  | false =>
      cases found : store.checkpoints.get? runId with
      | none => exact Or.inl rfl
      | some snapshot =>
          cases done : store.registry.restore? snapshot with
          | none => exact Or.inl (by simp [done])
          | some registry => exact Or.inr ⟨snapshot, rfl, by simp [Registry.perform, done]⟩

theorem finish_changes (store : Store) (runId : String) (outcome : Option RetryOutcome) :
    (store.finish runId outcome).2 =
      (((store.discard runId).unwatch runId).change (conclusion runId outcome)).2 := by
  rw [finish]
  cases ((store.discard runId).unwatch runId).change (conclusion runId outcome) with
  | mk result after =>
      cases result with
      | ok record => rfl
      | error error =>
          cases error with
          | notFound missing => rfl
          | invalidTransition src dst => cases src <;> rfl

theorem reached_history (store : Store) (reached : store.Reached) :
    ∃ calls, store.registry = Registry.after calls := by
  induction reached with
  | initial clock => exact ⟨[], rfl⟩
  | create store request _ ih =>
      obtain ⟨calls, same⟩ := ih
      exact ⟨calls ++ [.create request store.clock.now], by rw [Registry.after_call, ← same]; rfl⟩
  | cancel store runId reason _ ih =>
      obtain ⟨calls, same⟩ := ih
      exact ⟨calls ++ [.cancel runId reason store.clock.now], by rw [Registry.after_call, ← same, cancel_registry]⟩
  | begin store runId _ ih =>
      obtain ⟨calls, same⟩ := ih
      exact ⟨calls ++ [.start runId store.clock.now], by rw [Registry.after_call, ← same, begin_registry]⟩
  | beforeRetry store runId _ ih =>
      obtain ⟨calls, same⟩ := ih
      rcases store.before_retry_registry runId with kept | ⟨snapshot, -, restored⟩
      · exact ⟨calls, kept.trans same⟩
      · exact ⟨calls ++ [.restore snapshot], by rw [Registry.after_call, ← same, restored]⟩
  | finish store runId outcome _ ih =>
      obtain ⟨calls, same⟩ := ih
      rcases conclusion_cases runId outcome with ⟨output, shape⟩ | ⟨error, shape⟩
      · refine ⟨calls ++ [.complete runId output store.clock.now], ?_⟩
        rw [Registry.after_call, ← same, finish_changes, change_answered, shape]
        rfl
      · refine ⟨calls ++ [.fail runId error store.clock.now], ?_⟩
        rw [Registry.after_call, ← same, finish_changes, change_answered, shape]
        rfl

theorem reached_filed (store : Store) (reached : store.Reached) : store.registry.Filed := by
  obtain ⟨calls, same⟩ := store.reached_history reached
  rw [same]
  exact Registry.after_filed calls

theorem begin_denied_store (store after : Store) (runId : String) (error : RegistryError)
    (denied : store.begin runId = (.error error, after)) : after = store := by
  rw [begin] at denied
  cases started : store.change (·.start runId) with
  | mk result left =>
      rw [started] at denied
      cases result with
      | ok record => cases denied
      | error reason =>
          cases denied
          exact (start_denied store _ runId _ started).1

theorem begin_started {store begun : Store} {runId : String} {record : RunRecord}
    (begins : store.begin runId = (.ok record, begun)) :
    ∃ started, store.change (·.start runId) = (.ok record, started) ∧
      begun = (started.save runId record).watch runId := by
  rw [begin] at begins
  cases made : store.change (·.start runId) with
  | mk result started =>
      rw [made] at begins
      cases result with
      | error error => cases begins
      | ok found =>
          cases begins
          exact ⟨started, rfl, rfl⟩

theorem begin_made (store after : Store) (runId : String) (record : RunRecord)
    (begins : store.begin runId = (.ok record, after)) :
    ∃ first, store.registry.get? runId = some first ∧ first.status = .created := by
  obtain ⟨running, started, -⟩ := begin_started begins
  obtain ⟨first, found, isCreated, -⟩ := start_made store running runId record started
  exact ⟨first, found, isCreated⟩

structure SameBut (runId : String) (store other : Store) : Prop where
  records : ∀ id, id ≠ runId → other.registry.get? id = store.registry.get? id
  checkpoints : ∀ id, id ≠ runId → other.checkpoints.get? id = store.checkpoints.get? id
  cancellations : ∀ id, id ≠ runId → other.cancellations.get? id = store.cancellations.get? id

section SameBut

variable {runId : String} {store middle after : Store}

theorem same_but_itself (runId : String) (store : Store) : SameBut runId store store :=
  ⟨fun _ _ => rfl, fun _ _ => rfl, fun _ _ => rfl⟩

theorem SameBut.trans (first : SameBut runId store middle) (second : SameBut runId middle after) :
    SameBut runId store after where
  records id other := (second.records id other).trans (first.records id other)
  checkpoints id other := (second.checkpoints id other).trans (first.checkpoints id other)
  cancellations id other := (second.cancellations id other).trans (first.cancellations id other)

theorem change_elsewhere (runId : String) (store : Store) (status : RunStatus) (edit : RunRecord → RunRecord) :
    SameBut runId store
      (store.change fun registry now => registry.transition runId status edit now).2 := by
  cases made : store.change fun registry now => registry.transition runId status edit now with
  | mk result after =>
      cases result with
      | error error =>
          obtain ⟨-, same⟩ := change_denied store after error _ made
          exact same ▸ same_but_itself runId store
      | ok record =>
          obtain ⟨done, checkpoints, cancellations⟩ := change_made store after record _ made
          obtain ⟨-, written, -⟩ := Registry.transition_writes _ _ _ _ _ _ _ done
          refine ⟨fun id other => ?_, fun id _ => ?_, fun id _ => ?_⟩
          · simp [written, Registry.get?, other]
          · rw [checkpoints]
          · rw [cancellations]

theorem signal_elsewhere (runId : String) (store : Store) : SameBut runId store (store.signal runId) := by
  rw [signal]
  split
  · refine ⟨fun _ _ => rfl, fun _ _ => rfl, fun id other => ?_⟩
    simp [other]
  · exact same_but_itself runId store

theorem cancel_elsewhere (runId : String) (store : Store) (reason : Option String) :
    SameBut runId store (store.cancel runId reason).2 := by
  have changed : SameBut runId store (store.change (·.cancel runId reason)).2 := change_elsewhere runId store _ _
  rcases store.cancel_changes runId reason with same | told
  · rwa [same]
  · rw [told]
    exact changed.trans (signal_elsewhere runId _)

theorem begin_elsewhere (runId : String) (store : Store) : SameBut runId store (store.begin runId).2 := by
  have changed : SameBut runId store (store.change (·.start runId)).2 := change_elsewhere runId store _ _
  rcases store.begin_changes runId with same | ⟨record, begun⟩
  · rwa [same]
  · rw [begun]
    refine changed.trans ⟨fun _ _ => rfl, fun id other => ?_, fun id other => ?_⟩
    · simp [watch, save, other]
    · simp [watch, save, other]

theorem before_retry_elsewhere (runId : String) (store : Store) (marked : store.Marked runId) :
    SameBut runId store (store.beforeRetry runId).2 := by
  obtain ⟨checkpoints, cancellations⟩ := store.before_retry_checkpoints runId
  refine ⟨fun id other => ?_, fun id _ => by rw [checkpoints], fun id _ => by rw [cancellations]⟩
  rcases store.before_retry_registry runId with kept | ⟨snapshot, found, restored⟩
  · rw [kept]
  · have elsewhere : id ≠ snapshot.runId := by rwa [marked snapshot found]
    rw [restored]
    rcases Registry.call_performs store.registry (.restore snapshot) with ⟨-, same⟩ | ⟨record, -, writes⟩
    · rw [same]
    · exact Registry.writes_elsewhere _ _ _ record writes id elsewhere

theorem finish_elsewhere (runId : String) (store : Store) (outcome : Option RetryOutcome) :
    SameBut runId store (store.finish runId outcome).2 := by
  have cleared : SameBut runId store ((store.discard runId).unwatch runId) := by
    refine ⟨fun _ _ => rfl, fun id other => ?_, fun id other => ?_⟩
    · simp [unwatch, discard, other]
    · simp [unwatch, discard, other]
  rw [finish_changes]
  rcases conclusion_cases runId outcome with ⟨output, shape⟩ | ⟨error, shape⟩
  · rw [shape]
    exact cleared.trans (change_elsewhere runId _ _ _)
  · rw [shape]
    exact cleared.trans (change_elsewhere runId _ _ _)

end SameBut

@[simp] theorem change_cancellations (store : Store)
    (transition : Registry → Timestamp → Except RegistryError (RunRecord × Registry)) :
    (store.change transition).2.cancellations = store.cancellations := by
  rw [change]
  split <;> rfl

theorem finish_clears (store : Store) (runId : String) (outcome : Option RetryOutcome) :
    (store.finish runId outcome).2.checkpoints.get? runId = none ∧
      (store.finish runId outcome).2.cancellations.get? runId = none := by
  rw [finish_changes, change_checkpoints, change_cancellations]
  simp [unwatch, discard]

structure During (runId : String) (start store : Store) : Prop where
  reached : store.Reached
  marked : store.Marked runId
  elsewhere : SameBut runId start store

structure Lasting (runId : String) (property : Store → Prop) : Prop where
  cancelled : ∀ store reason, property store → property (store.cancel runId reason).2
  paused : ∀ store, property store → property (store.beforeRetry runId).2

theorem during_lasting (runId : String) (start : Store) : Lasting runId (During runId start) where
  cancelled store reason during := {
    reached := .cancel store runId reason during.reached
    marked := fun snapshot found => during.marked snapshot (by rwa [cancel_checkpoints] at found)
    elsewhere := during.elsewhere.trans (cancel_elsewhere runId store reason) }
  paused store during := {
    reached := .beforeRetry store runId during.reached
    marked := fun snapshot found =>
      during.marked snapshot (by rwa [(store.before_retry_checkpoints runId).1] at found)
    elsewhere := during.elsewhere.trans (before_retry_elsewhere runId store during.marked) }

theorem begin_during (runId : String) (store begun : Store) (record : RunRecord) (reached : store.Reached)
    (begins : store.begin runId = (.ok record, begun)) : During runId store begun where
  reached := by
    have next := Reached.begin store runId reached
    rwa [begins] at next
  marked := begin_marked store begun runId record (store.reached_filed reached) begins
  elsewhere := by
    have written := begin_elsewhere runId store
    rwa [begins] at written

theorem cancelling_lasts {runId : String} {property : Store → Prop} (lasting : Lasting runId property)
    (store after : Store) (cancelling : Cancelling runId store after) (holds : property store) : property after := by
  induction cancelling with
  | none => exact holds
  | call after reason _ ih => exact lasting.cancelled after reason ih

end Store

namespace Retrying

variable {σ : Type} {retrying : Retrying σ} {steady : σ → Prop}

theorem try_keeps (keeps : retrying.Keeps steady) (budget : Nat) (tracker : RetryTracker) (world : σ)
    (isSteady : steady world) : steady (retrying.tryUpTo budget tracker world).world := by
  induction budget generalizing tracker world with
  | zero => exact isSteady
  | succ budget ih =>
      have afterwards := keeps.attempt world isSteady
      rcases retrying.attempt_then budget tracker world with
        ⟨-, -, -, same | ⟨number, failure, same⟩⟩ | ⟨number, failure, after, -, -, all⟩
      · rw [same]
        exact afterwards
      · rw [same]
        exact keeps.pause number failure _ afterwards
      · rw [all]
        exact ih after _ (keeps.pause number failure _ afterwards)

end Retrying

theorem calm_keeps {σ : Type} {job : Job} {storeOf : σ → Store} {steady : σ → Prop} {retrying : Retrying σ}
    {property : Store → Prop} (calm : Calm job storeOf steady retrying)
    (lasting : Store.Lasting job.runId property) :
    retrying.Keeps fun world => steady world ∧ property (storeOf world) where
  attempt world holds := by
    obtain ⟨cancelling, steadily⟩ := calm.attempts world holds.1
    exact ⟨steadily, Store.cancelling_lasts lasting _ _ cancelling holds.2⟩
  pause number failure world holds := by
    obtain ⟨steadily, same, -⟩ := calm.pauses number failure world holds.1
    exact ⟨steadily, same ▸ lasting.paused _ holds.2⟩

namespace Service

variable {ρ : Type}

-- Whatever acts during an execution does no more to the store than to cancel the run.
def CancelsAtMost (service : Service ρ) (runId : String) : Execution ρ → Prop
  | .plain => ∀ start, service.apply.Keeps (CancelledSince runId start)
  | .live alarms => ∀ start, (service.environment runId).Keeps alarms (CancelledSince runId start)

theorem executed_refused (service : Service ρ) (runId : String) (request : ExecuteRequest) (world : World ρ)
    (execution : Execution ρ) (error : RegistryError) (after : Store)
    (refused : world.store.begin runId = (.error error, after)) :
    service.executed runId request world execution = ⟨.error error, [], world⟩ := by
  have same := Store.begin_denied_store world.store after runId error refused
  cases execution with
  | plain => rw [executed, execute, refused, same]
  | live alarms => rw [executed, executeLive, refused, same]

theorem executed_concludes (service : Service ρ) (runId : String) (request : ExecuteRequest) (world : World ρ)
    (execution : Execution ρ) (cancels : service.CancelsAtMost runId execution) (record : RunRecord) (begun : Store)
    (begins : world.store.begin runId = (.ok record, begun)) (property : Store → Prop)
    (lasting : Store.Lasting runId property) (holds : property begun) :
    ∃ outcome events left, service.executed runId request world execution = conclude runId outcome events left ∧
      property left.store := by
  cases execution with
  | plain =>
      have keeps := calm_keeps (execute_calm service runId request cancels) lasting
      rw [executed, execute, begins]
      exact ⟨_, _, _, rfl, (Retrying.try_keeps keeps _ _ { world with store := begun } ⟨trivial, holds⟩).2⟩
  | live alarms =>
      let line := Timeline.start alarms { world with store := begun }
      have cancelsOn (start : Store) : (service.environment runId).Keeps line.alarms (CancelledSince runId start) :=
        ⟨(cancels start).apply, (cancels start).provider, Timeline.start_all_keep (cancels start).alarms _⟩
      have rung := Timeline.give_way_kept (cancelsOn begun).alarms line ⟨.none, List.Subset.refl _⟩
      have keeps := calm_keeps (execute_live_calm service runId request line.alarms cancelsOn) lasting
      have first := Store.cancelling_lasts lasting begun _ rung.world holds
      rw [executed, executeLive, begins]
      exact ⟨_, _, _, rfl, (Retrying.try_keeps keeps _ _ line.giveWay ⟨rung.pending, first⟩).2⟩

-- What an execution comes to. It is refused, and changes nothing, just when the run is not there to be started;
-- otherwise its answer is the record that it leaves, of a run that has ended and has nothing else kept of it.
structure EndsRun (runId : String) (world : World ρ) (served : Served (World ρ)) : Prop where
  refused : (∃ error, served.result = .error error) ↔
    ∀ first, world.store.registry.get? runId = some first → first.status ≠ .created
  unchanged : ∀ error, served.result = .error error → served.world = world ∧ served.events = []
  ended : ∀ first, world.store.registry.get? runId = some first → first.status = .created →
    ∃ record, served.result = .ok record ∧ served.world.store.registry.get? runId = some record ∧
      record.status.isTerminal = true ∧ record.runId = runId ∧ record.agentId = first.agentId ∧
      record.input = first.input ∧ record.createdAt = first.createdAt ∧
      served.world.store.checkpoints.get? runId = none ∧ served.world.store.cancellations.get? runId = none
  elsewhere : Store.SameBut runId world.store served.world.store
  reached : served.world.store.Reached

theorem ended_from (first record : RunRecord)
    (ends : CompletedFrom (some first) record ∨ FailedFrom (some first) record ∨
      ∃ reason, CancelledFrom (some first) reason record) :
    record.status.isTerminal = true ∧ record.runId = first.runId ∧ record.agentId = first.agentId ∧
      record.input = first.input ∧ record.createdAt = first.createdAt := by
  rcases ends with ⟨created, output, same, -, shape⟩ | ⟨created, error, same, -, shape⟩ |
    ⟨reason, active, same, -, shape⟩
  all_goals
    cases same
    rw [shape]
    exact ⟨rfl, rfl, rfl, rfl, rfl⟩

theorem executed_serves (service : Service ρ) (runId : String) (request : ExecuteRequest) (world : World ρ)
    (execution : Execution ρ) (cancels : service.CancelsAtMost runId execution) :
    ∃ job : Job, job.runId = runId ∧ job.Serves world.store (service.executed runId request world execution).result
      (service.executed runId request world execution).world.store := by
  cases execution with
  | plain => exact ⟨_, rfl, execute_serves service runId request world cancels⟩
  | live alarms => exact ⟨_, rfl, execute_live_serves service runId request alarms world cancels⟩

theorem refused_ends (service : Service ρ) (runId : String) (request : ExecuteRequest) (world : World ρ)
    (execution : Execution ρ) (reached : world.store.Reached) (error : RegistryError) (after : Store)
    (refused : world.store.begin runId = (.error error, after)) :
    EndsRun runId world (service.executed runId request world execution) := by
  have denied := Store.begin_denied world.store after runId error refused
  rw [executed_refused service runId request world execution error after refused]
  exact {
    refused := ⟨fun _ => denied, fun _ => ⟨error, rfl⟩⟩
    unchanged := fun _ _ => ⟨rfl, rfl⟩
    ended := fun first found isCreated => (denied first found isCreated).elim
    elsewhere := Store.same_but_itself runId world.store
    reached := reached }

theorem started_ends (service : Service ρ) (runId : String) (request : ExecuteRequest) (world : World ρ)
    (execution : Execution ρ) (reached : world.store.Reached) (cancels : service.CancelsAtMost runId execution)
    (started : RunRecord) (begun : Store) (begins : world.store.begin runId = (.ok started, begun)) :
    EndsRun runId world (service.executed runId request world execution) := by
  obtain ⟨first, found, isCreated⟩ := Store.begin_made world.store begun runId started begins
  obtain ⟨job, rfl, serves⟩ := executed_serves service runId request world execution cancels
  obtain ⟨record, answered, stored, ends⟩ := served_record _ first serves found isCreated
  obtain ⟨terminal, sameId, agentId, input, createdAt⟩ := ended_from first record ends
  have own := world.store.reached_filed reached job.runId first found
  obtain ⟨outcome, events, left, concluded, during⟩ := executed_concludes service job.runId request world
    execution cancels started begun begins _ (Store.during_lasting job.runId world.store)
    (Store.begin_during job.runId world.store begun started reached begins)
  have afterwards : (service.executed job.runId request world execution).world.store =
      (left.store.finish job.runId outcome).2 := by
    rw [concluded]
    rfl
  have cleared := left.store.finish_clears job.runId outcome
  rw [← afterwards] at cleared
  constructor
  case refused =>
    refine ⟨fun ⟨error, refused⟩ => ?_, fun denied => (denied first found isCreated).elim⟩
    rw [answered] at refused
    cases refused
  case unchanged =>
    intro error refused
    rw [answered] at refused
    cases refused
  case ended =>
    intro other otherFound _
    rw [found] at otherFound
    cases otherFound
    exact ⟨record, answered, stored, terminal, sameId.trans own, agentId, input, createdAt, cleared⟩
  case elsewhere =>
    rw [afterwards]
    exact during.elsewhere.trans (Store.finish_elsewhere job.runId left.store outcome)
  case reached =>
    rw [afterwards]
    exact .finish left.store job.runId outcome during.reached

-- Every execution that is started ends its run and leaves nothing of it beside the record, whatever the attempts
-- come to and whoever cancels it meanwhile. One that is refused changes nothing, and none touches another run.
theorem execution_ends_its_run (service : Service ρ) (runId : String) (request : ExecuteRequest) (world : World ρ)
    (execution : Execution ρ) (reached : world.store.Reached) (cancels : service.CancelsAtMost runId execution) :
    EndsRun runId world (service.executed runId request world execution) := by
  cases begins : world.store.begin runId with
  | mk result begun =>
      cases result with
      | error error => exact refused_ends service runId request world execution reached error begun begins
      | ok started => exact started_ends service runId request world execution reached cancels started begun begins

section Quitting

def quitting : Service Nat where
  apply _ _ world :=
    (.error (.failed "quit"), { world with store := (world.store.cancel "run_000001" (some "enough")).2 })

theorem quitting_run_ends :
    waiting.store.Reached ∧ quitting.CancelsAtMost "run_000001" .plain ∧
      EndsRun "run_000001" waiting (quitting.executed "run_000001" { plan := Sample.p1 } waiting .plain) ∧
      ∃ record, (quitting.executed "run_000001" { plan := Sample.p1 } waiting .plain).result = .ok record ∧
        record.status = .cancelled ∧ record.error = some ⟨.runCancelled, "enough"⟩ := by
  have reached : waiting.store.Reached := .create _ _ (.initial _)
  have cancels : quitting.CancelsAtMost "run_000001" .plain :=
    fun start _ _ world since => cancel_keeps "run_000001" start (some "enough") world since
  refine ⟨reached, cancels, execution_ends_its_run quitting "run_000001" _ waiting .plain reached cancels, ?_⟩
  rw [waiting_run]
  exact ⟨_, rfl, rfl, rfl⟩

end Quitting

end Service

end PlanChain
