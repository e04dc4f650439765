import PlanChain.Proofs.Execution.World
import PlanChain.Proofs.Run.Interleaving
import PlanChain.Proofs.Run.Registry
import PlanChain.Run.Service
import PlanChain.Sample

set_option autoImplicit false

namespace PlanChain

namespace Retrying

variable {σ : Type}

def attemptsUpTo (retrying : Retrying σ) : (budget : Nat) → RetryTracker → σ → List (Attempt σ)
  | 0, _, _ => []
  | budget + 1, tracker, world =>
    let tried := retrying.attempt world
    tried :: match tried.response with
      | none => []
      | some response =>
        match tracker.observe response with
        | (.error _, _) => []
        | (.ok failure, after) =>
          let (stop, world) := retrying.stops tracker.iterations failure tried.world
          if stop then [] else retrying.attemptsUpTo budget after world

def attempts (retrying : Retrying σ) (params : RetryParams) (world : σ) : List (Attempt σ) :=
  retrying.attemptsUpTo params.maxIterations.toNat { params } world

theorem observe_ends (tracker next : RetryTracker) (response : ExecutionResponse) (outcome : RetryOutcome)
    (observed : tracker.observe response = (.error outcome, next)) : outcome.iterations = tracker.iterations + 1 := by
  unfold RetryTracker.observe at observed
  cases response with
  | success result info =>
      cases observed
      rfl
  | failure reason info =>
      dsimp only at observed
      split at observed
      · cases observed
      · split at observed <;> cases observed <;> rfl

theorem observe_retryable (tracker : RetryTracker) (failure : Failure) (info : ResponseMeta)
    (retryable : failure.code.isRetryable = true) :
    ∃ next, tracker.observe (.failure failure info) = (.ok failure, next) := by
  simp [RetryTracker.observe, retryable]

theorem next_iteration (iterations : UInt32) (room : iterations.toNat + 1 < UInt32.size) :
    (iterations + 1).toNat = iterations.toNat + 1 := by
  rw [UInt32.toNat_add]
  exact Nat.mod_eq_of_lt room

-- An attempt is the last one, with at most a pause after it, or the others follow from where its pause ends.
theorem attempt_then (retrying : Retrying σ) (budget : Nat) (tracker : RetryTracker) (world : σ) :
    let tried := retrying.attempt world
    let all := retrying.tryUpTo (budget + 1) tracker world
    (retrying.attemptsUpTo (budget + 1) tracker world = [tried] ∧ all.events = tried.events ∧
        (∀ outcome, all.outcome = some outcome → outcome.iterations = tracker.iterations + 1) ∧
        (all.world = tried.world ∨ ∃ number failure, all.world = (retrying.stops number failure tried.world).2)) ∨
      ∃ number failure after, after.iterations = tracker.iterations + 1 ∧
        retrying.attemptsUpTo (budget + 1) tracker world =
          tried :: retrying.attemptsUpTo budget after (retrying.stops number failure tried.world).2 ∧
        all = { retrying.tryUpTo budget after (retrying.stops number failure tried.world).2 with
          events := tried.events ++
            (retrying.tryUpTo budget after (retrying.stops number failure tried.world).2).events } := by
  intro tried all
  dsimp only [all]
  rw [tryUpTo, attemptsUpTo]
  cases answered : (retrying.attempt world).response with
  | none => exact Or.inl ⟨rfl, rfl, fun outcome ended => (by cases ended), Or.inl rfl⟩
  | some response =>
      dsimp only
      cases observed : tracker.observe response with
      | mk verdict after =>
          cases verdict with
          | error outcome =>
              refine Or.inl ⟨rfl, rfl, fun other ended => ?_, Or.inl rfl⟩
              cases ended
              exact observe_ends tracker after response outcome observed
          | ok failure =>
              obtain ⟨-, iterations⟩ := observe_retries tracker after response failure observed
              dsimp only
              split
              · refine Or.inl ⟨rfl, rfl, fun other ended => ?_, Or.inr ⟨tracker.iterations, failure, rfl⟩⟩
                cases ended
                exact iterations
              · exact Or.inr ⟨tracker.iterations, failure, after, iterations, rfl, rfl⟩

theorem attempts_up_to_account (retrying : Retrying σ) (budget : Nat) (tracker : RetryTracker) (world : σ)
    (room : tracker.iterations.toNat + budget < UInt32.size) :
    (retrying.tryUpTo budget tracker world).events =
        (retrying.attemptsUpTo budget tracker world).flatMap (·.events) ∧
      ∀ outcome, (retrying.tryUpTo budget tracker world).outcome = some outcome →
        outcome.iterations.toNat =
          tracker.iterations.toNat + (retrying.attemptsUpTo budget tracker world).length := by
  induction budget generalizing tracker world with
  | zero =>
      refine ⟨rfl, fun outcome ended => ?_⟩
      cases ended
      rfl
  | succ budget ih =>
      have counted := next_iteration tracker.iterations (by omega)
      rcases retrying.attempt_then budget tracker world with
        ⟨only, events, outcomes, -⟩ | ⟨number, failure, after, iterations, followed, all⟩
      · rw [only, events]
        refine ⟨(List.flatMap_singleton _ _).symm, fun outcome ended => ?_⟩
        rw [outcomes outcome ended, counted]
        rfl
      · rw [← iterations] at counted
        obtain ⟨events, outcomes⟩ :=
          ih after (retrying.stops number failure (retrying.attempt world).world).2 (by omega)
        rw [followed, all]
        refine ⟨by rw [List.flatMap_cons, ← events], fun outcome ended => ?_⟩
        rw [outcomes outcome ended, counted, List.length_cons, Nat.add_assoc, Nat.add_comm 1]

theorem attempts_account (retrying : Retrying σ) (params : RetryParams) (world : σ) :
    (retrying.run params world).events = (retrying.attempts params world).flatMap (·.events) ∧
      ∀ outcome, (retrying.run params world).outcome = some outcome →
        outcome.iterations.toNat = (retrying.attempts params world).length := by
  have room : (0 : UInt32).toNat + params.maxIterations.toNat < UInt32.size := by
    simpa using params.maxIterations.toNat_lt_size
  obtain ⟨events, outcomes⟩ := attempts_up_to_account retrying params.maxIterations.toNat { params } world room
  exact ⟨events, fun outcome ended => (outcomes outcome ended).trans (Nat.zero_add _)⟩

theorem last_attempt_world (retrying : Retrying σ) (budget : Nat) (tracker : RetryTracker) (world : σ)
    (last : Attempt σ) (isLast : (retrying.attemptsUpTo budget tracker world).getLast? = some last) :
    (retrying.tryUpTo budget tracker world).world = last.world ∨
      ∃ number failure,
        (retrying.tryUpTo budget tracker world).world = (retrying.stops number failure last.world).2 := by
  induction budget generalizing tracker world with
  | zero => cases isLast
  | succ budget ih =>
      rcases retrying.attempt_then budget tracker world with
        ⟨only, -, -, ends⟩ | ⟨number, failure, after, -, followed, all⟩
      · rw [only] at isLast
        cases isLast
        exact ends
      · rw [followed] at isLast
        rw [all]
        cases others : retrying.attemptsUpTo budget after
            (retrying.stops number failure (retrying.attempt world).world).2 with
        | nil =>
            rw [others] at isLast
            cases isLast
            cases budget with
            | zero => exact Or.inr ⟨number, failure, rfl⟩
            | succ budget => cases others
        | cons next rest =>
            rw [others, List.getLast?_cons_cons, ← others] at isLast
            exact ih after _ isLast

variable {retrying : Retrying σ} {steady : σ → Prop}

structure Keeps (retrying : Retrying σ) (steady : σ → Prop) : Prop where
  attempt : ∀ world, steady world → steady (retrying.attempt world).world
  pause : ∀ number failure world, steady world → steady (retrying.stops number failure world).2

theorem next_attempt_iff (keeps : retrying.Keeps steady) (stopping : σ → Bool)
    (decides : ∀ number failure world, steady world → (retrying.stops number failure world).1 = stopping world)
    (budget : Nat) (tracker : RetryTracker) (world : σ) (isSteady : steady world) (place : Nat) (tried : Attempt σ)
    (made : (retrying.attemptsUpTo budget tracker world)[place]? = some tried) (failure : Failure)
    (info : ResponseMeta) (failed : tried.response = some (.failure failure info))
    (retryable : failure.code.isRetryable = true) :
    steady tried.world ∧ (place + 1 < (retrying.attemptsUpTo budget tracker world).length ↔
      place + 1 < budget ∧ stopping tried.world = false) := by
  induction budget generalizing tracker world place with
  | zero => cases made
  | succ budget ih =>
      have afterwards := keeps.attempt world isSteady
      cases place with
      | zero =>
          rw [attemptsUpTo] at made ⊢
          cases made
          obtain ⟨next, observed⟩ := observe_retryable tracker failure info retryable
          refine ⟨afterwards, ?_⟩
          have decided := decides tracker.iterations failure _ afterwards
          simp only [failed, observed, decided, List.length_cons]
          cases stopping (retrying.attempt world).world with
          | true => simp
          | false => cases budget <;> simp [attemptsUpTo]
      | succ place =>
          rcases retrying.attempt_then budget tracker world with
            ⟨only, -⟩ | ⟨number, earlier, after, -, followed, -⟩
          · rw [only] at made
            cases made
          · rw [followed, List.getElem?_cons_succ] at made
            rw [followed, List.length_cons, Nat.add_lt_add_iff_right, Nat.add_lt_add_iff_right]
            exact ih after _ (keeps.pause number earlier _ afterwards) place made

end Retrying

namespace Registry

-- Records stand under the ids of their runs.
def Filed (registry : Registry) : Prop := ∀ id record, registry.get? id = some record → record.runId = id

theorem transition_keeps_id (registry after : Registry) (runId : String) (status : RunStatus)
    (change : RunRecord → RunRecord) (now : Timestamp) (record : RunRecord)
    (keepsId : ∀ record, (change record).runId = record.runId) (filed : registry.Filed)
    (made : registry.transition runId status change now = .ok (record, after)) : record.runId = runId := by
  obtain ⟨before, found, -, rfl, -⟩ := transition_made registry after runId status change now record made
  exact (keepsId before).trans (filed runId before found)

theorem answered_id (registry : Registry) (runId : String) (status : RunStatus) (change : RunRecord → RunRecord)
    (now : Timestamp) (record : RunRecord) (keepsId : ∀ record, (change record).runId = record.runId)
    (filed : registry.Filed)
    (done : (registry.answer (registry.transition runId status change now)).1 = .done record) :
    record.runId = runId := by
  cases made : registry.transition runId status change now with
  | error error =>
      rw [made] at done
      cases done
  | ok result =>
      rw [made] at done
      cases done
      exact transition_keeps_id registry result.2 runId status change now result.1 keepsId filed made

theorem performed_id (registry : Registry) (call : RegistryCall) (record : RunRecord) (filed : registry.Filed)
    (done : (registry.perform call).1 = .done record) : record.runId = call.target registry := by
  cases call with
  | create request now =>
      cases done
      rfl
  | start runId now => exact answered_id registry runId _ _ now record (fun _ => by rfl) filed done
  | complete runId output now => exact answered_id registry runId _ _ now record (fun _ => by rfl) filed done
  | fail runId error now => exact answered_id registry runId _ _ now record (fun _ => by rfl) filed done
  | cancel runId reason now =>
      exact answered_id registry runId _ _ now record (fun _ => by cases reason <;> rfl) filed done
  | restore snapshot =>
      rw [perform] at done
      split at done <;> cases done
      rfl

theorem filed_step (registry : Registry) (call : RegistryCall) (filed : registry.Filed) :
    (registry.perform call).2.Filed := by
  rcases call_performs registry call with ⟨-, same⟩ | ⟨record, done, writes⟩
  · rw [same]
    exact filed
  · intro id other found
    by_cases own : id = call.target registry
    · rw [own, writes_target registry _ call record writes] at found
      cases found
      exact (performed_id registry call record filed done).trans own.symm
    · rw [writes_elsewhere registry _ call record writes id own] at found
      exact filed id other found

theorem after_filed (calls : List RegistryCall) : (after calls).Filed := by
  have empty : Registry.empty.Filed := fun id record found => by simp [get?, Registry.empty] at found
  rw [after]
  generalize Registry.empty = registry at empty
  induction calls generalizing registry with
  | nil => exact empty
  | cons call rest ih => exact ih _ (filed_step registry call empty)

end Registry

-- The store after calls that end a run, with its execution told or not, or that drop its checkpoint.
inductive Meddling (runId : String) (store : Store) : Store → Prop where
  | none : Meddling runId store store
  | cancelRun (after : Store) (reason : Option String) (before : Meddling runId store after) :
      Meddling runId store (after.cancel runId reason).2
  | cancel (after : Store) (reason : Option String) (before : Meddling runId store after) :
      Meddling runId store (after.change (·.cancel runId reason)).2
  | complete (after : Store) (output : Option Members) (before : Meddling runId store after) :
      Meddling runId store (after.change (·.complete runId output)).2
  | discard (after : Store) (before : Meddling runId store after) : Meddling runId store (after.discard runId)

namespace Store

def Marked (runId : String) (store : Store) : Prop :=
  ∀ snapshot, store.checkpoints.get? runId = some snapshot → snapshot.runId = runId

@[simp] theorem change_checkpoints (store : Store)
    (transition : Registry → Timestamp → Except RegistryError (RunRecord × Registry)) :
    (store.change transition).2.checkpoints = store.checkpoints := by
  rw [change]
  split <;> rfl

@[simp] theorem signal_checkpoints (store : Store) (runId : String) :
    (store.signal runId).checkpoints = store.checkpoints := by
  rw [signal]
  split <;> rfl

@[simp] theorem cancel_checkpoints (store : Store) (runId : String) (reason : Option String) :
    (store.cancel runId reason).2.checkpoints = store.checkpoints := by
  have changed := store.change_checkpoints (·.cancel runId reason)
  rw [cancel]
  cases made : store.change (·.cancel runId reason) with
  | mk result after =>
      rw [made] at changed
      cases result with
      | error error => exact changed
      | ok record => exact (after.signal_checkpoints runId).trans changed

theorem meddling_marked (runId : String) (store after : Store) (meddling : Meddling runId store after)
    (marked : store.Marked runId) : after.Marked runId := by
  induction meddling with
  | none => exact marked
  | cancelRun after reason _ ih =>
      intro snapshot found
      rw [cancel_checkpoints] at found
      exact ih snapshot found
  | cancel after reason _ ih =>
      intro snapshot found
      rw [change_checkpoints] at found
      exact ih snapshot found
  | complete after output _ ih =>
      intro snapshot found
      rw [change_checkpoints] at found
      exact ih snapshot found
  | discard after _ _ =>
      intro snapshot found
      simp [discard] at found

theorem before_retry_checkpoints (store : Store) (runId : String) :
    (store.beforeRetry runId).2.checkpoints = store.checkpoints ∧
      (store.beforeRetry runId).2.cancellations = store.cancellations := by
  rw [beforeRetry]
  split
  · exact ⟨rfl, rfl⟩
  · split
    · exact ⟨rfl, rfl⟩
    · split <;> exact ⟨rfl, rfl⟩

theorem over_before_retry (store : Store) (runId : String) (record : RunRecord) (marked : store.Marked runId)
    (stored : store.registry.get? runId = some record) (isOver : record.status.isTerminal = true) :
    (store.beforeRetry runId).1 = false ↔
      store.isCancelled runId = false ∧ store.checkpoints.get? runId = none := by
  rw [beforeRetry]
  cases store.isCancelled runId with
  | true => simp
  | false =>
      cases found : store.checkpoints.get? runId with
      | none => simp
      | some snapshot =>
          have same := marked snapshot found
          simp [Registry.restore?, same, stored, isOver]

theorem begin_marked (store after : Store) (runId : String) (record : RunRecord) (filed : store.registry.Filed)
    (begun : store.begin runId = (.ok record, after)) : after.Marked runId := by
  unfold begin at begun
  cases started : store.change (·.start runId) with
  | mk result running =>
      rw [started] at begun
      cases result with
      | error error => cases begun
      | ok first =>
          cases begun
          obtain ⟨before, found, -, shape, -⟩ := start_made store running runId record started
          intro snapshot isSnapshot
          simp only [watch, save, Table.get?_insert, if_pos] at isSnapshot
          cases isSnapshot
          rw [shape]
          exact filed runId before found

end Store

inductive Execution (ρ : Type) where
  | plain
  | live (alarms : List (Alarm (World ρ)))

def Attempt.inWorld {σ : Type} (attempt : Attempt (Timeline σ)) : Attempt σ :=
  ⟨attempt.response, attempt.events, attempt.world.world⟩

namespace Service

variable {ρ : Type}

def attempts (service : Service ρ) (runId : String) (request : ExecuteRequest) (world : World ρ)
    (execution : Execution ρ) : List (Attempt (World ρ)) :=
  match world.store.begin runId with
  | (.error _, _) => []
  | (.ok _, store) =>
    match execution with
    | .plain =>
      (Retrying.ofApplier service.apply request fun _ _ => beforeRetry runId).attempts service.config.retry
        { world with store }
    | .live alarms =>
      (((service.environment runId).retrying request fun _ _ => beforeRetry runId).attempts service.config.retry
        (Timeline.start alarms { world with store }).giveWay).map Attempt.inWorld

def MeddledSince (runId : String) (start : Store) (world : World ρ) : Prop := Meddling runId start world.store

def Meddles (service : Service ρ) (runId : String) : Execution ρ → Prop
  | .plain => ∀ start, service.apply.Keeps (MeddledSince runId start)
  | .live alarms => ∀ start, (service.environment runId).Keeps alarms (MeddledSince runId start)

def Marked (runId : String) (world : World ρ) : Prop := world.store.Marked runId

theorem before_retry_marked (runId : String) (world : World ρ) (marked : Marked runId world) :
    Marked runId (beforeRetry runId world).2 := by
  intro snapshot found
  refine marked snapshot ?_
  rw [← (world.store.before_retry_checkpoints runId).1]
  exact found

theorem plain_keeps (service : Service ρ) (runId : String) (request : ExecuteRequest)
    (meddles : ∀ start, service.apply.Keeps (MeddledSince runId start)) :
    (Retrying.ofApplier service.apply request fun _ _ => beforeRetry runId).Keeps (Marked runId) where
  attempt world marked :=
    Store.meddling_marked runId world.store _
      (execute_keeps service.apply _ (meddles world.store) request.plan request.options world .none) marked
  pause _ _ world marked := before_retry_marked runId world marked

theorem live_keeps (service : Service ρ) (runId : String) (request : ExecuteRequest) (alarms : List (Alarm (World ρ)))
    (meddles : ∀ start, (service.environment runId).Keeps alarms (MeddledSince runId start)) :
    ((service.environment runId).retrying request fun _ _ => beforeRetry runId).Keeps
      (fun line => Marked runId line.world ∧ line.alarms ⊆ alarms) where
  attempt line steady := by
    have kept := Environment.execute_kept (meddles line.world.store) request.plan request.options line
      ⟨.none, steady.2⟩
    exact ⟨Store.meddling_marked runId line.world.store _ kept.world steady.1, kept.pending⟩
  pause _ _ line steady := ⟨before_retry_marked runId line.world steady.1, steady.2⟩

theorem live_stops (service : Service ρ) (runId : String) (request : ExecuteRequest) (number : UInt32)
    (failure : Failure) (line : Timeline (World ρ)) :
    (((service.environment runId).retrying request fun _ _ => beforeRetry runId).stops number failure line).1 =
      (line.world.store.beforeRetry runId).1 := by
  have told : (line.world.store.beforeRetry runId).2.isCancelled runId = line.world.store.isCancelled runId := by
    rw [Store.isCancelled, (line.world.store.before_retry_checkpoints runId).2]
    rfl
  change ((line.world.store.beforeRetry runId).1 || (line.world.store.beforeRetry runId).2.isCancelled runId) = _
  rw [told]
  cases cancelled : line.world.store.isCancelled runId with
  | false => exact Bool.or_false _
  | true => simp [Store.beforeRetry, cancelled]

def executed (service : Service ρ) (runId : String) (request : ExecuteRequest) (world : World ρ) :
    Execution ρ → Served (World ρ)
  | .plain => service.execute runId request world
  | .live alarms => service.executeLive runId request alarms world

theorem executed_attempts (service : Service ρ) (runId : String) (request : ExecuteRequest) (world : World ρ)
    (execution : Execution ρ) :
    (service.executed runId request world execution).events =
        (service.attempts runId request world execution).flatMap (·.events) ∧
      ∀ last, (service.attempts runId request world execution).getLast? = some last →
        (service.executed runId request world execution).world.rest = last.world.rest := by
  cases execution with
  | plain =>
      rw [executed, execute, attempts]
      cases world.store.begin runId with
      | mk result store =>
          cases result with
          | error error => exact ⟨rfl, fun last isLast => by cases isLast⟩
          | ok record =>
              dsimp only
              refine ⟨(Retrying.attempts_account _ _ _).1, fun last isLast => ?_⟩
              rcases Retrying.last_attempt_world _ _ _ _ last isLast with same | ⟨number, failure, same⟩
              · have rest := congrArg World.rest same
                exact rest
              · have rest := congrArg World.rest same
                exact rest
  | live alarms =>
      rw [executed, executeLive, attempts]
      cases world.store.begin runId with
      | mk result store =>
          cases result with
          | error error => exact ⟨rfl, fun last isLast => by cases isLast⟩
          | ok record =>
              dsimp only
              refine ⟨?_, fun last isLast => ?_⟩
              · rw [List.flatMap_map]
                exact (Retrying.attempts_account _ _ _).1
              · rw [List.getLast?_map, Option.map_eq_some_iff] at isLast
                obtain ⟨attempt, isAttempt, rfl⟩ := isLast
                rcases Retrying.last_attempt_world _ _ _ _ attempt isAttempt with same | ⟨number, failure, same⟩
                · have rest := congrArg (fun line => line.world.rest) same
                  exact rest
                · have rest := congrArg (fun line => line.world.rest) same
                  exact rest

-- The attempts of an execution of a run that is over when one of them fails: there is another just when the
-- execution was not told, the checkpoint is gone and the budget is not spent.
theorem over_run_retried_iff (service : Service ρ) (execution : Execution ρ) (runId : String)
    (request : ExecuteRequest) (world : World ρ) (calls : List RegistryCall)
    (reached : world.store.registry = Registry.after calls) (meddles : service.Meddles runId execution) (place : Nat)
    (tried : Attempt (World ρ)) (made : (service.attempts runId request world execution)[place]? = some tried)
    (failure : Failure) (info : ResponseMeta) (failed : tried.response = some (.failure failure info))
    (retryable : failure.code.isRetryable = true) (record : RunRecord)
    (stored : tried.world.store.registry.get? runId = some record) (isOver : record.status.isTerminal = true) :
    place + 1 < (service.attempts runId request world execution).length ↔
      place + 1 < service.config.retry.maxIterations.toNat ∧ tried.world.store.isCancelled runId = false ∧
        tried.world.store.checkpoints.get? runId = none := by
  have filed : world.store.registry.Filed := reached ▸ Registry.after_filed calls
  rw [attempts] at made ⊢
  cases begun : world.store.begin runId with
  | mk result store =>
      rw [begun] at made
      cases result with
      | error error => cases made
      | ok first =>
          have marked := Store.begin_marked world.store store runId first filed begun
          cases execution with
          | plain =>
              have steady : Marked runId { world with store } := marked
              dsimp only at made ⊢
              obtain ⟨stillMarked, another⟩ := Retrying.next_attempt_iff (service.plain_keeps runId request meddles)
                (fun world => (world.store.beforeRetry runId).1) (fun _ _ _ _ => rfl) _ _ _ steady place tried made
                failure info failed retryable
              rw [Retrying.attempts, another,
                tried.world.store.over_before_retry runId record stillMarked stored isOver]
          | live alarms =>
              let line := Timeline.start alarms { world with store }
              have keeps (start : Store) : (service.environment runId).Keeps line.alarms (MeddledSince runId start) :=
                ⟨(meddles start).apply, (meddles start).provider, Timeline.start_all_keep (meddles start).alarms _⟩
              have rung := Timeline.give_way_kept (keeps store).alarms line ⟨.none, List.Subset.refl _⟩
              have steady : Marked runId line.giveWay.world ∧ line.giveWay.alarms ⊆ line.alarms :=
                ⟨Store.meddling_marked runId store _ rung.world marked, rung.pending⟩
              dsimp only at made ⊢
              rw [List.getElem?_map, Option.map_eq_some_iff] at made
              obtain ⟨attempt, isAttempt, rfl⟩ := made
              rw [List.length_map]
              obtain ⟨stillSteady, another⟩ := Retrying.next_attempt_iff
                (service.live_keeps runId request line.alarms keeps)
                (fun line => (line.world.store.beforeRetry runId).1)
                (fun number failure line _ => service.live_stops runId request number failure line) _ _ _ steady place
                attempt isAttempt failure info failed retryable
              have decided := attempt.world.world.store.over_before_retry runId record stillSteady.1 stored isOver
              rw [Retrying.attempts, another, decided]
              rfl

section Overtaken

-- Cancels the run behind the back of its execution at the second call, which fails. The first call may drop the
-- checkpoint.
def overtaking (drops : Bool) : Applier (World Nat) := fun state step world =>
  match world.rest with
  | 0 => (.ofExcept (state.simulate step), ⟨if drops then world.store.discard "run_000001" else world.store, 1⟩)
  | 1 => (.error (.failed "overtaken"), ⟨(world.store.change (·.cancel "run_000001" none)).2, 2⟩)
  | calls + 2 => (.ofExcept (state.simulate step), ⟨world.store, calls + 3⟩)

def overtaken (drops : Bool) : Service Nat := { apply := overtaking drops }

def waiting : World Nat := ⟨(Store.create { clock := .stopped ⟨0, 0⟩ } { agentId := "agent" }).2, 0⟩

theorem overtaking_meddles (drops : Bool) : (overtaken drops).Meddles "run_000001" .plain := by
  intro start state step world since
  change MeddledSince "run_000001" start (overtaking drops state step world).2
  rw [overtaking]
  split
  · cases drops with
    | false => exact since
    | true => exact .discard _ since
  · exact .cancel world.store none since
  · exact since

theorem waiting_run : waiting =
    ⟨{ clock := (Clock.stopped ⟨0, 0⟩).tick, registry := ⟨(∅ : Table RunRecord).insert "run_000001"
      ⟨"run_000001", "agent", .created, none, none, none, ⟨0, 0⟩, ⟨0, 0⟩⟩, 2⟩ }, 0⟩ := by
  have isId : runId 1 = "run_000001" := by decide +kernel
  rw [← isId]
  rfl

theorem overtaken_run_stops : ∃ tried failure info record,
    ((overtaken false).attempts "run_000001" { plan := Sample.p1 } waiting .plain)[0]? = some tried ∧
      tried.response = some (.failure failure info) ∧ failure.code.isRetryable = true ∧
      tried.world.store.registry.get? "run_000001" = some record ∧ record.status.isTerminal = true ∧
      ((overtaken false).attempts "run_000001" { plan := Sample.p1 } waiting .plain).length ≤ 1 := by
  obtain ⟨tried, failure, info, record, made, failed, retryable, stored, isOver, checkpoint⟩ :
      ∃ tried failure info record,
        ((overtaken false).attempts "run_000001" { plan := Sample.p1 } waiting .plain)[0]? = some tried ∧
          tried.response = some (.failure failure info) ∧ failure.code.isRetryable = true ∧
          tried.world.store.registry.get? "run_000001" = some record ∧ record.status.isTerminal = true ∧
          (tried.world.store.checkpoints.get? "run_000001").isSome = true := by
    rw [waiting_run]
    exact ⟨_, _, _, _, rfl, rfl, rfl, rfl, rfl, rfl⟩
  have another := over_run_retried_iff (overtaken false) .plain "run_000001" { plan := Sample.p1 } waiting
    [.create { agentId := "agent" } ⟨0, 0⟩] rfl (overtaking_meddles false) 0 tried made failure info failed retryable
    record stored isOver
  refine ⟨tried, failure, info, record, made, failed, retryable, stored, isOver, Nat.le_of_not_lt fun more => ?_⟩
  rw [(another.mp more).2.2] at checkpoint
  cases checkpoint

-- Without it, the applier is called again for a run that is over.
theorem overtaken_run_goes_on :
    (overtaken true).Meddles "run_000001" .plain ∧ ∃ tried failure info record next,
      (overtaken true).attempts "run_000001" { plan := Sample.p1 } waiting .plain = [tried, next] ∧
        tried.response = some (.failure failure info) ∧ failure.code.isRetryable = true ∧
        tried.world.store.registry.get? "run_000001" = some record ∧ record.status.isTerminal = true ∧
        tried.world.rest = 2 ∧ next.world.rest = 4 := by
  refine ⟨overtaking_meddles true, ?_⟩
  rw [waiting_run]
  exact ⟨_, _, _, _, _, rfl, rfl, rfl, rfl, rfl, rfl, rfl⟩

end Overtaken

end Service

end PlanChain
