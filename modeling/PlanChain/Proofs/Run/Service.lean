import PlanChain.Proofs.Execution.World
import PlanChain.Proofs.Run.Cancellation
import PlanChain.Run.Service

/-! What a service does to its store in one piece is a sequence of single operations, and where steps and
sessions do no more to the store than to cancel the run, the whole execution is a schedule of operations of
one execution and some calls. -/

set_option autoImplicit false

namespace PlanChain

-- The store after calls that cancel a run, each of them made in one piece.
inductive Cancelling (runId : String) (store : Store) : Store → Prop where
  | none : Cancelling runId store store
  | call (after : Store) (reason : Option String) (before : Cancelling runId store after) :
      Cancelling runId store (after.cancel runId reason).2

def Situation.Fresh (situation : Situation) : Prop :=
  ∃ bound, ∀ call, bound ≤ call → situation.calls call = .waiting

-- A schedule leads from a situation to a phase and a store, and leaves calls that have not begun.
def Leads (job : Job) (situation : Situation) (phase : Phase) (store : Store) : Prop :=
  ∃ schedule, (job.run situation schedule).phase = phase ∧ (job.run situation schedule).store = store ∧
    (job.run situation schedule).Fresh

section Leading

variable {job : Job} {situation : Situation}

theorem leads_here (fresh : situation.Fresh) : Leads job situation situation.phase situation.store :=
  ⟨[], rfl, rfl, fresh⟩

theorem leads_trans (phase next : Phase) (store after : Store) (first : Leads job situation phase store)
    (second : ∀ other : Situation, other.phase = phase → other.store = store → other.Fresh →
      Leads job other next after) : Leads job situation next after := by
  obtain ⟨schedule, samePhase, sameStore, fresh⟩ := first
  obtain ⟨later, nextPhase, nextStore, nextFresh⟩ := second _ samePhase sameStore fresh
  have joined : job.run situation (schedule ++ later) = job.run (job.run situation schedule) later :=
    List.foldl_append
  refine ⟨schedule ++ later, ?_, ?_, ?_⟩ <;> rw [joined]
  · exact nextPhase
  · exact nextStore
  · exact nextFresh

theorem leads_execution (answer : Option ExecutionResponse) (fresh : situation.Fresh) :
    Leads job situation (job.advance answer situation.store situation.phase).1
      (job.advance answer situation.store situation.phase).2 :=
  ⟨[.execution answer], rfl, rfl, fresh⟩

theorem leads_cancel (reason : Option String) (fresh : situation.Fresh) :
    Leads job situation situation.phase (situation.store.cancel job.runId reason).2 := by
  obtain ⟨bound, waiting⟩ := fresh
  refine ⟨[.cancel bound reason, .cancel bound reason], rfl, ?_, bound + 1, ?_⟩
  · have isWaiting := waiting bound (Nat.le_refl bound)
    simp only [Job.run, List.foldl_cons, List.foldl_nil, Job.step, isWaiting, Job.cancelStep, Store.cancel]
    cases made : situation.store.change (·.cancel job.runId reason) with
    | mk result after => cases result <;> simp
  · intro call above
    have other : call ≠ bound := by omega
    simp [Job.run, Job.step, other, waiting call (by omega)]

theorem leads_cancelling (after : Store) (fresh : situation.Fresh)
    (cancelling : Cancelling job.runId situation.store after) : Leads job situation situation.phase after := by
  induction cancelling with
  | none => exact leads_here fresh
  | call after reason _ ih =>
      refine leads_trans _ _ _ _ ih ?_
      intro other phase store otherFresh
      rw [← phase, ← store]
      exact leads_cancel reason otherFresh

theorem leads_on (answer : Option ExecutionResponse) (phase next : Phase) (store after : Store)
    (led : Leads job situation phase store) (onward : job.advance answer store phase = (next, after)) :
    Leads job situation next after := by
  refine leads_trans phase next store after led ?_
  intro other samePhase sameStore fresh
  have advanced : Leads job other _ _ := leads_execution answer fresh
  rwa [samePhase, sameStore, onward] at advanced

theorem begin_leads (job : Job) (fresh : situation.Fresh) (idle : situation.phase = .idle) :
    match situation.store.begin job.runId with
    | (.error error, after) => Leads job situation (.refused error) after
    | (.ok _, after) => Leads job situation (.attempting { params := job.params }) after := by
  have here : Leads job situation .idle situation.store := idle ▸ leads_here fresh
  unfold Store.begin
  cases begun : situation.store.change (·.start job.runId) with
  | mk result after =>
      cases result with
      | error error => exact leads_on none .idle _ _ after here (by simp only [Job.advance, begun])
      | ok record =>
          have started : Leads job situation (.saving record) after :=
            leads_on none .idle _ _ _ here (by simp only [Job.advance, begun])
          have saved : Leads job situation .watching (after.save job.runId record) :=
            leads_on none _ _ _ _ started rfl
          exact leads_on none _ _ _ _ saved rfl

theorem before_retry_leads (job : Job) (tracker : RetryTracker) (fresh : situation.Fresh)
    (checking : situation.phase = .checking tracker) :
    Leads job situation
      (if (situation.store.beforeRetry job.runId).1 ||
          (job.live && (situation.store.beforeRetry job.runId).2.isCancelled job.runId)
        then .discarding (some tracker.cancelled) else .attempting tracker)
      (situation.store.beforeRetry job.runId).2 := by
  have here : Leads job situation (.checking tracker) situation.store := checking ▸ leads_here fresh
  have proceeded (store : Store) (led : Leads job situation (job.proceed tracker) store) :
      Leads job situation
        (if job.live && store.isCancelled job.runId then .discarding (some tracker.cancelled)
          else .attempting tracker) store := by
    cases isLive : job.live with
    | false => simpa [Job.proceed, isLive] using led
    | true =>
        simp only [Job.proceed, isLive, if_true] at led
        refine leads_on none _ _ _ _ led ?_
        cases told : store.isCancelled job.runId <;> simp [Job.advance, told]
  cases told : situation.store.isCancelled job.runId with
  | true =>
      simp only [Store.beforeRetry, told, if_true, Bool.true_or]
      exact leads_on none _ _ _ _ here (by simp only [Job.advance, told, if_true])
  | false =>
      have loading : Leads job situation (.loading tracker) situation.store :=
        leads_on none _ _ _ _ here (by simp [Job.advance, told])
      cases saved : situation.store.checkpoints.get? job.runId with
      | none =>
          simp only [Store.beforeRetry, told, saved, Bool.false_eq_true, if_false, Bool.false_or]
          have led : Leads job situation (job.proceed tracker) situation.store :=
            leads_on none _ _ _ _ loading (by simp only [Job.advance, saved])
          simpa only [told] using proceeded _ led
      | some snapshot =>
          have restoring : Leads job situation (.restoring tracker snapshot) situation.store :=
            leads_on none _ _ _ _ loading (by simp only [Job.advance, saved])
          cases done : situation.store.registry.restore? snapshot with
          | none =>
              simp only [Store.beforeRetry, told, saved, done, Bool.false_eq_true, if_false, Bool.true_or,
                if_true]
              exact leads_on none _ _ _ _ restoring (by simp only [Job.advance, done])
          | some registry =>
              simp only [Store.beforeRetry, told, saved, done, Bool.false_eq_true, if_false, Bool.false_or]
              exact proceeded _ (leads_on none _ _ _ _ restoring (by simp only [Job.advance, done]))

theorem finish_leads (outcome : Option RetryOutcome) (fresh : situation.Fresh)
    (discarding : situation.phase = .discarding outcome) :
    Leads job situation (.returned (situation.store.finish job.runId outcome).1)
      (situation.store.finish job.runId outcome).2 := by
  have here : Leads job situation (.discarding outcome) situation.store := discarding ▸ leads_here fresh
  have discarded : Leads job situation (.unwatching outcome) (situation.store.discard job.runId) :=
    leads_on none _ _ _ _ here rfl
  have concluding :
      Leads job situation (.concluding outcome) ((situation.store.discard job.runId).unwatch job.runId) :=
    leads_on none _ _ _ _ discarded rfl
  unfold Store.finish
  cases ended : ((situation.store.discard job.runId).unwatch job.runId).change
      (Store.conclusion job.runId outcome) with
  | mk result after =>
      cases result with
      | ok record => exact leads_on none _ _ _ _ concluding (by simp only [Job.advance, ended])
      | error error =>
          cases error with
          | notFound runId => exact leads_on none _ _ _ _ concluding (by simp only [Job.advance, ended])
          | invalidTransition current requested =>
              cases current with
              | cancelled =>
                  have fetching : Leads job situation .fetching after :=
                    leads_on none _ _ _ _ concluding (by simp only [Job.advance, ended])
                  refine leads_on none _ _ _ _ fetching ?_
                  cases found : after.registry.get? job.runId <;> simp only [Job.advance, found]
              | _ => exact leads_on none _ _ _ _ concluding (by simp only [Job.advance, ended])

end Leading

section Trying

variable {σ : Type} {job : Job} (storeOf : σ → Store) (steady : σ → Prop)

structure Calm (job : Job) (storeOf : σ → Store) (steady : σ → Prop) (retrying : Retrying σ) : Prop where
  attempts : ∀ world, steady world →
    Cancelling job.runId (storeOf world) (storeOf (retrying.attempt world).world) ∧
      steady (retrying.attempt world).world
  pauses : ∀ attempt failure world, steady world →
    steady (retrying.stops attempt failure world).2 ∧
      storeOf (retrying.stops attempt failure world).2 = ((storeOf world).beforeRetry job.runId).2 ∧
      (retrying.stops attempt failure world).1 = (((storeOf world).beforeRetry job.runId).1 ||
        (job.live && ((storeOf world).beforeRetry job.runId).2.isCancelled job.runId))

variable {storeOf steady} {retrying : Retrying σ}

theorem pause_leads {situation : Situation} (calm : Calm job storeOf steady retrying) (tracker : RetryTracker)
    (attempt : UInt32) (failure : Failure) (world : σ) (isSteady : steady world)
    (checking : Leads job situation (.checking tracker) (storeOf world)) :
    Leads job situation
      (if (retrying.stops attempt failure world).1 then .discarding (some tracker.cancelled)
        else .attempting tracker)
      (storeOf (retrying.stops attempt failure world).2) := by
  obtain ⟨-, sameStore, stops⟩ := calm.pauses attempt failure world isSteady
  refine leads_trans _ _ _ _ checking ?_
  intro other phase store fresh
  have paused := before_retry_leads job tracker fresh phase
  rw [store, ← stops, ← sameStore] at paused
  exact paused

-- By induction on the budget, which is what the tracker has left of its iterations.
theorem try_leads (calm : Calm job storeOf steady retrying) (budget : Nat) (tracker : RetryTracker)
    (world : σ) (situation : Situation) (fresh : situation.Fresh)
    (left : Phase.remaining.attempts tracker = budget)
    (isSteady : steady world) (attempting : situation.phase = .attempting tracker)
    (same : situation.store = storeOf world) :
    Leads job situation (.discarding (retrying.tryUpTo budget tracker world).outcome)
      (storeOf (retrying.tryUpTo budget tracker world).world) := by
  have here : Leads job situation (.attempting tracker) (storeOf world) := by
    rw [← attempting, ← same]
    exact leads_here fresh
  induction budget generalizing tracker world situation with
  | zero =>
      have spent : tracker.hasBudget = false := by
        simp only [Phase.remaining.attempts] at left
        simp only [RetryTracker.hasBudget, decide_eq_false_iff_not, UInt32.lt_iff_toNat_lt]
        omega
      exact leads_on none _ _ _ _ here (by simp [Job.advance, spent, Retrying.tryUpTo])
  | succ budget ih =>
      have unspent : tracker.hasBudget = true := by
        simp only [Phase.remaining.attempts] at left
        simp only [RetryTracker.hasBudget, decide_eq_true_eq, UInt32.lt_iff_toNat_lt]
        omega
      obtain ⟨cancelling, stillSteady⟩ := calm.attempts world isSteady
      have tried : Leads job situation (.attempting tracker) (storeOf (retrying.attempt world).world) := by
        refine leads_trans _ _ _ _ here ?_
        intro other phase store otherFresh
        rw [← phase]
        exact leads_cancelling _ otherFresh (store ▸ cancelling)
      simp only [Retrying.tryUpTo]
      cases answered : (retrying.attempt world).response with
      | none => exact leads_on none _ _ _ _ tried (by simp [Job.advance, unspent])
      | some response =>
          dsimp only
          cases observed : tracker.observe response with
          | mk verdict after =>
              cases verdict with
              | error outcome =>
                  exact leads_on (some response) _ _ _ _ tried (by simp [Job.advance, unspent, observed])
              | ok failure =>
                  have checking :
                      Leads job situation (.checking after) (storeOf (retrying.attempt world).world) :=
                    leads_on (some response) _ _ _ _ tried (by simp [Job.advance, unspent, observed])
                  obtain ⟨params, iterations⟩ := observe_retries tracker after response failure observed
                  have fewer := retry_attempts tracker after unspent params iterations
                  have paused := pause_leads calm after tracker.iterations failure _ stillSteady checking
                  have onceMore := (calm.pauses tracker.iterations failure _ stillSteady).1
                  dsimp only
                  split at paused
                  · rw [if_pos ‹_›]
                    exact paused
                  · rw [if_neg ‹_›]
                    refine leads_trans _ _ _ _ paused ?_
                    intro later laterPhase laterStore laterFresh
                    refine ih after _ later laterFresh (by omega) onceMore laterPhase laterStore ?_
                    rw [← laterPhase, ← laterStore]
                    exact leads_here laterFresh

theorem run_leads (calm : Calm job storeOf steady retrying) (world : σ) (situation : Situation)
    (fresh : situation.Fresh) (isSteady : steady world)
    (attempting : situation.phase = .attempting { params := job.params })
    (cancelling : Cancelling job.runId situation.store (storeOf world)) :
    Leads job situation
      (.returned ((storeOf (retrying.run job.params world).world).finish job.runId
        (retrying.run job.params world).outcome).1)
      ((storeOf (retrying.run job.params world).world).finish job.runId
        (retrying.run job.params world).outcome).2 := by
  have first : Leads job situation (.attempting { params := job.params }) (storeOf world) := by
    rw [← attempting]
    exact leads_cancelling _ fresh cancelling
  refine leads_trans _ _ _ _ first ?_
  intro other phase store otherFresh
  have tried := try_leads calm job.params.maxIterations.toNat { params := job.params } world other otherFresh
    rfl isSteady phase store
  refine leads_trans _ _ _ _ tried ?_
  intro later laterPhase laterStore laterFresh
  rw [Retrying.run, ← laterStore]
  exact finish_leads _ laterFresh laterPhase

end Trying

-- A service has gone from a store to another as after some schedule of operations. Its execution has
-- returned, or was refused since the run was not to be started.
def Job.Serves (job : Job) (store : Store) (result : Except RegistryError RunRecord) (after : Store) : Prop :=
  ∃ schedule, (job.reach store schedule).store = after ∧
    ((job.reach store schedule).phase = .returned result ∨
      ∃ error, result = .error error ∧ (job.reach store schedule).phase = .refused error ∧
        ∀ record, store.registry.get? job.runId = some record → record.status ≠ .created)

section Serving

variable {job : Job} {store after : Store}

theorem serves_refused (error : RegistryError) (led : Leads job (.initial store) (.refused error) after)
    (denied : ∀ record, store.registry.get? job.runId = some record → record.status ≠ .created) :
    job.Serves store (.error error) after := by
  obtain ⟨schedule, phase, same, -⟩ := led
  exact ⟨schedule, same, Or.inr ⟨error, rfl, phase, denied⟩⟩

theorem serves_returned (result : Except RegistryError RunRecord)
    (led : Leads job (.initial store) (.returned result) after) : job.Serves store result after := by
  obtain ⟨schedule, phase, same, -⟩ := led
  exact ⟨schedule, same, Or.inl phase⟩

theorem served_record (result : Except RegistryError RunRecord) (first : RunRecord)
    (serves : job.Serves store result after) (found : store.registry.get? job.runId = some first)
    (isCreated : first.status = .created) :
    ∃ record, result = .ok record ∧ after.registry.get? job.runId = some record ∧
      (CompletedFrom (some first) record ∨ FailedFrom (some first) record ∨
        ∃ reason, CancelledFrom (some first) reason record) := by
  obtain ⟨schedule, rfl, returned | ⟨error, -, -, denied⟩⟩ := serves
  · have sound := run_sound schedule (initial_sound job store)
    rw [found] at sound
    cases sound.standing with
    | undisturbed nobody holds =>
        change (job.reach store schedule).phase.Undisturbed _ _ at holds
        rw [returned] at holds
        obtain ⟨record, isOk, stored, ended⟩ := holds
        exact ⟨record, isOk, stored, ended.imp_right Or.inl⟩
    | cancelled call reason record won only stored shape told =>
        change (job.reach store schedule).phase.Told record at told
        rw [returned] at told
        exact ⟨record, told, stored, Or.inr (Or.inr ⟨reason, shape⟩)⟩
  · exact (denied first found isCreated).elim

end Serving

namespace Service

variable {ρ : Type}

def CancelledSince (runId : String) (start : Store) (world : World ρ) : Prop :=
  Cancelling runId start world.store

theorem cancel_keeps (runId : String) (start : Store) (reason : Option String) (world : World ρ)
    (since : CancelledSince runId start world) :
    CancelledSince runId start { world with store := (world.store.cancel runId reason).2 } :=
  .call world.store reason since

theorem initial_fresh (store : Store) : (Situation.initial store).Fresh := ⟨0, fun _ _ => rfl⟩

theorem execute_calm (service : Service ρ) (runId : String) (request : ExecuteRequest)
    (keeps : ∀ start, service.apply.Keeps (CancelledSince runId start)) :
    Calm ⟨runId, false, service.config.retry⟩ World.store (fun _ => True)
      (Retrying.ofApplier service.apply request fun _ _ => beforeRetry runId) := by
  constructor
  case attempts =>
    intro world _
    exact ⟨execute_keeps service.apply _ (keeps world.store) _ _ world .none, trivial⟩
  case pauses =>
    intro attempt failure world _
    exact ⟨trivial, rfl, (Bool.or_false _).symm⟩

theorem execute_serves (service : Service ρ) (runId : String) (request : ExecuteRequest) (world : World ρ)
    (keeps : ∀ start, service.apply.Keeps (CancelledSince runId start)) :
    Job.Serves ⟨runId, false, service.config.retry⟩ world.store (service.execute runId request world).result
      (service.execute runId request world).world.store := by
  have calm := execute_calm service runId request keeps
  have begun := begin_leads ⟨runId, false, service.config.retry⟩ (initial_fresh world.store) rfl
  unfold execute
  simp only [Situation.initial] at begun
  cases started : world.store.begin runId with
  | mk result after =>
      rw [started] at begun
      cases result with
      | error error => exact serves_refused error begun (Store.begin_denied _ after runId error started)
      | ok record =>
          refine serves_returned _ (leads_trans _ _ _ _ begun ?_)
          rintro other phase rfl fresh
          exact run_leads calm { world with store := other.store } other fresh trivial phase .none

theorem execute_live_calm (service : Service ρ) (runId : String) (request : ExecuteRequest)
    (alarms : List (Alarm (World ρ)))
    (keeps : ∀ start, (service.environment runId).Keeps alarms (CancelledSince runId start)) :
    Calm ⟨runId, true, service.config.retry⟩ (fun line => line.world.store) (fun line => line.alarms ⊆ alarms)
      ((service.environment runId).retrying request fun _ _ => beforeRetry runId) := by
  constructor
  case attempts =>
    intro line pending
    have kept := Environment.execute_kept (keeps line.world.store) request.plan request.options line
      ⟨.none, pending⟩
    exact ⟨kept.world, kept.pending⟩
  case pauses =>
    intro attempt failure line pending
    exact ⟨pending, rfl, rfl⟩

theorem execute_live_serves (service : Service ρ) (runId : String) (request : ExecuteRequest)
    (alarms : List (Alarm (World ρ))) (world : World ρ)
    (keeps : ∀ start, (service.environment runId).Keeps alarms (CancelledSince runId start)) :
    Job.Serves ⟨runId, true, service.config.retry⟩ world.store
      (service.executeLive runId request alarms world).result
      (service.executeLive runId request alarms world).world.store := by
  have begun := begin_leads ⟨runId, true, service.config.retry⟩ (initial_fresh world.store) rfl
  unfold executeLive
  simp only [Situation.initial] at begun
  cases started : world.store.begin runId with
  | mk result after =>
      rw [started] at begun
      cases result with
      | error error => exact serves_refused error begun (Store.begin_denied _ after runId error started)
      | ok record =>
          let line := Timeline.start alarms { world with store := after }
          have stillKeeps (start : Store) :
              (service.environment runId).Keeps line.alarms (CancelledSince runId start) :=
            ⟨(keeps start).apply, (keeps start).provider, Timeline.start_all_keep (keeps start).alarms _⟩
          have rung := Timeline.give_way_kept (stillKeeps after).alarms line ⟨.none, List.Subset.refl _⟩
          have calm := execute_live_calm service runId request line.alarms stillKeeps
          refine serves_returned _ (leads_trans _ _ _ _ begun ?_)
          rintro other phase rfl fresh
          exact run_leads calm line.giveWay other fresh rung.pending phase rung.world

end Service

end PlanChain
