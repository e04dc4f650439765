import PlanChain.Proofs.Run.Store
import PlanChain.Run.Interleaving

set_option autoImplicit false

namespace PlanChain

variable (job : Job)

-- What an execution can do next: the phases before and after, and what it does to the store.
inductive Move (store : Store) : Phase → Phase → Store → Prop where
  | refuse (error : RegistryError)
      (denied : ∀ before, store.registry.get? job.runId = some before → before.status ≠ .created) :
      Move store .idle (.refused error) store
  | start (before record : RunRecord) (after : Store)
      (found : store.registry.get? job.runId = some before) (isCreated : before.status = .created)
      (shape : record = { before with status := .running, updatedAt := record.updatedAt })
      (stored : after.registry.get? job.runId = some record) : Move store .idle (.saving record) after
  | save (record : RunRecord) : Move store (.saving record) .watching (store.save job.runId record)
  | watch : Move store .watching (.attempting { params := job.params }) (store.watch job.runId)
  | settle (tracker : RetryTracker) (outcome : Option RetryOutcome) :
      Move store (.attempting tracker) (.discarding outcome) store
  | retry (tracker next : RetryTracker) (budget : tracker.hasBudget = true)
      (params : next.params = tracker.params) (iterations : next.iterations = tracker.iterations + 1) :
      Move store (.attempting tracker) (.checking next) store
  | stopBefore (tracker : RetryTracker) (outcome : Option RetryOutcome) :
      Move store (.checking tracker) (.discarding outcome) store
  | check (tracker : RetryTracker) : Move store (.checking tracker) (.loading tracker) store
  | unsaved (tracker : RetryTracker) (missing : store.checkpoints.get? job.runId = none) :
      Move store (.loading tracker) (job.proceed tracker) store
  | load (tracker : RetryTracker) (snapshot : RunRecord)
      (found : store.checkpoints.get? job.runId = some snapshot) :
      Move store (.loading tracker) (.restoring tracker snapshot) store
  | unrestored (tracker : RetryTracker) (snapshot : RunRecord) (outcome : Option RetryOutcome) :
      Move store (.restoring tracker snapshot) (.discarding outcome) store
  | restore (tracker : RetryTracker) (snapshot : RunRecord) (registry : Registry)
      (done : store.registry.restore? snapshot = some registry) :
      Move store (.restoring tracker snapshot) (job.proceed tracker) { store with registry }
  | stopAfter (tracker : RetryTracker) (outcome : Option RetryOutcome) :
      Move store (.rechecking tracker) (.discarding outcome) store
  | again (tracker : RetryTracker) : Move store (.rechecking tracker) (.attempting tracker) store
  | discard (outcome : Option RetryOutcome) :
      Move store (.discarding outcome) (.unwatching outcome) (store.discard job.runId)
  | unwatch (outcome : Option RetryOutcome) :
      Move store (.unwatching outcome) (.concluding outcome) (store.unwatch job.runId)
  | conclude (outcome : Option RetryOutcome) (before record : RunRecord) (after : Store)
      (found : store.registry.get? job.runId = some before) (running : before.status = .running)
      (stored : after.registry.get? job.runId = some record)
      (shape : (∃ output, record =
          { before with status := .completed, output, updatedAt := record.updatedAt }) ∨
        ∃ error, record =
          { before with status := .failed, error := some error, updatedAt := record.updatedAt }) :
      Move store (.concluding outcome) (.returned (.ok record)) after
  | late (outcome : Option RetryOutcome)
      (notRunning : ∀ before, store.registry.get? job.runId = some before → before.status ≠ .running) :
      Move store (.concluding outcome) .fetching store
  | mismatch (outcome : Option RetryOutcome) (error : RegistryError)
      (other : ∀ before, store.registry.get? job.runId = some before →
        before.status ≠ .running ∧ before.status ≠ .cancelled) :
      Move store (.concluding outcome) (.returned (.error error)) store
  | fetch (record : RunRecord) (found : store.registry.get? job.runId = some record) :
      Move store .fetching (.returned (.ok record)) store
  | vanished (error : RegistryError) (missing : store.registry.get? job.runId = none) :
      Move store .fetching (.returned (.error error)) store
  | restRefused (error : RegistryError) : Move store (.refused error) (.refused error) store
  | restReturned (result : Except RegistryError RunRecord) :
      Move store (.returned result) (.returned result) store

theorem observe_retries (tracker next : RetryTracker) (response : ExecutionResponse) (failure : Failure)
    (observed : tracker.observe response = (.ok failure, next)) :
    next.params = tracker.params ∧ next.iterations = tracker.iterations + 1 := by
  unfold RetryTracker.observe at observed
  cases response with
  | success result info => cases observed
  | failure reason info =>
      dsimp only at observed
      split at observed
      · cases observed
        exact ⟨rfl, rfl⟩
      · split at observed <;> cases observed

theorem attempt_moves (answer : Option ExecutionResponse) (store : Store) (tracker : RetryTracker) :
    Move job store (.attempting tracker) (job.advance answer store (.attempting tracker)).1
      (job.advance answer store (.attempting tracker)).2 := by
  simp only [Job.advance]
  by_cases budget : tracker.hasBudget = true
  · rw [if_pos budget]
    cases answer with
    | none => exact .settle tracker none
    | some response =>
        dsimp only
        cases observed : tracker.observe response with
        | mk verdict next =>
            cases verdict with
            | error outcome => exact .settle tracker (some outcome)
            | ok failure =>
                obtain ⟨params, iterations⟩ := observe_retries tracker next response failure observed
                exact .retry tracker next budget params iterations
  · rw [if_neg budget]
    exact .settle tracker _

theorem conclude_moves (answer : Option ExecutionResponse) (store : Store) (outcome : Option RetryOutcome) :
    Move job store (.concluding outcome) (job.advance answer store (.concluding outcome)).1
      (job.advance answer store (.concluding outcome)).2 := by
  simp only [Job.advance]
  cases ended : store.change (Store.conclusion job.runId outcome) with
  | mk result after =>
      cases result with
      | ok record =>
          obtain ⟨before, found, running, stored, shape⟩ :=
            Store.conclude_made store after job.runId outcome record ended
          exact .conclude outcome before record after found running stored shape
      | error error =>
          obtain ⟨rfl, denied⟩ := Store.conclude_denied store after job.runId outcome error ended
          split
          · rename_i shape
            cases shape
            exact .late outcome fun before found => (denied before found).1
          · rename_i other shape
            cases shape
            refine .mismatch outcome error fun before found => ⟨(denied before found).1, ?_⟩
            intro isCancelled
            obtain ⟨dst, shape⟩ := (denied before found).2
            rw [isCancelled] at shape
            subst shape
            exact other dst rfl

theorem advance_moves (answer : Option ExecutionResponse) (store : Store) (phase : Phase) :
    Move job store phase (job.advance answer store phase).1 (job.advance answer store phase).2 := by
  cases phase with
  | idle =>
      simp only [Job.advance]
      cases begun : store.change (·.start job.runId) with
      | mk result after =>
          cases result with
          | error error =>
              obtain ⟨rfl, denied⟩ := Store.start_denied store after job.runId error begun
              exact .refuse error denied
          | ok record =>
              obtain ⟨before, found, isCreated, shape, stored⟩ :=
                Store.start_made store after job.runId record begun
              exact .start before record after found isCreated shape stored
  | refused error => exact .restRefused error
  | saving record => exact .save record
  | watching => exact .watch
  | attempting tracker => exact attempt_moves job answer store tracker
  | checking tracker =>
      simp only [Job.advance]
      by_cases told : store.isCancelled job.runId = true
      · rw [if_pos told]
        exact .stopBefore tracker _
      · rw [if_neg told]
        exact .check tracker
  | loading tracker =>
      simp only [Job.advance]
      cases found : store.checkpoints.get? job.runId with
      | none => exact .unsaved tracker found
      | some snapshot => exact .load tracker snapshot found
  | restoring tracker snapshot =>
      simp only [Job.advance]
      cases done : store.registry.restore? snapshot with
      | none => exact .unrestored tracker snapshot _
      | some registry => exact .restore tracker snapshot registry done
  | rechecking tracker =>
      simp only [Job.advance]
      by_cases told : store.isCancelled job.runId = true
      · rw [if_pos told]
        exact .stopAfter tracker _
      · rw [if_neg told]
        exact .again tracker
  | discarding outcome => exact .discard outcome
  | unwatching outcome => exact .unwatch outcome
  | concluding outcome => exact conclude_moves job answer store outcome
  | fetching =>
      simp only [Job.advance]
      cases found : store.registry.get? job.runId with
      | none => exact .vanished _ found
      | some record => exact .fetch record found
  | returned result => exact .restReturned result

theorem proceed_started (tracker : RetryTracker) : (job.proceed tracker).isStarted = true := by
  unfold Job.proceed
  split <;> rfl

theorem proceed_not_refused (tracker : RetryTracker) (error : RegistryError) :
    job.proceed tracker ≠ .refused error := by
  intro refused
  have started := proceed_started job tracker
  rw [refused] at started
  cases started

namespace Phase

def isOver : Phase → Bool
  | .refused _ | .returned _ => true
  | _ => false

def remaining (job : Job) : Phase → Nat
  | .idle => 5 * job.params.maxIterations.toNat + 8
  | .saving _ => 5 * job.params.maxIterations.toNat + 7
  | .watching => 5 * job.params.maxIterations.toNat + 6
  | .attempting tracker => 5 * attempts tracker + 5
  | .checking tracker => 5 * attempts tracker + 9
  | .loading tracker => 5 * attempts tracker + 8
  | .restoring tracker _ => 5 * attempts tracker + 7
  | .rechecking tracker => 5 * attempts tracker + 6
  | .discarding _ => 4
  | .unwatching _ => 3
  | .concluding _ => 2
  | .fetching => 1
  | .refused _ | .returned _ => 0
where
  attempts (tracker : RetryTracker) : Nat :=
    tracker.params.maxIterations.toNat - tracker.iterations.toNat

end Phase

theorem proceed_remaining (tracker : RetryTracker) :
    (job.proceed tracker).remaining job ≤ 5 * Phase.remaining.attempts tracker + 6 := by
  unfold Job.proceed
  split <;> simp [Phase.remaining]

theorem retry_attempts (tracker next : RetryTracker) (budget : tracker.hasBudget = true)
    (params : next.params = tracker.params) (iterations : next.iterations = tracker.iterations + 1) :
    Phase.remaining.attempts next + 1 = Phase.remaining.attempts tracker := by
  have below : tracker.iterations.toNat < tracker.params.maxIterations.toNat :=
    UInt32.lt_iff_toNat_lt.mp (of_decide_eq_true budget)
  have bound := tracker.params.maxIterations.toNat_lt
  have counted : next.iterations.toNat = tracker.iterations.toNat + 1 := by
    rw [iterations, UInt32.toNat_add]
    exact Nat.mod_eq_of_lt (by simpa using by omega)
  rw [Phase.remaining.attempts, Phase.remaining.attempts, params, counted]
  omega

theorem move_remaining (store after : Store) (phase next : Phase) (move : Move job store phase next after) :
    next.remaining job < phase.remaining job ∨ (phase.isOver = true ∧ next = phase) := by
  cases move with
  | retry tracker next budget params iterations =>
      have := retry_attempts tracker next budget params iterations
      simp only [Phase.remaining]
      omega
  | unsaved tracker missing =>
      refine Or.inl (Nat.lt_of_le_of_lt (proceed_remaining job tracker) ?_)
      simp only [Phase.remaining]
      omega
  | restore tracker snapshot registry done =>
      refine Or.inl (Nat.lt_of_le_of_lt (proceed_remaining job tracker) ?_)
      simp only [Phase.remaining]
      omega
  | restRefused error => exact Or.inr ⟨rfl, rfl⟩
  | restReturned result => exact Or.inr ⟨rfl, rfl⟩
  | watch => simp [Phase.remaining, Phase.remaining.attempts]
  | _ =>
      simp only [Phase.remaining]
      omega

theorem move_started (store after : Store) (phase next : Phase) (move : Move job store phase next after)
    (started : phase.isStarted = true) : next.isStarted = true := by
  cases move with
  | unsaved tracker missing => exact proceed_started job tracker
  | restore tracker snapshot registry done => exact proceed_started job tracker
  | refuse error denied => cases started
  | restRefused error => cases started
  | _ => rfl

theorem move_begun (store after : Store) (phase next : Phase) (move : Move job store phase next after) :
    next ≠ .idle := by
  rintro rfl
  generalize isIdle : Phase.idle = next at move
  cases move with
  | unsaved tracker missing => exact absurd (isIdle ▸ proceed_started job tracker) nofun
  | restore tracker snapshot registry done => exact absurd (isIdle ▸ proceed_started job tracker) nofun
  | _ => cases isIdle

def Event.isExecution : Event → Bool
  | .execution _ => true
  | .cancel _ _ => false

def Event.isOf (call : Nat) : Event → Bool
  | .execution _ => false
  | .cancel other _ => other = call

theorem run_over (situation : Situation) (schedule : List Event)
    (isOver : situation.phase.isOver = true) :
    (job.run situation schedule).phase = situation.phase := by
  induction schedule generalizing situation with
  | nil => rfl
  | cons event rest ih =>
      have same : (job.step situation event).phase = situation.phase := by
        cases event with
        | cancel call reason => rfl
        | execution answer =>
            simp only [Job.step]
            cases phase : situation.phase with
            | refused error => rfl
            | returned result => rfl
            | _ =>
                rw [phase] at isOver
                cases isOver
      rw [← same]
      exact ih (job.step situation event) (by rw [same, isOver])

-- Every operation of the execution brings it nearer to its end; the calls never take it back.
theorem run_remaining (situation : Situation) (schedule : List Event) :
    (job.run situation schedule).phase.isOver = true ∨
      (job.run situation schedule).phase.remaining job + schedule.countP Event.isExecution ≤
        situation.phase.remaining job := by
  induction schedule generalizing situation with
  | nil => exact Or.inr (Nat.le_refl _)
  | cons event rest ih =>
      rcases ih (job.step situation event) with isOver | bound
      · exact Or.inl isOver
      · cases event with
        | cancel call reason =>
            rw [List.countP_cons_of_neg (by simp [Event.isExecution])]
            exact Or.inr bound
        | execution answer =>
            rw [List.countP_cons_of_pos rfl]
            have move := advance_moves job answer situation.store situation.phase
            rcases move_remaining job _ _ _ _ move with less | ⟨isOver, same⟩
            · have nearer : (job.step situation (.execution answer)).phase.remaining job <
                  situation.phase.remaining job := less
              have later : (job.run situation (.execution answer :: rest)).phase.remaining job +
                  rest.countP Event.isExecution ≤
                    (job.step situation (.execution answer)).phase.remaining job := bound
              exact Or.inr (by omega)
            · have stays := run_over job situation (.execution answer :: rest) isOver
              rw [stays]
              exact Or.inl isOver

theorem remaining_zero (phase : Phase) (none : phase.remaining job = 0) : phase.isOver = true := by
  cases phase with
  | refused error => rfl
  | returned result => rfl
  | _ =>
      simp only [Phase.remaining] at none
      omega

theorem run_ends (situation : Situation) (schedule : List Event)
    (enough : situation.phase.remaining job ≤ schedule.countP Event.isExecution) :
    (job.run situation schedule).phase.isOver = true := by
  rcases run_remaining job situation schedule with isOver | bound
  · exact isOver
  · exact remaining_zero job _ (by omega)

theorem run_started (situation : Situation) (schedule : List Event)
    (started : situation.phase.isStarted = true) :
    (job.run situation schedule).phase.isStarted = true := by
  induction schedule generalizing situation with
  | nil => exact started
  | cons event rest ih =>
      apply ih
      cases event with
      | cancel call reason => exact started
      | execution answer =>
          exact move_started job _ _ _ _ (advance_moves job answer situation.store situation.phase) started

theorem run_begun (situation : Situation) (schedule : List Event)
    (begun : situation.phase ≠ .idle ∨ 0 < schedule.countP Event.isExecution) :
    (job.run situation schedule).phase ≠ .idle := by
  induction schedule generalizing situation with
  | nil => exact begun.resolve_right (Nat.lt_irrefl 0)
  | cons event rest ih =>
      apply ih
      cases event with
      | cancel call reason => rwa [List.countP_cons_of_neg (by simp [Event.isExecution])] at begun
      | execution answer =>
          exact Or.inl (move_begun job _ _ _ _ (advance_moves job answer situation.store situation.phase))

def CancelCall.remaining : CancelCall → Nat
  | .waiting => 2
  | .signalling _ _ => 1
  | .returned _ _ => 0

theorem cancel_step_remaining (reason : Option String) (store : Store) (made : CancelCall) :
    (job.cancelStep reason store made).1.remaining ≤ made.remaining - 1 := by
  cases made with
  | waiting =>
      simp only [Job.cancelStep]
      cases changed : store.change (·.cancel job.runId reason) with
      | mk result after => cases result <;> simp [CancelCall.remaining]
  | signalling reason record => exact Nat.le_refl _
  | returned reason result => exact Nat.le_refl _

theorem run_call_remaining (situation : Situation) (schedule : List Event) (call : Nat) :
    ((job.run situation schedule).calls call).remaining ≤
      (situation.calls call).remaining - schedule.countP (Event.isOf call) := by
  induction schedule generalizing situation with
  | nil => exact Nat.le_refl _
  | cons event rest ih =>
      have later := ih (job.step situation event)
      cases event with
      | execution answer =>
          rw [List.countP_cons_of_neg (by simp [Event.isOf])]
          exact later
      | cancel other reason =>
          by_cases isCall : other = call
          · subst isCall
            have stepped : ((job.step situation (.cancel other reason)).calls other).remaining ≤
                (situation.calls other).remaining - 1 := by
              simpa [Job.step] using
                cancel_step_remaining job reason situation.store (situation.calls other)
            rw [List.countP_cons_of_pos (by simp [Event.isOf])]
            refine Nat.le_trans later ?_
            omega
          · have same : (job.step situation (.cancel other reason)).calls call = situation.calls call := by
              simp [Job.step, Ne.symm isCall]
            rw [List.countP_cons_of_neg (by simpa [Event.isOf] using isCall), ← same]
            exact later

end PlanChain
