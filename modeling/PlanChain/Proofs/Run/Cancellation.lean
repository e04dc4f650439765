import PlanChain.Proofs.Run.Interleaving

/-! The invariant says, phase by phase, what is stored while no call has cancelled the run, and what the
execution holds in its hands. From the call that cancels it on, the record stays as that call left it. -/

set_option autoImplicit false

namespace PlanChain

def StartedFrom (first : Option RunRecord) (record : RunRecord) : Prop :=
  ∃ created, first = some created ∧ created.status = .created ∧
    record = { created with status := .running, updatedAt := record.updatedAt }

def CompletedFrom (first : Option RunRecord) (record : RunRecord) : Prop :=
  ∃ created output, first = some created ∧ created.status = .created ∧
    record = { created with status := .completed, output, updatedAt := record.updatedAt }

def FailedFrom (first : Option RunRecord) (record : RunRecord) : Prop :=
  ∃ created error, first = some created ∧ created.status = .created ∧
    record = { created with status := .failed, error := some error, updatedAt := record.updatedAt }

-- A reason becomes the error of a cancelled run; without one the run keeps the error it had.
def CancelledFrom (first : Option RunRecord) (reason : Option String) (record : RunRecord) : Prop :=
  ∃ active, first = some active ∧ (active.status = .created ∨ active.status = .running) ∧
    record = { active with
      status := .cancelled
      error := (reason.map (RunError.mk .runCancelled)).or active.error
      updatedAt := record.updatedAt }

namespace Phase

-- What is stored of the run while no call has cancelled it.
def Undisturbed (first stored : Option RunRecord) : Phase → Prop
  | .idle | .refused _ => stored = first
  | .fetching => False
  | .returned result => ∃ record, result = .ok record ∧ stored = some record ∧
      (CompletedFrom first record ∨ FailedFrom first record)
  | _ => ∃ record, stored = some record ∧ StartedFrom first record

-- What the execution is told once a call has cancelled the run.
def Told (record : RunRecord) : Phase → Prop
  | .returned result => result = .ok record
  | _ => True

-- What the execution may write back, whatever the calls do.
def Backed (first checkpoint : Option RunRecord) : Phase → Prop
  | .saving record => StartedFrom first record
  | .watching | .attempting _ | .checking _ | .loading _ | .rechecking _ =>
    ∃ record, checkpoint = some record ∧ StartedFrom first record
  | .restoring _ snapshot => StartedFrom first snapshot ∧ checkpoint = some snapshot
  | _ => True

end Phase

namespace Job

def stored (job : Job) (situation : Situation) : Option RunRecord :=
  situation.store.registry.get? job.runId

def checkpoint (job : Job) (situation : Situation) : Option RunRecord :=
  situation.store.checkpoints.get? job.runId

end Job

-- The call of a number has cancelled the run for a reason, and left it with a record.
def Situation.Won (situation : Situation) (call : Nat) (reason : Option String) (record : RunRecord) : Prop :=
  (situation.calls call).won? = some (reason, record)

inductive Standing (job : Job) (first : Option RunRecord) (situation : Situation) : Prop where
  | undisturbed (nobody : ∀ call reason record, ¬ situation.Won call reason record)
      (holds : situation.phase.Undisturbed first (job.stored situation))
  | cancelled (call : Nat) (reason : Option String) (record : RunRecord)
      (won : situation.Won call reason record)
      (only : ∀ other otherReason otherRecord, situation.Won other otherReason otherRecord → other = call)
      (stored : job.stored situation = some record) (shape : CancelledFrom first reason record)
      (told : situation.phase.Told record)

structure Sound (job : Job) (first : Option RunRecord) (situation : Situation) : Prop where
  backed : situation.phase.Backed first (job.checkpoint situation)
  refusal : ∀ error, situation.phase = .refused error →
    (∃ call reason record, situation.Won call reason record) ∨
      ∀ record, first = some record → record.status ≠ .created
  standing : Standing job first situation

section Execution

variable {job : Job} {first : Option RunRecord} {store after : Store} {phase next : Phase}

theorem proceed_backed (tracker : RetryTracker) (checkpoint : Option RunRecord)
    (backed : ∃ record, checkpoint = some record ∧ StartedFrom first record) :
    (job.proceed tracker).Backed first checkpoint := by
  unfold Job.proceed
  split <;> exact backed

theorem proceed_undisturbed (tracker : RetryTracker) (stored : Option RunRecord)
    (started : ∃ record, stored = some record ∧ StartedFrom first record) :
    (job.proceed tracker).Undisturbed first stored := by
  unfold Job.proceed
  split <;> exact started

theorem proceed_told (tracker : RetryTracker) (record : RunRecord) : (job.proceed tracker).Told record := by
  unfold Job.proceed
  split <;> trivial

theorem move_backed (move : Move job store phase next after)
    (backed : phase.Backed first (store.checkpoints.get? job.runId))
    (startable : phase = .idle → ∀ record, store.registry.get? job.runId = some record →
      record.status = .created → first = some record) :
    next.Backed first (after.checkpoints.get? job.runId) := by
  cases move with
  | start before record after found isCreated shape stored =>
      exact ⟨before, startable rfl before found isCreated, isCreated, shape⟩
  | save record => exact ⟨record, by simp [Store.save], backed⟩
  | load tracker snapshot found =>
      obtain ⟨record, same, started⟩ := backed
      rw [found] at same
      cases same
      exact ⟨started, found⟩
  | unsaved tracker missing => exact proceed_backed tracker _ backed
  | restore tracker snapshot registry done => exact proceed_backed tracker _ ⟨snapshot, backed.2, backed.1⟩
  | watch => exact backed
  | retry tracker next budget params iterations => exact backed
  | check tracker => exact backed
  | again tracker => exact backed
  | _ => trivial

theorem started_running (record : RunRecord) (started : StartedFrom first record) :
    record.status = .running := by
  obtain ⟨created, -, -, shape⟩ := started
  rw [shape]

theorem move_undisturbed (move : Move job store phase next after)
    (backed : phase.Backed first (store.checkpoints.get? job.runId))
    (holds : phase.Undisturbed first (store.registry.get? job.runId)) :
    next.Undisturbed first (after.registry.get? job.runId) := by
  cases move with
  | start before record after found isCreated shape stored =>
      have isFirst : store.registry.get? job.runId = first := holds
      exact ⟨record, stored, before, isFirst ▸ found, isCreated, shape⟩
  | unsaved tracker missing => exact proceed_undisturbed tracker _ holds
  | restore tracker snapshot registry done =>
      apply proceed_undisturbed
      rcases Registry.restored _ registry snapshot job.runId done with ⟨-, written, -⟩ | ⟨-, same⟩
      · exact ⟨snapshot, written, backed.1⟩
      · rw [same]
        exact holds
  | conclude outcome before record after found running stored shape =>
      obtain ⟨current, isCurrent, created, isFirst, isCreated, started⟩ := holds
      rw [found] at isCurrent
      cases isCurrent
      refine ⟨record, rfl, stored, ?_⟩
      rcases shape with ⟨output, shape⟩ | ⟨error, shape⟩
      · rw [started] at shape
        exact Or.inl ⟨created, output, isFirst, isCreated, shape⟩
      · rw [started] at shape
        exact Or.inr ⟨created, error, isFirst, isCreated, shape⟩
  | late outcome notRunning =>
      obtain ⟨record, isCurrent, started⟩ := holds
      exact notRunning record isCurrent (started_running record started)
  | mismatch outcome error other =>
      obtain ⟨record, isCurrent, started⟩ := holds
      exact ((other record isCurrent).1 (started_running record started)).elim
  | fetch record found => exact holds.elim
  | vanished error missing => exact holds.elim
  | _ => exact holds

theorem move_cancelled (record : RunRecord) (move : Move job store phase next after)
    (stored : store.registry.get? job.runId = some record) (isCancelled : record.status = .cancelled)
    (told : phase.Told record) :
    after.registry.get? job.runId = some record ∧ next.Told record := by
  cases move with
  | start before started after found isCreated shape written =>
      rw [stored] at found
      cases found
      rw [isCancelled] at isCreated
      cases isCreated
  | unsaved tracker missing => exact ⟨stored, proceed_told tracker record⟩
  | restore tracker snapshot registry done =>
      refine ⟨?_, proceed_told tracker record⟩
      rcases Registry.restored _ registry snapshot job.runId done with ⟨-, -, before, found, active⟩ | ⟨-, same⟩
      · rw [stored] at found
        cases found
        rw [isCancelled] at active
        cases active
      · rw [same]
        exact stored
  | conclude outcome before ended after found running written shape =>
      rw [stored] at found
      cases found
      rw [isCancelled] at running
      cases running
  | mismatch outcome error other => exact ((other record stored).2 isCancelled).elim
  | fetch current found =>
      rw [stored] at found
      cases found
      exact ⟨stored, rfl⟩
  | vanished error missing =>
      rw [stored] at missing
      cases missing
  | restReturned result => exact ⟨stored, told⟩
  | _ => exact ⟨stored, trivial⟩

end Execution

section Calls

variable {job : Job} {first : Option RunRecord} {situation : Situation}

def cancelledRecord (before : RunRecord) (reason : Option String) (now : Timestamp) : RunRecord :=
  { before with
    status := .cancelled
    error := (reason.map (RunError.mk .runCancelled)).or before.error
    updatedAt := now }

theorem undisturbed_cancelled (phase : Phase) (before : RunRecord) (reason : Option String) (now : Timestamp)
    (active : before.status = .created ∨ before.status = .running)
    (holds : phase.Undisturbed first (some before)) :
    CancelledFrom first reason (cancelledRecord before reason now) ∧
      phase.Told (cancelledRecord before reason now) := by
  have same (isFirst : some before = first) : CancelledFrom first reason (cancelledRecord before reason now) :=
    ⟨before, isFirst.symm, active, rfl⟩
  have started (holds : ∃ record, some before = some record ∧ StartedFrom first record) :
      CancelledFrom first reason (cancelledRecord before reason now) := by
    obtain ⟨record, isBefore, created, isFirst, isCreated, shape⟩ := holds
    cases isBefore
    rw [shape]
    exact ⟨created, isFirst, Or.inl isCreated, rfl⟩
  cases phase with
  | idle => exact ⟨same holds, trivial⟩
  | refused error => exact ⟨same holds, trivial⟩
  | fetching => exact holds.elim
  | returned result =>
      obtain ⟨record, -, isBefore, ended⟩ := holds
      cases isBefore
      rcases ended with ⟨created, output, -, -, shape⟩ | ⟨created, error, -, -, shape⟩ <;>
        rw [shape] at active <;> simp at active
  | _ => exact ⟨started holds, trivial⟩

theorem sound_congr (other : Situation) (sound : Sound job first situation)
    (phase : other.phase = situation.phase) (registry : other.store.registry = situation.store.registry)
    (checkpoints : other.store.checkpoints = situation.store.checkpoints)
    (calls : ∀ call, (other.calls call).won? = (situation.calls call).won?) : Sound job first other := by
  have won (call : Nat) (reason : Option String) (record : RunRecord) :
      other.Won call reason record = situation.Won call reason record := by
    rw [Situation.Won, Situation.Won, calls]
  have stored : job.stored other = job.stored situation := by rw [Job.stored, Job.stored, registry]
  have checkpoint : job.checkpoint other = job.checkpoint situation := by
    rw [Job.checkpoint, Job.checkpoint, checkpoints]
  constructor
  · rw [phase, checkpoint]
    exact sound.backed
  · simp only [won, phase]
    exact sound.refusal
  · cases sound.standing with
    | undisturbed nobody holds =>
        refine .undisturbed ?_ (by rwa [phase, stored])
        simpa only [won] using nobody
    | cancelled call reason record isWon only isStored shape told =>
        refine .cancelled call reason record (by rwa [won]) ?_ (by rwa [stored]) shape (by rwa [phase])
        simpa only [won] using only

theorem cancelled_denies (before record : RunRecord) (reason : Option String)
    (active : before.status = .created ∨ before.status = .running)
    (shape : CancelledFrom first reason record) : before ≠ record := by
  rintro rfl
  obtain ⟨other, -, -, isRecord⟩ := shape
  rw [isRecord] at active
  simp at active

-- A call that begins either finds the run ended, or is the first to end it.
theorem cancel_begins_sound (call : Nat) (reason : Option String) (sound : Sound job first situation)
    (waiting : situation.calls call = .waiting) :
    Sound job first (job.step situation (.cancel call reason)) := by
  simp only [Job.step, waiting, Job.cancelStep]
  cases made : situation.store.change (·.cancel job.runId reason) with
  | mk result after =>
      cases result with
      | error error =>
          have same := Store.cancel_denied _ after job.runId reason error made
          refine sound_congr _ sound rfl (by rw [same]) (by rw [same]) fun other => ?_
          by_cases isCall : other = call
          · simp [isCall, waiting, CancelCall.won?]
          · simp [isCall]
      | ok record =>
          obtain ⟨before, found, active, shape, written⟩ :=
            Store.cancel_made _ after job.runId reason record made
          have kept := (Store.change_made _ after record _ made).2.1
          have isStored : job.stored situation = some before := found
          have isShape : record = cancelledRecord before reason record.updatedAt := shape
          cases sound.standing with
          | cancelled other otherReason otherRecord won only stored otherShape told =>
              rw [isStored] at stored
              exact (cancelled_denies before otherRecord otherReason active otherShape
                (Option.some.inj stored)).elim
          | undisturbed nobody holds =>
              rw [isStored] at holds
              obtain ⟨from_, told⟩ :=
                undisturbed_cancelled situation.phase before reason record.updatedAt active holds
              rw [← isShape] at from_ told
              refine ⟨?_, ?_, .cancelled call reason record ?_ ?_ written from_ told⟩
              · have checkpoint := sound.backed
                rw [Job.checkpoint] at checkpoint ⊢
                rwa [kept]
              · intro error refused
                refine Or.inl ⟨call, reason, record, ?_⟩
                simp [Situation.Won, CancelCall.won?]
              · simp [Situation.Won, CancelCall.won?]
              · intro other otherReason otherRecord won
                by_cases isCall : other = call
                · exact isCall
                · refine (nobody other otherReason otherRecord ?_).elim
                  simpa [Situation.Won, isCall] using won

theorem signal_keeps (store : Store) (runId : String) :
    (store.signal runId).registry = store.registry ∧
      (store.signal runId).checkpoints = store.checkpoints := by
  unfold Store.signal
  split <;> exact ⟨rfl, rfl⟩

theorem cancel_sound (call : Nat) (reason : Option String) (sound : Sound job first situation) :
    Sound job first (job.step situation (.cancel call reason)) := by
  cases state : situation.calls call with
  | waiting => exact cancel_begins_sound call reason sound state
  | signalling made record =>
      obtain ⟨registry, checkpoints⟩ := signal_keeps situation.store job.runId
      simp only [Job.step, state, Job.cancelStep]
      refine sound_congr _ sound rfl registry checkpoints fun other => ?_
      by_cases isCall : other = call
      · simp [isCall, state, CancelCall.won?]
      · simp [isCall]
  | returned made result =>
      simp only [Job.step, state, Job.cancelStep]
      refine sound_congr _ sound rfl rfl rfl fun other => ?_
      by_cases isCall : other = call
      · simp [isCall, state]
      · simp [isCall]

end Calls

section Runs

variable {job : Job} {first : Option RunRecord} {situation : Situation}

theorem cancelled_status (reason : Option String) (record : RunRecord)
    (shape : CancelledFrom first reason record) : record.status = .cancelled := by
  obtain ⟨active, -, -, isRecord⟩ := shape
  rw [isRecord]

theorem move_refused (store after : Store) (phase next : Phase) (error : RegistryError)
    (move : Move job store phase next after) (refused : next = .refused error) :
    phase = .refused error ∨
      phase = .idle ∧ ∀ before, store.registry.get? job.runId = some before → before.status ≠ .created := by
  cases move with
  | refuse other denied => exact Or.inr ⟨rfl, denied⟩
  | restRefused other => exact Or.inl refused
  | unsaved tracker missing => exact (proceed_not_refused job tracker error refused).elim
  | restore tracker snapshot registry done => exact (proceed_not_refused job tracker error refused).elim
  | _ => cases refused

theorem execution_sound (answer : Option ExecutionResponse) (sound : Sound job first situation) :
    Sound job first (job.step situation (.execution answer)) := by
  have move := advance_moves job answer situation.store situation.phase
  have startable : situation.phase = .idle → ∀ record, job.stored situation = some record →
      record.status = .created → first = some record := by
    intro idle record stored isCreated
    cases sound.standing with
    | undisturbed nobody holds =>
        rw [idle] at holds
        have isFirst : job.stored situation = first := holds
        rw [← isFirst, stored]
    | cancelled call reason other won only isOther shape told =>
        rw [stored] at isOther
        cases isOther
        rw [cancelled_status reason record shape] at isCreated
        cases isCreated
  refine ⟨move_backed move sound.backed startable, ?_, ?_⟩
  · intro error refused
    rcases move_refused _ _ _ _ error move refused with before | ⟨idle, denied⟩
    · exact sound.refusal error before
    · cases sound.standing with
      | undisturbed nobody holds =>
          rw [idle] at holds
          have isFirst : job.stored situation = first := holds
          exact Or.inr fun record found => denied record (isFirst.trans found)
      | cancelled call reason record won only stored shape told => exact Or.inl ⟨call, reason, record, won⟩
  · cases sound.standing with
    | undisturbed nobody holds => exact .undisturbed nobody (move_undisturbed move sound.backed holds)
    | cancelled call reason record won only stored shape told =>
        obtain ⟨kept, toldNext⟩ :=
          move_cancelled record move stored (cancelled_status reason record shape) told
        exact .cancelled call reason record won only kept shape toldNext

theorem step_sound (event : Event) (sound : Sound job first situation) :
    Sound job first (job.step situation event) := by
  cases event with
  | execution answer => exact execution_sound answer sound
  | cancel call reason => exact cancel_sound call reason sound

theorem run_sound (schedule : List Event) (sound : Sound job first situation) :
    Sound job first (job.run situation schedule) := by
  induction schedule generalizing situation with
  | nil => exact sound
  | cons event rest ih => exact ih (step_sound event sound)

theorem initial_sound (job : Job) (store : Store) :
    Sound job (store.registry.get? job.runId) (Situation.initial store) := by
  have nobody (call : Nat) (reason : Option String) (record : RunRecord) :
      ¬ (Situation.initial store).Won call reason record := by
    simp [Situation.Won, Situation.initial, CancelCall.won?]
  refine ⟨trivial, ?_, .undisturbed nobody rfl⟩
  intro error refused
  cases refused

theorem step_won (event : Event) (call : Nat) (reason : Option String) (record : RunRecord)
    (won : situation.Won call reason record) : (job.step situation event).Won call reason record := by
  cases event with
  | execution answer => exact won
  | cancel other otherReason =>
      simp only [Situation.Won, Job.step] at won ⊢
      by_cases isCall : call = other
      · subst isCall
        cases state : situation.calls call with
        | waiting => simp [state, CancelCall.won?] at won
        | signalling made left => simpa [state, Job.cancelStep, CancelCall.won?] using won
        | returned made result => simpa [state, Job.cancelStep] using won
      · simpa [isCall] using won

theorem run_won (schedule : List Event) (call : Nat) (reason : Option String) (record : RunRecord)
    (won : situation.Won call reason record) : (job.run situation schedule).Won call reason record := by
  induction schedule generalizing situation with
  | nil => exact won
  | cons event rest ih => exact ih (step_won event call reason record won)

theorem sound_winner (sound : Sound job first situation) (call : Nat) (reason : Option String)
    (record : RunRecord) (won : situation.Won call reason record) :
    (∀ other otherReason otherRecord, situation.Won other otherReason otherRecord → other = call) ∧
      job.stored situation = some record ∧ CancelledFrom first reason record ∧ situation.phase.Told record := by
  cases sound.standing with
  | undisturbed nobody holds => exact (nobody call reason record won).elim
  | cancelled winner winnerReason winnerRecord winnerWon only stored shape told =>
      have same := only call reason record won
      subst same
      have data : some (reason, record) = some (winnerReason, winnerRecord) := won.symm.trans winnerWon
      cases data
      exact ⟨only, stored, shape, told⟩

theorem sound_undisturbed (sound : Sound job first situation)
    (nobody : ∀ call reason record, ¬ situation.Won call reason record) :
    situation.phase.Undisturbed first (job.stored situation) := by
  cases sound.standing with
  | undisturbed _ holds => exact holds
  | cancelled call reason record won only stored shape told => exact (nobody call reason record won).elim

end Runs

def Job.reach (job : Job) (store : Store) (schedule : List Event) : Situation :=
  job.run (Situation.initial store) schedule

structure CancellationKept (job : Job) (store : Store) (schedule : List Event) : Prop where
  -- at most one call cancels the run
  single : ∀ call other reason otherReason record otherRecord,
    (job.reach store schedule).Won call reason record →
      (job.reach store schedule).Won other otherReason otherRecord → call = other
  -- it leaves its own error with the run, which is as it was in all else
  shape : ∀ call reason record, (job.reach store schedule).Won call reason record →
    CancelledFrom (store.registry.get? job.runId) reason record
  -- whatever is done later, the run stays as the call left it
  kept : ∀ call reason record, (job.reach store schedule).Won call reason record → ∀ later,
    job.stored (job.reach store (schedule ++ later)) = some record
  -- the execution returns what the call left
  told : ∀ call reason record, (job.reach store schedule).Won call reason record → ∀ later result,
    (job.reach store (schedule ++ later)).phase = .returned result → result = .ok record
  -- without a cancellation it returns a run that it completed or failed
  otherwise : (∀ call reason record, ¬ (job.reach store schedule).Won call reason record) → ∀ result,
    (job.reach store schedule).phase = .returned result →
      ∃ record, result = .ok record ∧ job.stored (job.reach store schedule) = some record ∧
        (CompletedFrom (store.registry.get? job.runId) record ∨
          FailedFrom (store.registry.get? job.runId) record)
  -- it is refused only after a cancellation, or when the run was not to be started at all
  refused : ∀ error, (job.reach store schedule).phase = .refused error →
    (∃ call reason record, (job.reach store schedule).Won call reason record) ∨
      ∀ record, store.registry.get? job.runId = some record → record.status ≠ .created
  -- its first operation starts it or is refused, and its budget bounds the number of those that follow
  begun : 0 < schedule.countP Event.isExecution → (job.reach store schedule).phase ≠ .idle
  ends : 5 * job.params.maxIterations.toNat + 8 ≤ schedule.countP Event.isExecution →
    (job.reach store schedule).phase.isOver = true
  started : (job.reach store schedule).phase.isStarted = true → ∀ later,
    5 * job.params.maxIterations.toNat + 8 ≤ (schedule ++ later).countP Event.isExecution →
      ∃ result, (job.reach store (schedule ++ later)).phase = .returned result
  -- so, once started, it does return what the call left
  stopped : ∀ call reason record, (job.reach store schedule).Won call reason record →
    (job.reach store schedule).phase.isStarted = true → ∀ later,
      5 * job.params.maxIterations.toNat + 8 ≤ (schedule ++ later).countP Event.isExecution →
        (job.reach store (schedule ++ later)).phase = .returned (.ok record)
  -- and without a cancellation it does complete or fail a run that was there to be started
  executed : ∀ created, store.registry.get? job.runId = some created → created.status = .created →
    (∀ call reason record, ¬ (job.reach store schedule).Won call reason record) →
      5 * job.params.maxIterations.toNat + 8 ≤ schedule.countP Event.isExecution →
        ∃ record, (job.reach store schedule).phase = .returned (.ok record) ∧
          job.stored (job.reach store schedule) = some record ∧
          (CompletedFrom (some created) record ∨ FailedFrom (some created) record)
  -- a call whose first operation finds the run still active does cancel it
  effective : ∀ call reason before, (job.reach store schedule).calls call = .waiting →
    job.stored (job.reach store schedule) = some before → (before.status = .created ∨ before.status = .running) →
      ∃ record, (job.reach store (schedule ++ [.cancel call reason])).Won call reason record
  -- every call returns after two operations, and the one that cancelled the run returns its record
  calls : ∀ call, 2 ≤ schedule.countP (Event.isOf call) →
    ∃ reason result, (job.reach store schedule).calls call = .returned reason result ∧
      ∀ wonReason record, (job.reach store schedule).Won call wonReason record → result = .ok record

theorem active_run_cancelled (job : Job) (situation : Situation) (call : Nat) (reason : Option String)
    (before : RunRecord) (waiting : situation.calls call = .waiting) (found : job.stored situation = some before)
    (active : before.status = .created ∨ before.status = .running) :
    ∃ record, (job.step situation (.cancel call reason)).Won call reason record := by
  obtain ⟨record, after, made⟩ := Store.cancel_active situation.store job.runId reason before found active
  refine ⟨record, ?_⟩
  simp [Situation.Won, Job.step, waiting, Job.cancelStep, made, CancelCall.won?]

theorem over_returned (phase : Phase) (isOver : phase.isOver = true) (accepted : ∀ error, phase ≠ .refused error) :
    ∃ result, phase = .returned result := by
  cases phase with
  | returned result => exact ⟨result, rfl⟩
  | refused error => exact absurd rfl (accepted error)
  | _ => cases isOver

section Reach

variable {job : Job} {store : Store} {schedule : List Event}

theorem reach_onward (job : Job) (store : Store) (schedule later : List Event) :
    job.reach store (schedule ++ later) = job.run (job.reach store schedule) later :=
  List.foldl_append

theorem reach_sound (job : Job) (store : Store) (schedule : List Event) :
    Sound job (store.registry.get? job.runId) (job.reach store schedule) :=
  run_sound schedule (initial_sound job store)

theorem reach_won {call : Nat} {reason : Option String} {record : RunRecord}
    (won : (job.reach store schedule).Won call reason record) (later : List Event) :
    (job.reach store (schedule ++ later)).Won call reason record := by
  rw [reach_onward]
  exact run_won later call reason record won

theorem reach_told {call : Nat} {reason : Option String} {record : RunRecord}
    (won : (job.reach store schedule).Won call reason record) (later : List Event)
    {result : Except RegistryError RunRecord}
    (returned : (job.reach store (schedule ++ later)).phase = .returned result) : result = .ok record := by
  have told := (sound_winner (reach_sound job store _) call reason record (reach_won won later)).2.2.2
  rw [returned] at told
  exact told

theorem reach_ends (enough : 5 * job.params.maxIterations.toNat + 8 ≤ schedule.countP Event.isExecution) :
    (job.reach store schedule).phase.isOver = true :=
  run_ends job (Situation.initial store) schedule enough

theorem reach_returns (isStarted : (job.reach store schedule).phase.isStarted = true) (later : List Event)
    (enough : 5 * job.params.maxIterations.toNat + 8 ≤ (schedule ++ later).countP Event.isExecution) :
    ∃ result, (job.reach store (schedule ++ later)).phase = .returned result := by
  have stillStarted : (job.reach store (schedule ++ later)).phase.isStarted = true := by
    rw [reach_onward]
    exact run_started job _ later isStarted
  refine over_returned _ (reach_ends enough) fun error refused => ?_
  rw [refused] at stillStarted
  cases stillStarted

-- While no call has cancelled a run that was there to be started, its execution is not refused.
theorem reach_accepted {created : RunRecord} (found : store.registry.get? job.runId = some created)
    (isCreated : created.status = .created)
    (nobody : ∀ call reason record, ¬ (job.reach store schedule).Won call reason record) (error : RegistryError) :
    (job.reach store schedule).phase ≠ .refused error := by
  intro refused
  rcases (reach_sound job store schedule).refusal error refused with ⟨call, reason, record, won⟩ | denied
  · exact nobody call reason record won
  · exact denied created found isCreated

theorem reach_concluded (nobody : ∀ call reason record, ¬ (job.reach store schedule).Won call reason record)
    {result : Except RegistryError RunRecord} (returned : (job.reach store schedule).phase = .returned result) :
    ∃ record, result = .ok record ∧ job.stored (job.reach store schedule) = some record ∧
      (CompletedFrom (store.registry.get? job.runId) record ∨
        FailedFrom (store.registry.get? job.runId) record) := by
  have holds := sound_undisturbed (reach_sound job store schedule) nobody
  rw [returned] at holds
  exact holds

theorem reach_call_returned (call : Nat) (enough : 2 ≤ schedule.countP (Event.isOf call)) :
    ∃ reason result, (job.reach store schedule).calls call = .returned reason result := by
  have bound : ((job.reach store schedule).calls call).remaining ≤ 2 - schedule.countP (Event.isOf call) :=
    run_call_remaining job (Situation.initial store) schedule call
  have finished : ((job.reach store schedule).calls call).remaining = 0 := by omega
  cases state : (job.reach store schedule).calls call with
  | returned reason result => exact ⟨reason, result, rfl⟩
  | waiting =>
      rw [state] at finished
      cases finished
  | signalling reason record =>
      rw [state] at finished
      cases finished

end Reach

-- A cancellation is neither lost nor undone, in whatever order an execution and any number of calls make
-- their operations.
theorem cancellation_is_never_lost (job : Job) (store : Store) (schedule : List Event) :
    CancellationKept job store schedule := by
  constructor
  case single =>
    intro call other reason otherReason record otherRecord won otherWon
    have winner := sound_winner (reach_sound job store schedule) call reason record won
    exact (winner.1 other otherReason otherRecord otherWon).symm
  case shape =>
    intro call reason record won
    exact (sound_winner (reach_sound job store schedule) call reason record won).2.2.1
  case kept =>
    intro call reason record won later
    exact (sound_winner (reach_sound job store _) call reason record (reach_won won later)).2.1
  case told => exact fun call reason record won later result returned => reach_told won later returned
  case otherwise => exact fun nobody result returned => reach_concluded nobody returned
  case refused => exact (reach_sound job store schedule).refusal
  case begun => exact fun acted => run_begun job (Situation.initial store) schedule (Or.inr acted)
  case ends => exact reach_ends
  case started => exact reach_returns
  case stopped =>
    intro call reason record won isStarted later enough
    obtain ⟨result, returned⟩ := reach_returns isStarted later enough
    rw [returned, reach_told won later returned]
  case executed =>
    intro created found isCreated nobody enough
    obtain ⟨result, returned⟩ := over_returned _ (reach_ends enough) (reach_accepted found isCreated nobody)
    obtain ⟨record, rfl, stored, ended⟩ := reach_concluded nobody returned
    exact ⟨record, returned, stored, found ▸ ended⟩
  case effective =>
    intro call reason before waiting found active
    rw [reach_onward]
    exact active_run_cancelled job _ call reason before waiting found active
  case calls =>
    intro call enough
    obtain ⟨reason, result, returned⟩ := reach_call_returned call enough
    refine ⟨reason, result, returned, ?_⟩
    intro wonReason record won
    rw [Situation.Won, returned] at won
    cases result with
    | error error => cases won
    | ok left =>
        cases won
        rfl

def newRun : RunRecord where
  runId := "run-1"
  agentId := "agent"
  status := .created
  input := none
  output := none
  error := none
  createdAt := ⟨0, 0⟩
  updatedAt := ⟨0, 0⟩

def storeOfNewRun : Store where
  clock := .stopped ⟨0, 0⟩
  registry := ⟨Table.empty.insert newRun.runId newRun, 2⟩

def twoAttempts : Job := ⟨"run-1", false, { maxIterations := 2 }⟩

def timedOut : Event := .execution (some (.failure (.of .timeout "late") ⟨.mock, none, none⟩))

-- A call that comes after the look for a cancellation, and before the checkpoint is restored.
def lateCall : List Event :=
  List.replicate 3 (.execution none) ++ [timedOut, .execution none, .execution none, .cancel 0 (some "stop")]

-- The execution returns the run as the late call left it; without a call it fails the run.
theorem late_call_is_kept :
    let stopped := { newRun with status := .cancelled, error := some ⟨.runCancelled, "stop"⟩ }
    (twoAttempts.reach storeOfNewRun lateCall).Won 0 (some "stop") stopped ∧
      (∀ later, twoAttempts.stored (twoAttempts.reach storeOfNewRun (lateCall ++ later)) = some stopped) ∧
      (twoAttempts.reach storeOfNewRun (lateCall ++ List.replicate 12 timedOut)).phase = .returned (.ok stopped) ∧
      ∃ record, (twoAttempts.reach storeOfNewRun (List.replicate 18 timedOut)).phase = .returned (.ok record) ∧
        (CompletedFrom (some newRun) record ∨ FailedFrom (some newRun) record) := by
  intro stopped
  have late := cancellation_is_never_lost twoAttempts storeOfNewRun lateCall
  have won : (twoAttempts.reach storeOfNewRun lateCall).Won 0 (some "stop") stopped := rfl
  have alone := cancellation_is_never_lost twoAttempts storeOfNewRun (List.replicate 18 timedOut)
  have nobody (call : Nat) (reason : Option String) (record : RunRecord) :
      ¬ (twoAttempts.reach storeOfNewRun (List.replicate 18 timedOut)).Won call reason record := nofun
  obtain ⟨record, returned, -, ended⟩ := alone.executed newRun rfl rfl nobody (by decide)
  exact ⟨won, late.kept 0 _ _ won, late.stopped 0 _ _ won rfl _ (by decide), record, returned, ended⟩

end PlanChain
