import PlanChain.Proofs.Run.Store
import PlanChain.Proofs.Text.Digits
import PlanChain.Run.History

set_option autoImplicit false

namespace PlanChain

namespace RunStatus

theorem is_terminal_iff (status : RunStatus) :
    status.isTerminal = true ↔ status = .completed ∨ status = .failed ∨ status = .cancelled := by
  cases status <;> decide

theorem allows_not_terminal (status next : RunStatus) (allowed : status.allows next = true) :
    status.isTerminal = false := by
  cases status with
  | created => rfl
  | running => rfl
  | completed => cases allowed
  | failed => cases allowed
  | cancelled => cases allowed

end RunStatus

theorem run_id_injective (a b : UInt64) (same : runId a = runId b) : a = b := by
  have numerals := (List.append_right_inj _).mp (String.ofList_injective same)
  exact UInt64.toNat_inj.mp (Text.padded_injective 6 _ _ numerals)

namespace Registry

-- A call that is done writes the record of its run, which is a new one or has not ended.
structure Writes (registry : Registry) (call : RegistryCall) (record : RunRecord) (after : Registry) :
    Prop where
  records : after.records = registry.records.insert (call.target registry) record
  next : after.nextSequence = if call.isCreate then registry.nextSequence + 1 else registry.nextSequence
  active : call.isCreate = false →
    ∃ old, registry.get? (call.target registry) = some old ∧ old.status.isTerminal = false
  ended : call.ends?.isSome = true → record.status.isTerminal = true

theorem transition_writes (registry after : Registry) (runId : String) (status : RunStatus)
    (change : RunRecord → RunRecord) (now : Timestamp) (record : RunRecord)
    (made : registry.transition runId status change now = .ok (record, after)) :
    record.status = status ∧ after = { registry with records := registry.records.insert runId record } ∧
      ∃ old, registry.get? runId = some old ∧ old.status.isTerminal = false := by
  unfold transition at made
  cases found : registry.get? runId with
  | none => simp [found] at made
  | some old =>
      by_cases allowed : old.status.allows status = true
      · simp only [found, if_pos allowed, Except.ok.injEq, Prod.mk.injEq] at made
        obtain ⟨rfl, rfl⟩ := made
        exact ⟨rfl, rfl, old, rfl, RunStatus.allows_not_terminal old.status status allowed⟩
      · simp [found, allowed] at made

def Performs (registry : Registry) (call : RegistryCall) (made : RegistryAnswer × Registry) : Prop :=
  ((∀ record, made.1 ≠ .done record) ∧ made.2 = registry) ∨
    ∃ record, made.1 = .done record ∧ registry.Writes call record made.2

theorem answer_performs (registry : Registry) (call : RegistryCall) (status : RunStatus)
    (change : RunRecord → RunRecord) (now : Timestamp) (oldRun : call.isCreate = false)
    (ending : call.ends?.isSome = true → status.isTerminal = true) :
    registry.Performs call (registry.answer (registry.transition (call.target registry) status change now)) := by
  cases moved : registry.transition (call.target registry) status change now with
  | error error => exact Or.inl ⟨by simp [answer], rfl⟩
  | ok result =>
      obtain ⟨record, after⟩ := result
      obtain ⟨isStatus, rfl, active⟩ := transition_writes registry _ _ _ _ _ _ moved
      refine Or.inr ⟨record, rfl, rfl, by simp [oldRun, answer], fun _ => active, fun isEnding => ?_⟩
      rw [isStatus]
      exact ending isEnding

theorem restore_writes (registry after : Registry) (snapshot : RunRecord)
    (done : registry.restore? snapshot = some after) :
    registry.Writes (.restore snapshot) snapshot after := by
  unfold restore? at done
  cases found : registry.get? snapshot.runId with
  | none => simp [found] at done
  | some old =>
      by_cases ended : old.status.isTerminal = true
      · simp [found, ended] at done
      · simp only [found, if_neg ended, Option.some.injEq] at done
        subst done
        exact ⟨rfl, rfl, fun _ => ⟨old, found, Bool.not_eq_true _ ▸ ended⟩, by simp [RegistryCall.ends?]⟩

theorem call_performs (registry : Registry) (call : RegistryCall) :
    registry.Performs call (registry.perform call) := by
  cases call with
  | create request now =>
      exact Or.inr ⟨_, rfl, rfl, rfl, by simp [RegistryCall.isCreate], by simp [RegistryCall.ends?]⟩
  | start runId now =>
      exact answer_performs registry (.start runId now) .running _ now rfl (by simp [RegistryCall.ends?])
  | complete runId output now =>
      exact answer_performs registry (.complete runId output now) .completed _ now rfl fun _ => rfl
  | fail runId error now =>
      exact answer_performs registry (.fail runId error now) .failed _ now rfl fun _ => rfl
  | cancel runId reason now =>
      exact answer_performs registry (.cancel runId reason now) .cancelled _ now rfl fun _ => rfl
  | restore snapshot =>
      dsimp only [perform]
      cases done : registry.restore? snapshot with
      | none => exact Or.inl ⟨by simp, rfl⟩
      | some after => exact Or.inr ⟨snapshot, rfl, restore_writes registry after snapshot done⟩

theorem writes_target (registry after : Registry) (call : RegistryCall) (record : RunRecord)
    (writes : registry.Writes call record after) : after.get? (call.target registry) = some record := by
  simp [get?, writes.records]

theorem writes_elsewhere (registry after : Registry) (call : RegistryCall) (record : RunRecord)
    (writes : registry.Writes call record after) (id : String) (different : id ≠ call.target registry) :
    after.get? id = registry.get? id := by
  simp [get?, writes.records, different]

structure Numbered (registry : Registry) (count : Nat) : Prop where
  next : registry.nextSequence = UInt64.ofNat (count + 1)
  given : ∀ id record, registry.get? id = some record →
    ∃ number, number < count ∧ id = runId (UInt64.ofNat (number + 1))

theorem empty_numbered : Numbered .empty 0 :=
  ⟨rfl, fun id record found => by simp [get?, empty] at found⟩

theorem numbered_step (registry : Registry) (call : RegistryCall) (count : Nat)
    (numbered : registry.Numbered count) :
    (registry.perform call).2.Numbered (if call.isCreate then count + 1 else count) := by
  rcases call_performs registry call with ⟨notDone, same⟩ | ⟨record, -, writes⟩
  · have notCreate : call.isCreate = false := by
      cases call with
      | create request now => exact (notDone _ rfl).elim
      | _ => rfl
    rw [same, notCreate]
    exact numbered
  · constructor
    · rw [writes.next, numbered.next]
      by_cases isCreate : call.isCreate = true <;> simp [isCreate]
    · intro id other found
      by_cases own : id = call.target registry
      · by_cases isCreate : call.isCreate = true
        · refine ⟨count, by simp [isCreate], ?_⟩
          cases call with
          | create request now => rw [own, RegistryCall.target, numbered.next]
          | _ => cases isCreate
        · have notCreate := Bool.not_eq_true _ ▸ isCreate
          obtain ⟨old, oldFound, -⟩ := writes.active notCreate
          obtain ⟨number, below, same⟩ := numbered.given id old (own ▸ oldFound)
          exact ⟨number, by simp [notCreate, below], same⟩
      · rw [writes_elsewhere registry _ call record writes id own] at found
        obtain ⟨number, below, same⟩ := numbered.given id other found
        refine ⟨number, ?_, same⟩
        by_cases isCreate : call.isCreate = true <;> simp [isCreate] <;> omega

theorem numbered_fresh (registry : Registry) (count : Nat) (numbered : registry.Numbered count)
    (room : count < UInt64.size) : registry.get? (runId registry.nextSequence) = none := by
  cases found : registry.get? (runId registry.nextSequence) with
  | none => rfl
  | some record =>
      obtain ⟨number, below, same⟩ := numbered.given _ record found
      have words := run_id_injective _ _ same
      rw [numbered.next] at words
      have numbers := congrArg UInt64.toNat words
      simp only [UInt64.toNat_ofNat'] at numbers
      simp only [UInt64.size] at room
      omega

section History

variable (calls : List RegistryCall)

theorem before_next (place : Nat) (call : RegistryCall) (made : calls[place]? = some call) :
    before calls (place + 1) = ((before calls place).perform call).2 := by
  simp [before, after, List.take_add_one, made]

theorem before_past (place : Nat) (past : calls[place]? = none) :
    before calls (place + 1) = before calls place := by
  simp [before, List.take_add_one, past]

theorem before_numbered (place : Nat) :
    (before calls place).Numbered ((calls.take place).countP RegistryCall.isCreate) := by
  induction place with
  | zero => exact empty_numbered
  | succ place ih =>
      cases made : calls[place]? with
      | none =>
          rw [before_past calls place made]
          simpa [List.take_add_one, made] using ih
      | some call =>
          rw [before_next calls place call made]
          have stepped := numbered_step (before calls place) call _ ih
          by_cases isCreate : call.isCreate = true <;>
            simpa [List.take_add_one, made, List.countP_append, isCreate] using stepped

theorem created_fresh (room : calls.countP RegistryCall.isCreate ≤ UInt64.size) (place : Nat)
    (call : RegistryCall) (made : calls[place]? = some call) (isCreate : call.isCreate = true) :
    (before calls place).get? (call.target (before calls place)) = none := by
  have counted : (calls.take (place + 1)).countP RegistryCall.isCreate =
      (calls.take place).countP RegistryCall.isCreate + 1 := by
    simp [List.take_add_one, made, List.countP_append, isCreate]
  have within := (List.take_sublist (place + 1) calls).countP_le (p := RegistryCall.isCreate)
  have fresh := numbered_fresh _ _ (before_numbered calls place) (by omega)
  cases call with
  | create request now => exact fresh
  | _ => cases isCreate

def Creates (id : String) (place : Nat) : Prop :=
  ∃ call, calls[place]? = some call ∧ call.isCreate = true ∧ call.target (before calls place) = id

theorem stored_not_created (room : calls.countP RegistryCall.isCreate ≤ UInt64.size) (place : Nat) (id : String)
    (record : RunRecord) (stored : (before calls place).get? id = some record) : ¬ Creates calls id place := by
  intro creates
  obtain ⟨call, made, isCreate, own⟩ := creates
  have fresh := created_fresh calls room place call made isCreate
  simp [own, stored] at fresh

theorem frozen_step (place : Nat) (id : String) (record : RunRecord)
    (stored : (before calls place).get? id = some record) (ended : record.status.isTerminal = true)
    (kept : ¬ Creates calls id place) : (before calls (place + 1)).get? id = some record := by
  cases made : calls[place]? with
  | none => rw [before_past calls place made, stored]
  | some call =>
      rw [before_next calls place call made]
      rcases call_performs (before calls place) call with ⟨-, same⟩ | ⟨written, -, writes⟩
      · rw [same, stored]
      · have elsewhere : id ≠ call.target (before calls place) := by
          intro own
          by_cases isCreate : call.isCreate = true
          · exact kept ⟨call, made, isCreate, own.symm⟩
          · obtain ⟨old, found, active⟩ := writes.active (Bool.not_eq_true _ ▸ isCreate)
            rw [← own, stored] at found
            cases found
            simp [ended] at active
        rw [writes_elsewhere _ _ call written writes id elsewhere, stored]

theorem frozen_run (place later : Nat) (follows : place ≤ later) (id : String) (record : RunRecord)
    (stored : (before calls place).get? id = some record) (ended : record.status.isTerminal = true)
    (kept : ∀ spot, place ≤ spot → spot < later → (before calls spot).get? id = some record →
      ¬ Creates calls id spot) : (before calls later).get? id = some record := by
  induction follows with
  | refl => exact stored
  | @step later follows ih =>
      have storedYet := ih fun spot reached upTo => kept spot reached (Nat.lt_succ_of_lt upTo)
      exact frozen_step calls later id record storedYet ended (kept later follows (Nat.lt_succ_self later) storedYet)

def Ends (place : Nat) (id : String) (record : RunRecord) : Prop :=
  ∃ call, calls[place]? = some call ∧ call.ends? = some id ∧
    ((before calls place).perform call).1 = .done record

theorem ending_target (registry : Registry) (call : RegistryCall) (id : String)
    (ending : call.ends? = some id) : call.target registry = id ∧ call.isCreate = false := by
  cases call with
  | complete runId output now => exact ⟨Option.some.inj ending, rfl⟩
  | fail runId error now => exact ⟨Option.some.inj ending, rfl⟩
  | cancel runId reason now => exact ⟨Option.some.inj ending, rfl⟩
  | _ => cases ending

theorem ends_active (place : Nat) (id : String) (record : RunRecord) (ends : Ends calls place id record) :
    (∃ old, (before calls place).get? id = some old ∧ old.status.isTerminal = false) ∧
      (before calls (place + 1)).get? id = some record ∧ record.status.isTerminal = true := by
  obtain ⟨call, made, ending, answered⟩ := ends
  obtain ⟨own, notCreate⟩ := ending_target (before calls place) call id ending
  rw [before_next calls place call made]
  rcases call_performs (before calls place) call with ⟨notDone, -⟩ | ⟨written, done, writes⟩
  · exact (notDone record answered).elim
  · rw [answered] at done
    cases done
    have stored := writes_target _ _ call record writes
    have active := writes.active notCreate
    rw [own] at stored active
    exact ⟨active, stored, writes.ended (by simp [ending])⟩

-- A run ends again only after its id has been given to another one.
theorem ends_again (first second : Nat) (id : String) (record other : RunRecord)
    (ends : Ends calls first id record) (again : Ends calls second id other) (follows : first < second) :
    ∃ spot, first < spot ∧ spot < second ∧ (before calls spot).get? id = some record ∧ Creates calls id spot := by
  obtain ⟨-, stored, ended⟩ := ends_active calls first id record ends
  obtain ⟨⟨old, found, active⟩, -⟩ := ends_active calls second id other again
  refine Classical.byContradiction fun never => ?_
  have storedYet := frozen_run calls (first + 1) second follows id record stored ended
    fun spot reached upTo storedThen creates => never ⟨spot, reached, upTo, storedThen, creates⟩
  rw [storedYet] at found
  cases found
  simp [ended] at active

structure ChangesOwnRun : Prop where
  refused : ∀ place call, calls[place]? = some call →
    (∀ record, ((before calls place).perform call).1 ≠ .done record) →
      before calls (place + 1) = before calls place
  own : ∀ place call record, calls[place]? = some call →
    ((before calls place).perform call).1 = .done record →
      (before calls (place + 1)).get? (call.target (before calls place)) = some record ∧
        ∀ id, id ≠ call.target (before calls place) →
          (before calls (place + 1)).get? id = (before calls place).get? id

structure EndsUntilReissued : Prop where
  frozen : ∀ place later id record, place ≤ later → (before calls place).get? id = some record →
    (record.status = .completed ∨ record.status = .failed ∨ record.status = .cancelled) →
      (∀ spot, place ≤ spot → spot < later → ¬ Creates calls id spot) →
        (before calls later).get? id = some record
  once : ∀ first second id record other, Ends calls first id record → Ends calls second id other →
    first < second → ∃ spot, first < spot ∧ spot < second ∧ Creates calls id spot

structure EndsOnce : Prop where
  frozen : ∀ place later id record, place ≤ later → (before calls place).get? id = some record →
    (record.status = .completed ∨ record.status = .failed ∨ record.status = .cancelled) →
      (before calls later).get? id = some record
  once : ∀ first second id record other, Ends calls first id record → Ends calls second id other →
    first = second
  kept : ∀ place later id record, place < later → Ends calls place id record →
    (before calls later).get? id = some record

theorem changes_own_run : ChangesOwnRun calls := by
  constructor
  case refused =>
    intro place call made notDone
    rw [before_next calls place call made]
    rcases call_performs (before calls place) call with ⟨-, same⟩ | ⟨record, done, -⟩
    · exact same
    · exact (notDone record done).elim
  case own =>
    intro place call record made answered
    rw [before_next calls place call made]
    rcases call_performs (before calls place) call with ⟨notDone, -⟩ | ⟨written, done, writes⟩
    · exact (notDone record answered).elim
    · rw [answered] at done
      cases done
      exact ⟨writes_target _ _ call record writes, writes_elsewhere _ _ call record writes⟩

theorem ends_until_reissued : EndsUntilReissued calls := by
  constructor
  case frozen =>
    intro place later id record follows stored ended kept
    exact frozen_run calls place later follows id record stored
      ((RunStatus.is_terminal_iff record.status).mpr ended) fun spot reached upTo _ => kept spot reached upTo
  case once =>
    intro first second id record other ends again follows
    obtain ⟨spot, reached, upTo, -, creates⟩ := ends_again calls first second id record other ends again follows
    exact ⟨spot, reached, upTo, creates⟩

theorem ends_once (room : calls.countP RegistryCall.isCreate ≤ UInt64.size) : EndsOnce calls := by
  have kept (place later : Nat) (follows : place ≤ later) (id : String) (record : RunRecord)
      (stored : (before calls place).get? id = some record) (ended : record.status.isTerminal = true) :
      (before calls later).get? id = some record :=
    frozen_run calls place later follows id record stored ended
      fun spot _ _ => stored_not_created calls room spot id record
  have notAfter (first second : Nat) (id : String) (record other : RunRecord) (ends : Ends calls first id record)
      (again : Ends calls second id other) : ¬ first < second := by
    intro follows
    obtain ⟨spot, -, -, stored, creates⟩ := ends_again calls first second id record other ends again follows
    exact stored_not_created calls room spot id record stored creates
  constructor
  case frozen =>
    intro place later id record follows stored ended
    exact kept place later follows id record stored ((RunStatus.is_terminal_iff record.status).mpr ended)
  case once =>
    intro first second id record other ends again
    have notBefore := notAfter first second id record other ends again
    have notBehind := notAfter second first id other record again ends
    omega
  case kept =>
    intro place later id record follows ends
    obtain ⟨-, stored, ended⟩ := ends_active calls place id record ends
    exact kept (place + 1) later follows id record stored ended

-- A call changes the record of its own run or nothing. Whatever is restored, a run that has ended stays as
-- it is and ends once, until its id is given out anew; and that takes more creations than the counter, a word
-- of 64 bits, can tell apart.
theorem ended_runs_stay_ended :
    ChangesOwnRun calls ∧ EndsUntilReissued calls ∧
      (calls.countP RegistryCall.isCreate ≤ UInt64.size → EndsOnce calls) :=
  ⟨changes_own_run calls, ends_until_reissued calls, ends_once calls⟩

end History

theorem cancelled_run_stays :
    let record : RunRecord := ⟨"run_000001", "agent", .running, none, none, none, ⟨0, 0⟩, ⟨0, 1⟩⟩
    let calls : List RegistryCall := [.create ⟨"agent", none⟩ ⟨0, 0⟩, .start "run_000001" ⟨0, 1⟩,
      .cancel "run_000001" (some "stop") ⟨0, 2⟩, .restore record, .complete "run_000001" none ⟨0, 3⟩]
    let cancelled := { record with
      status := .cancelled, error := some ⟨.runCancelled, "stop"⟩, updatedAt := ⟨0, 2⟩ }
    Ends calls 2 "run_000001" cancelled ∧ (before calls 5).get? "run_000001" = some cancelled := by
  intro record calls cancelled
  have cancels : Ends calls 2 "run_000001" cancelled := ⟨_, rfl, rfl, by decide +kernel⟩
  exact ⟨cancels, ((ended_runs_stay_ended calls).2.2 (by decide)).kept 2 5 _ _ (by decide) cancels⟩

end Registry

end PlanChain
