import PlanChain.Run.Store

set_option autoImplicit false

namespace PlanChain

namespace RunStatus

theorem allows_running (status : RunStatus) : status.allows .running = true ↔ status = .created := by
  cases status <;> decide

theorem allows_cancelled (status : RunStatus) :
    status.allows .cancelled = true ↔ status = .created ∨ status = .running := by
  cases status <;> decide

theorem allows_ended (status ended : RunStatus) (isEnded : ended = .completed ∨ ended = .failed) :
    status.allows ended = true ↔ status = .running := by
  rcases isEnded with rfl | rfl <;> cases status <;> decide

end RunStatus

namespace Registry

theorem transition_made (registry after : Registry) (runId : String) (status : RunStatus)
    (change : RunRecord → RunRecord) (now : Timestamp) (record : RunRecord)
    (made : registry.transition runId status change now = .ok (record, after)) :
    ∃ before, registry.get? runId = some before ∧ before.status.allows status = true ∧
      record = { change before with status, updatedAt := now } ∧ after.get? runId = some record := by
  unfold transition at made
  cases found : registry.get? runId with
  | none => simp [found] at made
  | some before =>
      rw [found] at made
      dsimp only at made
      by_cases allowed : before.status.allows status = true
      · rw [if_pos allowed] at made
        cases made
        refine ⟨before, rfl, allowed, rfl, ?_⟩
        simp [get?]
      · rw [if_neg allowed] at made
        cases made

theorem transition_denied (registry : Registry) (runId : String) (status : RunStatus)
    (change : RunRecord → RunRecord) (now : Timestamp) (error : RegistryError)
    (denied : registry.transition runId status change now = .error error) :
    (registry.get? runId = none ∧ error = .notFound runId) ∨
      ∃ before, registry.get? runId = some before ∧ before.status.allows status = false ∧
        error = .invalidTransition before.status status := by
  unfold transition at denied
  cases found : registry.get? runId with
  | none =>
      rw [found] at denied
      cases denied
      exact Or.inl ⟨rfl, rfl⟩
  | some before =>
      rw [found] at denied
      dsimp only at denied
      by_cases allowed : before.status.allows status = true
      · rw [if_pos allowed] at denied
        cases denied
      · rw [if_neg allowed] at denied
        cases denied
        exact Or.inr ⟨before, rfl, Bool.not_eq_true _ ▸ allowed, rfl⟩

theorem restored (registry after : Registry) (snapshot : RunRecord) (runId : String)
    (done : registry.restore? snapshot = some after) :
    (snapshot.runId = runId ∧ after.get? runId = some snapshot ∧
        ∃ before, registry.get? runId = some before ∧ before.status.isTerminal = false) ∨
      (snapshot.runId ≠ runId ∧ after.get? runId = registry.get? runId) := by
  unfold restore? at done
  cases found : registry.get? snapshot.runId with
  | none => simp [found] at done
  | some before =>
      rw [found] at done
      dsimp only at done
      by_cases ended : before.status.isTerminal = true
      · rw [if_pos ended] at done
        cases done
      · rw [if_neg ended] at done
        cases done
        by_cases same : snapshot.runId = runId
        · subst same
          refine Or.inl ⟨rfl, ?_, before, found, Bool.not_eq_true _ ▸ ended⟩
          simp [get?]
        · refine Or.inr ⟨same, ?_⟩
          simp [get?, Ne.symm same]

end Registry

namespace Store

theorem change_made (store after : Store) (record : RunRecord)
    (transition : Registry → Timestamp → Except RegistryError (RunRecord × Registry))
    (made : store.change transition = (.ok record, after)) :
    transition store.registry store.clock.now = .ok (record, after.registry) ∧
      after.checkpoints = store.checkpoints ∧ after.cancellations = store.cancellations := by
  unfold change at made
  cases done : transition store.registry store.clock.now with
  | error error => simp [done] at made
  | ok result =>
      rw [done] at made
      cases made
      exact ⟨rfl, rfl, rfl⟩

theorem change_denied (store after : Store) (error : RegistryError)
    (transition : Registry → Timestamp → Except RegistryError (RunRecord × Registry))
    (denied : store.change transition = (.error error, after)) :
    transition store.registry store.clock.now = .error error ∧ after = store := by
  unfold change at denied
  cases done : transition store.registry store.clock.now with
  | error error =>
      rw [done] at denied
      cases denied
      exact ⟨rfl, rfl⟩
  | ok result =>
      rw [done] at denied
      cases denied

theorem start_made (store after : Store) (runId : String) (record : RunRecord)
    (made : store.change (·.start runId) = (.ok record, after)) :
    ∃ before, store.registry.get? runId = some before ∧ before.status = .created ∧
      record = { before with status := .running, updatedAt := record.updatedAt } ∧
      after.registry.get? runId = some record := by
  obtain ⟨done, -⟩ := change_made store after record _ made
  obtain ⟨before, found, allowed, same, stored⟩ := Registry.transition_made _ _ _ _ _ _ _ done
  exact ⟨before, found, (RunStatus.allows_running before.status).mp allowed, by rw [same]; rfl, stored⟩

theorem start_denied (store after : Store) (runId : String) (error : RegistryError)
    (denied : store.change (·.start runId) = (.error error, after)) :
    after = store ∧ ∀ before, store.registry.get? runId = some before → before.status ≠ .created := by
  obtain ⟨done, same⟩ := change_denied store after error _ denied
  refine ⟨same, ?_⟩
  intro before found isCreated
  rcases Registry.transition_denied _ _ _ _ _ _ done with ⟨missing, -⟩ | ⟨other, otherFound, notAllowed, -⟩
  · rw [found] at missing
    cases missing
  · rw [found] at otherFound
    cases otherFound
    rw [isCreated] at notAllowed
    cases notAllowed

theorem begin_denied (store after : Store) (runId : String) (error : RegistryError)
    (denied : store.begin runId = (.error error, after)) (before : RunRecord)
    (found : store.registry.get? runId = some before) : before.status ≠ .created := by
  unfold begin at denied
  cases started : store.change (·.start runId) with
  | mk result left =>
      rw [started] at denied
      cases result with
      | ok record => cases denied
      | error reason => exact (start_denied store left runId reason started).2 before found

theorem cancel_made (store after : Store) (runId : String) (reason : Option String) (record : RunRecord)
    (made : store.change (·.cancel runId reason) = (.ok record, after)) :
    ∃ before, store.registry.get? runId = some before ∧
      (before.status = .created ∨ before.status = .running) ∧
      record = { before with
        status := .cancelled
        error := (reason.map (RunError.mk .runCancelled)).or before.error
        updatedAt := record.updatedAt } ∧
      after.registry.get? runId = some record := by
  obtain ⟨done, -⟩ := change_made store after record _ made
  obtain ⟨before, found, allowed, same, stored⟩ := Registry.transition_made _ _ _ _ _ _ _ done
  refine ⟨before, found, (RunStatus.allows_cancelled before.status).mp allowed, ?_, stored⟩
  rw [same]
  cases reason <;> rfl

theorem cancel_denied (store after : Store) (runId : String) (reason : Option String) (error : RegistryError)
    (denied : store.change (·.cancel runId reason) = (.error error, after)) : after = store :=
  (change_denied store after error _ denied).2

theorem cancel_active (store : Store) (runId : String) (reason : Option String) (before : RunRecord)
    (found : store.registry.get? runId = some before)
    (active : before.status = .created ∨ before.status = .running) :
    ∃ record after, store.change (·.cancel runId reason) = (.ok record, after) := by
  cases made : store.change (·.cancel runId reason) with
  | mk result after =>
      cases result with
      | ok record => exact ⟨record, after, rfl⟩
      | error error =>
          have done := (change_denied store after error _ made).1
          rcases Registry.transition_denied _ _ _ _ _ _ done with ⟨missing, -⟩ | ⟨other, otherFound, notAllowed, -⟩
          · rw [found] at missing
            cases missing
          · rw [found] at otherFound
            cases otherFound
            rw [(RunStatus.allows_cancelled before.status).mpr active] at notAllowed
            cases notAllowed

theorem conclusion_tells (runId : String) (outcome : Option RetryOutcome) :
    (∃ output, conclusion runId outcome = fun registry now => registry.complete runId output now) ∨
      ∃ failure, (conclusion runId outcome = fun registry now =>
          registry.fail runId ⟨failure.code, failure.message⟩ now) ∧
        (failure = Failure.unhandled ∨ ∃ found, outcome = some found ∧ found.verdict.failure? = some failure) := by
  cases outcome with
  | none => exact Or.inr ⟨_, rfl, Or.inl rfl⟩
  | some found =>
      obtain ⟨verdict, iterations, schedule⟩ := found
      cases verdict with
      | completed response => exact Or.inl ⟨_, rfl⟩
      | failed failure => exact Or.inr ⟨failure, rfl, Or.inr ⟨_, rfl, rfl⟩⟩
      | terminal failure => exact Or.inr ⟨failure, rfl, Or.inr ⟨_, rfl, rfl⟩⟩

theorem conclusion_cases (runId : String) (outcome : Option RetryOutcome) :
    (∃ output, conclusion runId outcome = fun registry now => registry.complete runId output now) ∨
      ∃ error, conclusion runId outcome = fun registry now => registry.fail runId error now := by
  rcases conclusion_tells runId outcome with completes | ⟨failure, fails, -⟩
  · exact Or.inl completes
  · exact Or.inr ⟨_, fails⟩

theorem conclude_made (store after : Store) (runId : String) (outcome : Option RetryOutcome)
    (record : RunRecord) (made : store.change (conclusion runId outcome) = (.ok record, after)) :
    ∃ before, store.registry.get? runId = some before ∧ before.status = .running ∧
      after.registry.get? runId = some record ∧
      ((∃ output, record = { before with status := .completed, output, updatedAt := record.updatedAt }) ∨
        ∃ error, record =
          { before with status := .failed, error := some error, updatedAt := record.updatedAt }) := by
  obtain ⟨done, -⟩ := change_made store after record _ made
  rcases conclusion_cases runId outcome with ⟨output, same⟩ | ⟨error, same⟩
  · rw [same] at done
    obtain ⟨before, found, allowed, recordSame, stored⟩ := Registry.transition_made _ _ _ _ _ _ _ done
    have isRunning := (RunStatus.allows_ended before.status _ (Or.inl rfl)).mp allowed
    exact ⟨before, found, isRunning, stored, Or.inl ⟨output, by rw [recordSame]⟩⟩
  · rw [same] at done
    obtain ⟨before, found, allowed, recordSame, stored⟩ := Registry.transition_made _ _ _ _ _ _ _ done
    have isRunning := (RunStatus.allows_ended before.status _ (Or.inr rfl)).mp allowed
    exact ⟨before, found, isRunning, stored, Or.inr ⟨error, by rw [recordSame]⟩⟩

theorem conclude_denied (store after : Store) (runId : String) (outcome : Option RetryOutcome)
    (error : RegistryError) (denied : store.change (conclusion runId outcome) = (.error error, after)) :
    after = store ∧ ∀ before, store.registry.get? runId = some before →
      before.status ≠ .running ∧ ∃ dst, error = .invalidTransition before.status dst := by
  obtain ⟨done, same⟩ := change_denied store after error _ denied
  refine ⟨same, ?_⟩
  intro before found
  have transition : ∃ status change, (status = .completed ∨ status = .failed) ∧
      store.registry.transition runId status change store.clock.now = .error error := by
    rcases conclusion_cases runId outcome with ⟨output, shape⟩ | ⟨failure, shape⟩
    · rw [shape] at done
      exact ⟨_, _, Or.inl rfl, done⟩
    · rw [shape] at done
      exact ⟨_, _, Or.inr rfl, done⟩
  obtain ⟨status, change, isEnd, refused⟩ := transition
  rcases Registry.transition_denied _ _ _ _ _ _ refused with ⟨missing, -⟩ | ⟨other, otherFound, notAllowed, shape⟩
  · rw [found] at missing
    cases missing
  · rw [found] at otherFound
    cases otherFound
    refine ⟨?_, status, shape⟩
    intro isRunning
    rw [(RunStatus.allows_ended before.status status isEnd).mpr isRunning] at notAllowed
    cases notAllowed

end Store

end PlanChain
