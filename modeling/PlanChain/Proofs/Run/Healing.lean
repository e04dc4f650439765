import PlanChain.Proofs.Execution.Prepare
import PlanChain.Proofs.Run.Retrying
import PlanChain.Sample

/-! Each failed attempt is one call of the applier, for a prepared plan has a first step and that is where it
fails. -/

set_option autoImplicit false

namespace PlanChain

namespace Sample

variable {failures calls : Nat}

theorem walk_recovered (reporter : Reporter) (index : Nat) (chain : Trace.Chain) (state : State) (steps : List Step)
    (recovered : failures ≤ calls) :
    (walk (flaky failures) reporter index chain state steps calls).progress =
        (walk simulation reporter index chain state steps ()).progress ∧
      ∀ last final, (walk simulation reporter index chain state steps ()).progress = .finished last final →
        (walk (flaky failures) reporter index chain state steps calls).world = calls + steps.length := by
  induction steps generalizing index chain state calls with
  | nil => exact ⟨rfl, fun _ _ _ => rfl⟩
  | cons step rest ih =>
      have well : ¬ calls < failures := Nat.not_lt.mpr recovered
      rw [walk, walk, flaky, if_neg well, simulation]
      cases state.simulate step with
      | error reason => exact ⟨rfl, fun last final ended => by cases ended⟩
      | ok next =>
          obtain ⟨progress, world⟩ := ih (index + 1)
            (chain.record step state next state.fingerprint next.fingerprint) next (Nat.le_succ_of_le recovered)
          refine ⟨progress, fun last final ended => ?_⟩
          rw [List.length_cons, Nat.add_comm rest.length, ← Nat.add_assoc]
          exact world last final ended

variable {raw : Json} {options : Options}

theorem simulated_prepared (result : ExecutionResult) (succeeds : simulate raw options = .result result) :
    ∃ prepared chain state, prepare raw options = .ok prepared ∧
      (walk simulation ⟨options.traceId, prepared.plan.planId⟩ 0 .empty .empty prepared.plan.steps ()).progress =
        .finished chain state ∧ prepared.finish chain state = result := by
  rw [simulate, execute] at succeeds
  cases ready : prepare raw options with
  | error halt =>
      rw [ready] at succeeds
      cases succeeds
  | ok prepared =>
      rw [ready] at succeeds
      dsimp only at succeeds
      cases walked : (walk simulation ⟨options.traceId, prepared.plan.planId⟩ 0 .empty .empty prepared.plan.steps
          ()).progress with
      | finished chain state =>
          rw [walked] at succeeds
          exact ⟨prepared, chain, state, rfl, walked, Outcome.result.inj succeeds⟩
      | halted halt =>
          rw [walked] at succeeds
          cases succeeds
      | crashed =>
          rw [walked] at succeeds
          cases succeeds

theorem flaky_recovers (prepared : Prepared) (ready : prepare raw options = .ok prepared) (result : ExecutionResult)
    (succeeds : simulate raw options = .result result) (recovered : failures ≤ calls) :
    (execute (flaky failures) raw options calls).outcome = .result result ∧
      (execute (flaky failures) raw options calls).world = calls + prepared.plan.steps.length := by
  obtain ⟨same, chain, state, sameReady, walked, finished⟩ := simulated_prepared result succeeds
  rw [ready] at sameReady
  cases sameReady
  obtain ⟨progress, world⟩ := walk_recovered ⟨options.traceId, prepared.plan.planId⟩ 0 .empty .empty
    prepared.plan.steps recovered
  rw [execute, ready]
  dsimp only
  rw [progress, walked, ← finished]
  exact ⟨rfl, world chain state walked⟩

theorem flaky_fails (prepared : Prepared) (ready : prepare raw options = .ok prepared) (failing : calls < failures) :
    ∃ message, (execute (flaky failures) raw options calls).outcome =
        .halted ⟨.of .internalError message, some 0⟩ ∧
      (execute (flaky failures) raw options calls).world = calls + 1 := by
  have steps := prepared_has_steps raw options prepared ready
  rw [execute, ready]
  dsimp only
  cases planned : prepared.plan.steps with
  | nil => simp [planned] at steps
  | cons first rest =>
      rw [walk, flaky, if_pos failing]
      exact ⟨_, rfl, rfl⟩

end Sample

section Retries

variable {failures : Nat} {request : ExecuteRequest}

def flakily (failures : Nat) (request : ExecuteRequest) : Retrying Nat :=
  .ofApplier (Sample.flaky failures) request fun _ _ world => (false, world)

theorem flakily_goes_on (number calls : Nat) :
    (flakily failures request).pause number ((flakily failures request).attempt calls) =
      (false, ((flakily failures request).attempt calls).world) := by
  rw [Retrying.pause]
  split <;> rfl

theorem flakily_retried (prepared : Prepared) (ready : prepare request.plan request.options = .ok prepared)
    (calls : Nat) (failing : calls < failures) :
    ((flakily failures request).attempt calls).retried?.isSome = true ∧
      ((flakily failures request).attempt calls).world = calls + 1 := by
  obtain ⟨message, outcome, world⟩ := Sample.flaky_fails prepared ready failing
  refine ⟨?_, world⟩
  simp [flakily, Retrying.ofApplier, Run.toAttempt, Attempt.retried?, outcome, Outcome.toResponse?, Failure.of,
    ErrorCode.isRetryable]

theorem flakily_found (prepared : Prepared) (ready : prepare request.plan request.options = .ok prepared)
    (number : Nat) (inFailures : number ≤ failures) : (flakily failures request).found 0 number = number := by
  induction number with
  | zero => rfl
  | succ number ih =>
      rw [Retrying.found, ih (Nat.le_of_succ_le inFailures), flakily_goes_on]
      exact (flakily_retried prepared ready number inFailures).2

theorem flakily_calm (prepared : Prepared) (ready : prepare request.plan request.options = .ok prepared)
    (count : Nat) (inFailures : count ≤ failures) : (flakily failures request).Calm 0 count := by
  intro number within
  have failing : number < failures := Nat.lt_of_lt_of_le within inFailures
  have found := flakily_found prepared ready number (Nat.le_of_lt failing)
  rw [Retrying.settles, Retrying.stopsAfter, Retrying.tried, found, flakily_goes_on]
  have retried := (flakily_retried prepared ready number failing).1
  exact ⟨by simpa [Option.isNone_eq_false_iff] using retried, rfl⟩

theorem flakily_recovers (failures : Nat) (prepared : Prepared)
    (ready : prepare request.plan request.options = .ok prepared) (result : ExecutionResult)
    (succeeds : simulate request.plan request.options = .result result) :
    let last := (flakily failures request).tried 0 failures
    last.response =
        some (.success result ⟨request.options.mode, some result.stepsExecuted, request.options.traceId⟩) ∧
      last.world = failures + prepared.plan.steps.length ∧ (flakily failures request).settles 0 failures = true := by
  intro last
  obtain ⟨outcome, world⟩ := Sample.flaky_recovers prepared ready result succeeds (Nat.le_refl failures)
  have isLast : last = (flakily failures request).attempt failures :=
    congrArg (flakily failures request).attempt (flakily_found prepared ready failures (Nat.le_refl failures))
  have answered : last.response = (Outcome.result result).toResponse? request.options := by
    rw [isLast, ← outcome]
    rfl
  refine ⟨answered, by rw [isLast]; exact world, ?_⟩
  change last.retried?.isNone = true
  rw [Attempt.retried?, answered]
  rfl

end Retries

-- A request that can be simulated is healed of as many failures as its budget outlasts: the response is the one that
-- simulation gives at first try, and the applier is called once for each failure and for each step. A greater number
-- of failures spends the budget, with one call for each attempt.
theorem healing_is_exact (failures : Nat) (params : RetryParams) (request : ExecuteRequest) (result : ExecutionResult)
    (succeeds : simulate request.plan request.options = .result result) :
    let budget := params.maxIterations.toNat
    let healed := retry (Sample.flaky failures) request params 0
    (failures < budget → ∃ outcome plan, healed.outcome = some outcome ∧ outcome.verdict.status = .completed ∧
      outcome.iterations.toNat = failures + 1 ∧ outcome.schedule = params.waits failures ∧
      outcome.schedule.length = failures ∧
      outcome.verdict.response? = (simulate request.plan request.options).toResponse? request.options ∧
      Plan.canonical request.plan = .ok plan ∧ healed.world = failures + plan.steps.length) ∧
    (budget ≤ failures → ∃ outcome failure, healed.outcome = some outcome ∧ outcome.verdict = .terminal failure ∧
      failure.code = .fixpointMaxIter ∧ outcome.iterations = params.maxIterations ∧ healed.world = budget) := by
  intro budget healed
  obtain ⟨prepared, chain, state, ready, -⟩ := Sample.simulated_prepared result succeeds
  have isHealed : healed = (flakily failures request).run params 0 := rfl
  constructor
  · intro outlasted
    obtain ⟨answered, world, settles⟩ := flakily_recovers failures prepared ready result succeeds
    have room : budget = failures + (budget - failures - 1 + 1) := by omega
    have ended := Retrying.run_settled failures _ room (flakily_calm prepared ready failures (Nat.le_refl failures))
      settles
    rw [answered, Retrying.found_settled failures settles] at ended
    rw [isHealed, ended]
    have inWord : failures + 1 < UInt32.size := Nat.lt_of_le_of_lt outlasted params.maxIterations.toNat_lt_size
    refine ⟨_, prepared.plan, rfl, rfl, UInt32.toNat_ofNat_of_lt' inWord, rfl, ?_, ?_, ?_, world⟩
    · simp [RetryParams.waits]
    · rw [succeeds]
      rfl
    · exact ((prepare_ok_iff request.plan request.options prepared).mp ready).2.2.1
  · intro spent
    have ended := Retrying.run_spent (flakily_calm prepared ready budget spent)
    rw [isHealed, ended]
    exact ⟨_, _, rfl, rfl, rfl, UInt32.ofNat_toNat, flakily_found prepared ready budget spent⟩

theorem twice_failing_plan_healed : ∃ result, simulate Sample.p1 {} = .result result ∧
    (∃ outcome plan, (retry (Sample.flaky 2) { plan := Sample.p1 } {} 0).outcome = some outcome ∧
      outcome.verdict.status = .completed ∧ outcome.iterations.toNat = 3 ∧ outcome.schedule = [25, 50] ∧
      outcome.schedule.length = 2 ∧ outcome.verdict.response? = (simulate Sample.p1 {}).toResponse? {} ∧
      Plan.canonical Sample.p1 = .ok plan ∧
      (retry (Sample.flaky 2) { plan := Sample.p1 } {} 0).world = 2 + plan.steps.length) ∧
    ∃ outcome failure, (retry (Sample.flaky 2) { plan := Sample.p1 } { maxIterations := 2 } 0).outcome = some outcome ∧
      outcome.verdict = .terminal failure ∧ failure.code = .fixpointMaxIter ∧ outcome.iterations = 2 ∧
      (retry (Sample.flaky 2) { plan := Sample.p1 } { maxIterations := 2 } 0).world = 2 := by
  obtain ⟨result, succeeds⟩ : ∃ result, simulate Sample.p1 {} = .result result := ⟨_, rfl⟩
  exact ⟨result, succeeds, (healing_is_exact 2 {} { plan := Sample.p1 } result succeeds).1 (by decide),
    (healing_is_exact 2 { maxIterations := 2 } { plan := Sample.p1 } result succeeds).2 (by decide)⟩

end PlanChain
