import PlanChain.Proofs.Execution.Determinism
import PlanChain.Proofs.Execution.Prepare
import PlanChain.Proofs.Run.Agreement
import PlanChain.Proofs.Run.Retrying
import PlanChain.Proofs.Run.Wire

set_option autoImplicit false

namespace PlanChain

variable {σ : Type}

namespace ExecuteRequest

def within (request : ExecuteRequest) (budget : Int64) : ExecuteRequest :=
  { request with options := { request.options with maxSteps := budget } }

theorem decoded_parts (members : Members) (request : ExecuteRequest)
    (decodes : ofJson? (.obj members) = some request) :
    members.defaulted "mode" .mock Mode.ofJson? = some request.options.mode ∧
      members.defaulted "maxSteps" defaultMaxSteps Json.int64? = some request.options.maxSteps ∧
      members.optional "traceId" Json.string? = some request.options.traceId ∧
      members.get? "plan" = some request.plan := by
  simp only [ofJson?, Json.record?, Option.bind_eq_bind, Option.bind_some, Option.bind_eq_some_iff] at decodes
  obtain ⟨mode, isMode, maxSteps, isMaxSteps, traceId, isTraceId, plan, isPlan, made⟩ := decodes
  cases made
  exact ⟨isMode, isMaxSteps, isTraceId, isPlan⟩

theorem omitted_budget (members : Members) (request : ExecuteRequest)
    (decodes : ofJson? (.obj members) = some request) (unsaid : members.get? "maxSteps" = none) :
    request.options.maxSteps = defaultMaxSteps := by
  obtain ⟨-, budget, -⟩ := decoded_parts members request decodes
  rw [Members.defaulted, unsaid] at budget
  exact (Option.some.inj budget).symm

theorem given_budget (members : Members) (request : ExecuteRequest)
    (decodes : ofJson? (.obj members) = some request) (budget : Int64) :
    ofJson? (.obj (("maxSteps", .ofInt64 budget) :: members)) = some (request.within budget) := by
  obtain ⟨mode, -, traceId, plan⟩ := decoded_parts members request decodes
  have elsewhere (name : String) (other : "maxSteps" ≠ name) :
      Members.get? (("maxSteps", .ofInt64 budget) :: members) name = members.get? name := by
    rw [Members.get?, if_neg other]
  apply request_decodes
  · rwa [Members.defaulted, elsewhere "mode" (by decide)]
  · rw [Members.defaulted_found _ "maxSteps" (.ofInt64 budget) _ _ rfl, written_int64]
    rfl
  · rwa [Members.optional, elsewhere "traceId" (by decide)]
  · rwa [elsewhere "plan" (by decide)]

end ExecuteRequest

theorem Config.valid_budgets (config : Config) (valid : config.error? = none) :
    0 < config.defaultMaxSteps ∧ config.retry.maxIterations ≠ 0 := by
  rw [error?] at valid
  split at valid
  · cases valid
  · rename_i positive
    split at valid
    · cases valid
    · rename_i someAttempt
      exact ⟨Int64.not_le.mp positive, someAttempt⟩

def WellFormed (raw : Json) (plan : Plan) : Prop := Policy.violations raw = [] ∧ Plan.canonical raw = .ok plan

-- A submitted plan is within both of two budgets, or exceeds both; one that would not be run anyway is never measured.
def SameRoom (raw : Json) (first second : Int64) : Prop :=
  ∀ plan, WellFormed raw plan → ((plan.steps.length : Int) ≤ first.toInt ↔ (plan.steps.length : Int) ≤ second.toInt)

section Prepare

variable (raw : Json) (options : Options) (positive : 0 < options.maxSteps)

include positive

theorem prepare_same_room (budget : Int64) (positiveToo : 0 < budget)
    (room : SameRoom raw options.maxSteps budget) :
    prepare raw { options with maxSteps := budget } = prepare raw options := by
  unfold prepare
  dsimp only
  rw [if_neg (Int64.not_le.mpr positive), if_neg (Int64.not_le.mpr positiveToo)]
  cases violations : Policy.violations raw with
  | cons issue issues => rfl
  | nil =>
      cases canonical : Plan.canonical raw with
      | error issues => rfl
      | ok plan =>
          have sameRoom := room plan ⟨violations, canonical⟩
          have sameExcess : budget.toInt < plan.steps.length ↔ options.maxSteps.toInt < plan.steps.length := by
            omega
          simp only [sameExcess]

theorem prepare_exceeding (plan : Plan) (wellFormed : WellFormed raw plan)
    (exceeds : ¬ (plan.steps.length : Int) ≤ options.maxSteps.toInt) :
    prepare raw options = .error ⟨.of .executionConvergenceFailed "Plan exceeds maxSteps bound", some 0⟩ := by
  unfold prepare
  dsimp only
  rw [if_neg (Int64.not_le.mpr positive), wellFormed.1, wellFormed.2]
  exact if_pos (Int.not_le.mp exceeds)

theorem prepare_fitting (plan : Plan) (wellFormed : WellFormed raw plan)
    (fits : (plan.steps.length : Int) ≤ options.maxSteps.toInt) :
    prepare raw options = .ok ⟨plan, plan.digest⟩ :=
  (prepare_ok_iff raw options ⟨plan, plan.digest⟩).mpr
    ⟨Int64.lt_iff_toInt_lt.mp positive, wellFormed.1, wellFormed.2, fits, rfl⟩

end Prepare

theorem step_error_not_divergent (reason : StepError) : reason.code ≠ .executionConvergenceFailed := by
  cases reason with
  | sandbox kind code message => cases code <;> simp [StepError.code]
  | _ => simp [StepError.code]

theorem walk_not_divergent (apply : Applier σ) (reporter : Reporter) (steps : List Step) (world : σ)
    (prepared : Prepared) (halt : Halt)
    (halted : .ofProgress prepared (walk apply reporter 0 .empty .empty steps world).progress = Outcome.halted halt) :
    halt.failure.code ≠ .executionConvergenceFailed := by
  cases progress : (walk apply reporter 0 .empty .empty steps world).progress with
  | finished chain state =>
      rw [progress] at halted
      cases halted
  | crashed =>
      rw [progress] at halted
      cases halted
  | halted reason =>
      rw [progress] at halted
      cases halted
      obtain ⟨cause, same⟩ := walk_halts_with_reason _ _ _ _ _ _ _ halt progress
      rw [same]
      exact step_error_not_divergent cause

theorem execute_not_divergent (apply : Applier σ) (raw : Json) (options : Options) (world : σ) (prepared : Prepared)
    (ready : prepare raw options = .ok prepared) (halt : Halt)
    (halted : (execute apply raw options world).outcome = .halted halt) :
    halt.failure.code ≠ .executionConvergenceFailed := by
  rw [execute, ready] at halted
  exact walk_not_divergent _ _ _ _ _ halt halted

theorem Environment.execute_not_divergent (env : Environment σ) (raw : Json) (options : Options) (line : Timeline σ)
    (prepared : Prepared) (ready : prepare raw options = .ok prepared) (halt : Halt)
    (halted : (env.execute raw options line).outcome = .halted halt) :
    halt.failure.code ≠ .executionConvergenceFailed := by
  rw [Environment.execute, ready] at halted
  dsimp only at halted
  split at halted
  · cases halted
    simp [Failure.of]
  · exact walk_not_divergent _ _ _ _ _ halt halted

theorem Run.attempt_failure (run : Run σ) (options : Options) (failure : Failure) (info : ResponseMeta)
    (answered : (run.toAttempt options).response = some (.failure failure info)) :
    ∃ halt, run.outcome = .halted halt ∧ halt.failure = failure := by
  rw [Run.toAttempt] at answered
  cases ended : run.outcome with
  | result found => simp [ended, Outcome.toResponse?] at answered
  | crashed => simp [ended, Outcome.toResponse?] at answered
  | halted halt =>
      simp only [ended, Outcome.toResponse?, Option.some.injEq, Response.failure.injEq] at answered
      exact ⟨halt, rfl, answered.1⟩

namespace Retrying

variable {retrying : Retrying σ} {params : RetryParams} {world : σ}

theorem failed_not_divergent {outcome : RetryOutcome} {failure : Failure}
    (attempts : ∀ world failure info, (retrying.attempt world).response = some (.failure failure info) →
      failure.code ≠ .executionConvergenceFailed)
    (ended : (retrying.run params world).outcome = some outcome) (failed : outcome.verdict.failure? = some failure) :
    failure.code ≠ .executionConvergenceFailed := by
  rcases ended_cases retrying params world outcome ended with
    ⟨stop, isStop, code⟩ | ⟨excess, isExcess, code⟩ | ⟨last, answer, -, answered, rfl⟩
  · rw [isStop] at failed
    cases failed
    simp [code]
  · rw [isExcess] at failed
    cases failed
    simp [code]
  · cases answer with
    | success result info => cases failed
    | failure reason info =>
        have same : reason = failure := by
          dsimp only [Verdict.of] at failed
          split at failed <;> exact Option.some.inj failed
        exact attempts _ failure info (same ▸ answered)

theorem run_fails_at_once (someBudget : params.maxIterations ≠ 0) (failure : Failure) (info : ResponseMeta)
    (final : failure.code.isRetryable = false)
    (answered : (retrying.attempt world).response = some (.failure failure info)) :
    ∃ outcome, (retrying.run params world).outcome = some outcome ∧ outcome.verdict.failure? = some failure ∧
      (retrying.run params world).world = (retrying.attempt world).world := by
  have settled : retrying.settles world 0 = true := by
    rw [settles, tried, found, Attempt.retried?, answered]
    simp [final]
  have room : params.maxIterations.toNat = 0 + (params.maxIterations.toNat - 1 + 1) := by
    have : params.maxIterations.toNat ≠ 0 := fun isZero => someBudget (UInt32.toNat_inj.mp isZero)
    omega
  have ran := run_settled 0 _ room (fun number before => absurd before (Nat.not_lt_zero number)) settled
  refine ⟨_, by rw [ran, tried, found, answered]; rfl, ?_, by rw [ran, found_settled 0 settled]; rfl⟩
  dsimp only [Verdict.of]
  split <;> rfl

end Retrying

section Alike

variable (request : ExecuteRequest) (budget : Int64)
  (alike : prepare request.plan (request.within budget).options = prepare request.plan request.options)

include alike

-- Of the budget, nothing but what is prepared depends on it.

theorem Retrying.of_applier_alike (apply : Applier σ) (stops : UInt32 → Failure → σ → Bool × σ) :
    Retrying.ofApplier apply (request.within budget) stops = Retrying.ofApplier apply request stops := by
  have same (world : σ) : execute apply request.plan (request.within budget).options world =
      execute apply request.plan request.options world := by
    rw [execute, alike]
    rfl
  rw [Retrying.ofApplier, Retrying.ofApplier, Retrying.mk.injEq]
  exact ⟨funext fun world => congrArg (Run.toAttempt request.options) (same world), rfl⟩

theorem Environment.retrying_alike (env : Environment σ) (stops : UInt32 → Failure → σ → Bool × σ) :
    env.retrying (request.within budget) stops = env.retrying request stops := by
  have same (line : Timeline σ) : env.execute request.plan (request.within budget).options line =
      env.execute request.plan request.options line := by
    rw [Environment.execute, alike]
    rfl
  rw [Environment.retrying, Environment.retrying, Retrying.mk.injEq]
  exact ⟨funext fun line => congrArg (Run.toAttempt request.options) (same line), rfl⟩

end Alike

section Refused

variable (request : ExecuteRequest) (halt : Halt) (refused : prepare request.plan request.options = .error halt)

include refused

theorem Retrying.attempt_refused (apply : Applier σ) (stops : UInt32 → Failure → σ → Bool × σ) (world : σ) :
    ∃ info, (Retrying.ofApplier apply request stops).attempt world =
      ⟨some (.failure halt.failure info), [], world⟩ := by
  rw [Retrying.ofApplier]
  dsimp only
  rw [execute, refused]
  exact ⟨_, rfl⟩

theorem Environment.attempt_refused (env : Environment σ) (stops : UInt32 → Failure → σ → Bool × σ)
    (line : Timeline σ) :
    ∃ info, (env.retrying request stops).attempt line =
      ⟨some (.failure halt.failure info), [], env.shutdown line⟩ := by
  rw [Environment.retrying]
  dsimp only
  rw [Environment.execute, refused]
  exact ⟨_, rfl⟩

end Refused

def RunRecord.CutOff (record : RunRecord) : Prop :=
  record.status = .failed ∧ ∃ message, record.error = some ⟨.executionConvergenceFailed, message⟩

namespace Store

theorem finish_cut_off (store : Store) (runId : String) (record : RunRecord) (holds : store.Holds runId record)
    (outcome : RetryOutcome) (failure : Failure) (failed : outcome.verdict.failure? = some failure)
    (code : failure.code = .executionConvergenceFailed) :
    ∃ ended, (store.finish runId (some outcome)).1 = .ok ended ∧ ended.CutOff := by
  have concludes : conclusion runId (some outcome) = fun registry now =>
      registry.fail runId ⟨failure.code, failure.message⟩ now := by
    obtain ⟨verdict, iterations, schedule⟩ := outcome
    cases verdict with
    | completed response => cases failed
    | failed reason =>
        cases failed
        rfl
    | terminal reason =>
        cases failed
        rfl
  refine ⟨_, finish_holds store runId record holds _ .failed _ rfl concludes, rfl, failure.message, ?_⟩
  rw [← code]

theorem concluded_not_cut_off (store after : Store) (runId : String) (outcome : Option RetryOutcome)
    (record : RunRecord)
    (otherwise : ∀ found failure, outcome = some found → found.verdict.failure? = some failure →
      failure.code ≠ .executionConvergenceFailed)
    (made : store.change (conclusion runId outcome) = (.ok record, after)) : ¬ record.CutOff := by
  rintro ⟨isFailed, message, isError⟩
  have done := (change_made store after record _ made).1
  rcases conclusion_tells runId outcome with ⟨output, completes⟩ | ⟨failure, fails, cause⟩
  · rw [completes] at done
    obtain ⟨before, -, -, same, -⟩ := Registry.transition_made _ _ _ _ _ _ _ done
    rw [same] at isFailed
    cases isFailed
  · rw [fails] at done
    obtain ⟨before, -, -, same, -⟩ := Registry.transition_made _ _ _ _ _ _ _ done
    rw [same, Option.some.injEq, RunError.mk.injEq] at isError
    rcases cause with rfl | ⟨found, isFound, failed⟩
    · cases isError.1
    · exact otherwise found failure isFound failed isError.1

theorem finish_not_cut_off (store : Store) (runId : String) (outcome : Option RetryOutcome) (record : RunRecord)
    (otherwise : ∀ found failure, outcome = some found → found.verdict.failure? = some failure →
      failure.code ≠ .executionConvergenceFailed)
    (answered : (store.finish runId outcome).1 = .ok record) : ¬ record.CutOff := by
  rw [finish] at answered
  cases made : ((store.discard runId).unwatch runId).change (conclusion runId outcome) with
  | mk result after =>
      rw [made] at answered
      cases result with
      | ok ended =>
          cases answered
          exact concluded_not_cut_off _ after runId outcome record otherwise made
      | error error =>
          obtain ⟨rfl, denied⟩ := conclude_denied _ after runId outcome error made
          cases error with
          | notFound missing => cases answered
          | invalidTransition src dst =>
              cases src with
              | cancelled =>
                  dsimp only at answered
                  split at answered
                  · rename_i stored found
                    cases answered
                    obtain ⟨-, other, same⟩ := denied record found
                    injection same with wasCancelled
                    rintro ⟨isFailed, -⟩
                    rw [isFailed] at wasCancelled
                    cases wasCancelled
                  · cases answered
              | _ => cases answered

end Store

def RunRecord.timeless (record : RunRecord) : RunRecord := { record with createdAt := ⟨0, 0⟩, updatedAt := ⟨0, 0⟩ }

def SameButTimes (first second : Except RegistryError RunRecord) : Prop :=
  first.map RunRecord.timeless = second.map RunRecord.timeless

namespace Service

variable {ρ : Type} (service : Service ρ) (creation : CreateRequest) (request : ExecuteRequest) (store : Store)
  (rest : ρ) (execution : Execution ρ)

-- Nothing that goes on beside the steps touches the store: in a live execution, neither the sessions nor an alarm.
def Undisturbed : Execution ρ → Prop
  | .plain => True
  | .live alarms => ∀ store : Store,
    (∀ provider, service.provider = some provider → provider.Keeps fun world => world.store = store) ∧
      Alarm.AllKeep alarms fun world => world.store = store

theorem new_run_same_room (budget : Int64) (positive : 0 < request.options.maxSteps) (positiveToo : 0 < budget)
    (room : SameRoom request.plan request.options.maxSteps budget) :
    service.executeNew creation (request.within budget) store rest execution =
      service.executeNew creation request store rest execution := by
  have alike := prepare_same_room request.plan request.options positive budget positiveToo room
  cases execution with
  | plain => simp only [executeNew, executed, execute, Retrying.of_applier_alike request budget alike]
  | live alarms => simp only [executeNew, executed, executeLive, Environment.retrying_alike request budget alike]

theorem new_run_cut_off (someBudget : service.config.retry.maxIterations ≠ 0)
    (undisturbed : service.Undisturbed execution)
    (exceeding : prepare request.plan request.options =
      .error ⟨.of .executionConvergenceFailed "Plan exceeds maxSteps bound", some 0⟩) :
    ∃ record, (service.executeNew creation request store rest execution).result = .ok record ∧ record.CutOff := by
  obtain ⟨started, begun, begins, holds, -⟩ := store.create_begins creation
  cases execution with
  | plain =>
      rw [service.new_run_plain creation request store begun rest started begins]
      obtain ⟨info, refused⟩ := Retrying.attempt_refused request _ exceeding service.apply
        (fun _ _ => beforeRetry (store.create creation).1.runId) ⟨begun, rest⟩
      obtain ⟨outcome, ended, failed, left⟩ :=
        Retrying.run_fails_at_once someBudget _ info rfl (congrArg Attempt.response refused)
      rw [ended, left, refused]
      exact Store.finish_cut_off begun _ started holds outcome _ failed rfl
  | live alarms =>
      let runId := (store.create creation).1.runId
      let line := Timeline.start alarms { store := begun, rest : World ρ }
      obtain ⟨sessions, ringing⟩ := undisturbed begun
      have keeps : { service.environment runId with apply := simulation }.Keeps line.alarms
          fun world => world.store = begun :=
        ⟨fun _ _ _ same => same, sessions, Timeline.start_all_keep ringing _⟩
      have rung := Timeline.give_way_kept keeps.alarms line ⟨rfl, List.Subset.refl _⟩
      have shut := Environment.shutdown_kept keeps line.giveWay rung
      obtain ⟨info, refused⟩ := Environment.attempt_refused request _ exceeding (service.environment runId)
        (fun _ _ => beforeRetry runId) line.giveWay
      obtain ⟨outcome, ended, failed, left⟩ :=
        Retrying.run_fails_at_once someBudget _ info rfl (congrArg Attempt.response refused)
      rw [executeNew, executed, executeLive, begins]
      dsimp only [conclude]
      rw [ended, left, refused]
      have stored : ((service.environment runId).shutdown line.giveWay).world.store.Holds runId started := by
        rw [show ((service.environment runId).shutdown line.giveWay).world.store = begun from shut.world]
        exact holds
      exact Store.finish_cut_off _ runId started stored outcome _ failed rfl

theorem new_run_not_cut_off (prepared : Prepared) (ready : prepare request.plan request.options = .ok prepared)
    (record : RunRecord)
    (answered : (service.executeNew creation request store rest execution).result = .ok record) :
    ¬ record.CutOff := by
  obtain ⟨started, begun, begins, -⟩ := store.create_begins creation
  cases execution with
  | plain =>
      rw [service.new_run_plain creation request store begun rest started begins] at answered
      refine Store.finish_not_cut_off _ _ _ record (fun outcome failure ended failed => ?_) answered
      refine Retrying.failed_not_divergent (fun world failure info response => ?_) ended failed
      obtain ⟨halt, halted, rfl⟩ := Run.attempt_failure _ _ failure info response
      exact execute_not_divergent service.apply request.plan request.options world prepared ready halt halted
  | live alarms =>
      rw [executeNew, executed, executeLive, begins] at answered
      refine Store.finish_not_cut_off _ _ _ record (fun outcome failure ended failed => ?_) answered
      refine Retrying.failed_not_divergent (fun line failure info response => ?_) ended failed
      obtain ⟨halt, halted, rfl⟩ := Run.attempt_failure _ _ failure info response
      exact Environment.execute_not_divergent _ request.plan request.options line prepared ready halt halted

theorem cut_off_tells_apart (first second : Except RegistryError RunRecord) (record : RunRecord)
    (cut : first = .ok record ∧ record.CutOff) (uncut : ∀ record, second = .ok record → ¬ record.CutOff) :
    ¬ SameButTimes first second := by
  intro same
  rw [SameButTimes, cut.1] at same
  cases answered : second with
  | error error =>
      rw [answered] at same
      cases same
  | ok other =>
      rw [answered] at same
      have alike : record.timeless = other.timeless := Except.ok.inj same
      exact uncut other answered (show other.timeless.CutOff from alike ▸ cut.2)

theorem excess_tells_apart (exceeding fitting : ExecuteRequest) (plan : Plan)
    (wellFormed : WellFormed exceeding.plan plan) (samePlan : exceeding.plan = fitting.plan)
    (someBudget : service.config.retry.maxIterations ≠ 0) (undisturbed : service.Undisturbed execution)
    (positive : 0 < exceeding.options.maxSteps) (positiveToo : 0 < fitting.options.maxSteps)
    (exceeds : ¬ (plan.steps.length : Int) ≤ exceeding.options.maxSteps.toInt)
    (fits : (plan.steps.length : Int) ≤ fitting.options.maxSteps.toInt) :
    ¬ SameButTimes (service.executeNew creation exceeding store rest execution).result
      (service.executeNew creation fitting store rest execution).result := by
  obtain ⟨record, answered, cut⟩ := service.new_run_cut_off creation exceeding store rest execution someBudget
    undisturbed (prepare_exceeding exceeding.plan exceeding.options positive plan wellFormed exceeds)
  have ready := prepare_fitting fitting.plan fitting.options positiveToo plan (samePlan ▸ wellFormed) fits
  exact cut_off_tells_apart _ _ record ⟨answered, cut⟩
    (service.new_run_not_cut_off creation fitting store rest execution _ ready)

-- A request that leaves its budget out has the standard one. To give the configured one instead changes nothing when
-- the plan is within both or exceeds both, and otherwise one of the two runs is cut off and the other is not.
theorem omitted_budget_as_configured_iff (members : Members) (valid : service.config.error? = none)
    (decodes : ExecuteRequest.ofJson? (.obj members) = some request) (unsaid : members.get? "maxSteps" = none) :
    let budget := service.config.defaultMaxSteps
    ∃ configured, ExecuteRequest.ofJson? (.obj (("maxSteps", .ofInt64 budget) :: members)) = some configured ∧
      ∀ creation store rest execution,
        let omittedRun := service.executeNew creation request store rest execution
        let configuredRun := service.executeNew creation configured store rest execution
        (SameRoom request.plan defaultMaxSteps budget → omittedRun = configuredRun) ∧
        (service.Undisturbed execution →
          (SameButTimes omittedRun.result configuredRun.result ↔ SameRoom request.plan defaultMaxSteps budget)) := by
  intro budget
  obtain ⟨positive, someBudget⟩ := service.config.valid_budgets valid
  have omitted := ExecuteRequest.omitted_budget members request decodes unsaid
  have standard : 0 < request.options.maxSteps := by
    rw [omitted]
    decide
  refine ⟨request.within budget, ExecuteRequest.given_budget members request decodes budget, ?_⟩
  intro creation store rest execution omittedRun configuredRun
  have sameRuns (room : SameRoom request.plan defaultMaxSteps budget) : omittedRun = configuredRun := by
    rw [← omitted] at room
    exact (service.new_run_same_room creation request store rest execution budget standard positive room).symm
  refine ⟨sameRuns, fun undisturbed => ⟨fun same plan wellFormed => ?_, fun room => ?_⟩⟩
  · rw [← omitted]
    constructor
    · intro fits
      by_contra exceeds
      exact service.excess_tells_apart creation store rest execution (request.within budget) request plan wellFormed rfl
        someBudget undisturbed positive standard exceeds fits same.symm
    · intro fits
      by_contra exceeds
      exact service.excess_tells_apart creation store rest execution request (request.within budget) plan wellFormed rfl
        someBudget undisturbed standard positive exceeds fits same
  · rw [SameButTimes, sameRuns room]

theorem short_plan_within_both :
    let service : Service Unit := { config := { defaultMaxSteps := 2 } }
    let request : ExecuteRequest := { plan := Sample.p1 }
    service.config.error? = none ∧ ExecuteRequest.ofJson? (.obj [("plan", Sample.p1)]) = some request ∧
      Members.get? [("plan", Sample.p1)] "maxSteps" = none ∧
      ∃ configured, ExecuteRequest.ofJson? (.obj [("maxSteps", .ofInt64 2), ("plan", Sample.p1)]) = some configured ∧
        ∀ execution ∈ [Execution.plain, .live []], service.Undisturbed execution ∧
          ∀ creation store, SameButTimes (service.executeNew creation request store () execution).result
            (service.executeNew creation configured store () execution).result := by
  intro service request
  obtain ⟨configured, decodes, runs⟩ := omitted_budget_as_configured_iff service request [("plan", Sample.p1)]
    rfl rfl rfl
  have room : SameRoom request.plan defaultMaxSteps 2 := by
    intro plan wellFormed
    have read : Plan.canonical Sample.p1 = .ok ⟨"p1", 1, [⟨"a", .set "k" "v"⟩, ⟨"b", .increment "n" 2⟩]⟩ := rfl
    cases read.symm.trans wellFormed.2
    decide
  refine ⟨rfl, rfl, rfl, configured, decodes, fun execution among => ?_⟩
  have undisturbed : service.Undisturbed execution := by
    simp only [List.mem_cons, List.not_mem_nil, or_false] at among
    rcases among with rfl | rfl
    · trivial
    · exact fun store => ⟨nofun, fun alarm none => absurd none List.not_mem_nil⟩
  exact ⟨undisturbed, fun creation store => ((runs creation store () execution).2 undisturbed).mpr room⟩

-- With a configured budget of one, the run of a request that leaves its budget out is completed, in both ways of
-- executing it, and the run of the request with that budget is cut off.
theorem configured_budget_not_applied :
    let service : Service Unit := { config := { defaultMaxSteps := 1 } }
    let request : ExecuteRequest := { plan := Sample.p1 }
    let store : Store := { clock := .stopped ⟨0, 0⟩ }
    service.config.error? = none ∧ ExecuteRequest.ofJson? (.obj [("plan", Sample.p1)]) = some request ∧
      Members.get? [("plan", Sample.p1)] "maxSteps" = none ∧
      ∃ configured, ExecuteRequest.ofJson? (.obj [("maxSteps", .ofInt64 1), ("plan", Sample.p1)]) = some configured ∧
        ∀ execution ∈ [Execution.plain, .live []],
          ¬ SameButTimes (service.executeNew { agentId := "agent" } request store () execution).result
            (service.executeNew { agentId := "agent" } configured store () execution).result := by
  intro service request store
  refine ⟨rfl, rfl, rfl, request.within 1, rfl, fun execution among same => ?_⟩
  have status := congrArg (fun answer => answer.toOption.map RunRecord.status) same
  revert status
  simp only [List.mem_cons, List.not_mem_nil, or_false] at among
  rcases among with rfl | rfl
  · decide +kernel
  · decide +kernel

end Service

end PlanChain
