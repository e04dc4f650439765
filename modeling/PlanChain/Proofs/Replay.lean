import PlanChain.Command.Outcome
import PlanChain.Proofs.Execution.Commitment
import PlanChain.Proofs.Execution.Integrity
import PlanChain.Proofs.Execution.Wire
import PlanChain.Sample

set_option autoImplicit false

namespace PlanChain

namespace Replay

def Result (raw : Json) (fresh : ExecutionResult) : Prop := ∃ options, simulate raw options = .result fresh

structure Agree (fresh recorded : ExecutionResult) : Prop where
  schemaVersion : fresh.schemaVersion = recorded.schemaVersion
  planDigest : fresh.planDigest = recorded.planDigest
  executionDigest : fresh.executionDigest = recorded.executionDigest
  finalLink : fresh.finalLink = recorded.finalLink
  traceLength : fresh.trace.length = recorded.trace.length
  finalState : fresh.finalState = recorded.finalState

theorem none_found_iff {α : Type} (differs : Prop) [Decidable differs] (found : α) (others : Option α) :
    (if differs then some found else others) = none ↔ ¬ differs ∧ others = none := by
  by_cases yes : differs
  · simp [yes]
  · simp [yes]

theorem no_mismatch_iff (fresh recorded : ExecutionResult) :
    firstMismatch fresh recorded = none ↔ Agree fresh recorded := by
  rw [firstMismatch]
  simp only [none_found_iff, Decidable.not_not]
  constructor
  · intro ⟨schemaVersion, planDigest, executionDigest, finalLink, traceLength, finalState, _⟩
    exact ⟨schemaVersion, planDigest, executionDigest, finalLink, traceLength, finalState⟩
  · intro agree
    exact ⟨agree.schemaVersion, agree.planDigest, agree.executionDigest, agree.finalLink, agree.traceLength,
      agree.finalState, trivial⟩

theorem budget_toInt (recorded : ExecutionResult) :
    (options recorded).maxSteps.toInt = min (recorded.stepsRequested.toNat + 10 : Int) Int64.maxValue.toInt := by
  have least : Int64.minValue.toInt = -9223372036854775808 := rfl
  have greatest : Int64.maxValue.toInt = 9223372036854775807 := rfl
  rw [options, budget, Word.int64?]
  by_cases fits : (recorded.stepsRequested.toNat + 10 : Int) ≤ Int64.maxValue.toInt
  · have inRange : Int64.minValue.toInt ≤ (recorded.stepsRequested.toNat + 10 : Int) := by omega
    rw [if_pos ⟨inRange, fits⟩, Option.getD_some, Int.min_eq_left fits]
    exact Int64.toInt_ofInt_of_le (by omega) (by omega)
  · rw [if_neg fun both => fits both.2, Option.getD_none, Int.min_eq_right (by omega)]

theorem verify_outcome (raw : Json) (recorded : ExecutionResult) :
    verify raw recorded = .verified ↔
      ∃ fresh, simulate raw (options recorded) = .result fresh ∧ Agree fresh recorded := by
  rw [verify, verifyWith]
  rw [← simulate]
  cases simulate raw (options recorded) with
  | crashed => simp [Outcome.toExcept?]
  | halted halt => simp [Outcome.toExcept?, judge]
  | result fresh =>
      cases found : firstMismatch fresh recorded with
      | none =>
          have agree := (no_mismatch_iff fresh recorded).mp found
          simp [Outcome.toExcept?, judge, found, agree]
      | some mismatch =>
          have differ : ¬ Agree fresh recorded := by
            rw [← no_mismatch_iff, found]
            simp
          simp [Outcome.toExcept?, judge, found, differ]

theorem agree_with_itself (result : ExecutionResult) : Agree result result := ⟨rfl, rfl, rfl, rfl, rfl, rfl⟩

theorem results_unique (raw : Json) (first second : ExecutionResult) (isFirst : Result raw first)
    (isSecond : Result raw second) : first = second := by
  obtain ⟨options, ran⟩ := isFirst
  obtain ⟨others, ranAgain⟩ := isSecond
  obtain ⟨-, plan, reads, simulated, -⟩ := (simulate_result_iff raw options first).mp ran
  obtain ⟨-, other, otherReads, otherSimulated, -⟩ := (simulate_result_iff raw others second).mp ranAgain
  cases reads.symm.trans otherReads
  exact Outcome.result.inj (simulated.symm.trans otherSimulated)

theorem result_budget (raw : Json) (options : Options) (result : ExecutionResult)
    (ran : simulate raw options = .result result) :
    Policy.violations raw = [] ∧ ∃ plan, Plan.canonical raw = .ok plan ∧ plan.simulated = .result result ∧
      result.stepsRequested.toNat = plan.steps.length ∧ (plan.steps.length : Int) ≤ Int64.maxValue.toInt := by
  obtain ⟨clean, plan, reads, simulated, -, inBudget⟩ := (simulate_result_iff raw options result).mp ran
  obtain ⟨chain, state, rfl⟩ := simulated_finishes plan result simulated
  have small := budget_fits options plan.steps.length inBudget
  exact ⟨clean, plan, reads, simulated, UInt64.toNat_ofNat_of_lt' small,
    Int.le_trans inBudget (Int64.toInt_le options.maxSteps)⟩

theorem runs_again_iff (raw : Json) (recorded fresh : ExecutionResult) :
    simulate raw (options recorded) = .result fresh ↔
      Result raw fresh ∧ fresh.stepsRequested.toNat ≤ recorded.stepsRequested.toNat + 10 := by
  have limits := budget_toInt recorded
  constructor
  · intro ran
    obtain ⟨-, plan, reads, -, requested, -⟩ := result_budget raw (options recorded) fresh ran
    obtain ⟨-, other, otherReads, -, -, inBudget⟩ := (simulate_result_iff raw (options recorded) fresh).mp ran
    cases reads.symm.trans otherReads
    rw [limits] at inBudget
    refine ⟨⟨options recorded, ran⟩, ?_⟩
    rw [requested]
    exact Int.ofNat_le.mp (Int.le_trans inBudget (Int.min_le_left _ _))
  · intro ⟨⟨others, ran⟩, near⟩
    obtain ⟨clean, plan, reads, simulated, requested, bounded⟩ := result_budget raw others fresh ran
    rw [requested] at near
    refine (simulate_result_iff raw (options recorded) fresh).mpr ⟨clean, plan, reads, simulated, ?_, ?_⟩
    · rw [limits]
      exact Int.lt_min.mpr ⟨Int.natCast_pos.mpr (Nat.succ_pos _), by decide⟩
    · rw [limits]
      exact Int.le_min.mpr ⟨Int.ofNat_le.mpr near, bounded⟩

theorem result_verified (raw : Json) (result : ExecutionResult) (isResult : Result raw result) :
    verify raw result = .verified :=
  (verify_outcome raw result).mpr
    ⟨result, (runs_again_iff raw result result).mpr ⟨isResult, Nat.le_add_right _ 10⟩, agree_with_itself result⟩

end Replay

section Records

open Command

variable (result : ExecutionResult) (info : ResponseMeta) (document : Json)

theorem bare_recorded (path : String) (same : document.Reordered result.toJson) :
    recordedResult path document = .ok result := by
  rw [recordedResult, bare_result_not_envelope result document same]
  dsimp only
  rw [result_survives result document same]

theorem envelope_recorded (path : String)
    (same : document.Reordered (ExecutionResponse.toJson (.success result info))) :
    recordedResult path document = .ok result := by
  rw [recordedResult, envelope_survives result info document same]
  rfl

theorem record_verifies (raw : Json) (text : String) (verified : Replay.verify raw result = .verified)
    (parses : Json.parse? text = some document) (files : Files) (clock : Clock) (config : Config) (plan path : String)
    (recorded : recordedResult path document = .ok result) (planRead : readJson files plan = .ok raw)
    (recordRead : files path = .ok text) :
    (Task.verify plan path).perform files clock config = .ok (.document true Replay.Verification.verified.toJson) := by
  have read : readJson files path = .ok document := by
    rw [readJson, recordRead]
    dsimp only
    rw [parses]
  rw [Task.perform, planRead, read]
  change Except.map (verifyDocument raw) (recordedResult path document) = _
  rw [recorded]
  change Except.ok (verifyDocument raw result) = _
  rw [verifyDocument, verified]
  rfl

end Records

theorem recorded_executions_replay (raw : Json) (options : Options) (response : ExecutionResponse)
    (answered : (simulate raw options).toResponse? options = some response) (succeeded : response.isOk = true) :
    ∃ result : ExecutionResult,
      response = .success result ⟨options.mode, some result.stepsExecuted, options.traceId⟩ ∧
      (∀ text, response.toJson.WrittenAs text → ∃ document, Json.parse? text = some document ∧
        ExecutionResponse.ofJson? document = some response) ∧
      (∀ text, result.toJson.WrittenAs text → ∃ document, Json.parse? text = some document ∧
        ExecutionResponse.ofJson? document = none ∧ ExecutionResult.ofJson? document = some result) ∧
      Replay.verify raw result = .verified ∧
      ∀ text, response.toJson.WrittenAs text ∨ result.toJson.WrittenAs text →
        ∀ (files : Command.Files) (clock : Clock) (config : Config) (plan path : String),
          Command.readJson files plan = .ok raw → files path = .ok text →
            (Command.Task.verify plan path).perform files clock config =
              .ok (.document true Replay.Verification.verified.toJson) := by
  cases ran : simulate raw options with
  | crashed =>
      rw [ran] at answered
      cases answered
  | halted halt =>
      rw [ran] at answered
      cases answered
      cases succeeded
  | result result =>
      rw [ran] at answered
      cases answered
      have verified := Replay.result_verified raw result ⟨options, ran⟩
      refine ⟨result, rfl, fun text stands => ?_, fun text stands => ?_, verified, fun text stands => ?_⟩
      · obtain ⟨document, parses, same⟩ := Json.text_parses _ (envelope_writable 123 result _) text stands
        exact ⟨document, parses, envelope_survives result _ document same⟩
      · obtain ⟨document, parses, same⟩ := Json.text_parses _ (result_writable 124 result) text stands
        exact ⟨document, parses, bare_result_not_envelope result document same, result_survives result document same⟩
      · intro files clock config plan path planRead recordRead
        rcases stands with enveloped | bare
        · obtain ⟨document, parses, same⟩ := Json.text_parses _ (envelope_writable 123 result _) text enveloped
          exact record_verifies result document raw text verified parses files clock config plan path
            (envelope_recorded result _ document path same) planRead recordRead
        · obtain ⟨document, parses, same⟩ := Json.text_parses _ (result_writable 124 result) text bare
          exact record_verifies result document raw text verified parses files clock config plan path
            (bare_recorded result document path same) planRead recordRead

theorem sample_execution_replays : ∃ response result,
    (simulate Sample.p1 ⟨.live, 2, some "trace"⟩).toResponse? ⟨.live, 2, some "trace"⟩ = some response ∧
      response = .success result ⟨.live, some result.stepsExecuted, some "trace"⟩ ∧
      Replay.verify Sample.p1 result = .verified := by
  obtain ⟨response, answered, succeeded⟩ : ∃ response,
      (simulate Sample.p1 ⟨.live, 2, some "trace"⟩).toResponse? ⟨.live, 2, some "trace"⟩ = some response ∧
        response.isOk = true := ⟨_, rfl, rfl⟩
  obtain ⟨result, enveloped, -, -, verified, -⟩ :=
    recorded_executions_replay Sample.p1 ⟨.live, 2, some "trace"⟩ response answered succeeded
  exact ⟨response, result, answered, enveloped, verified⟩

-- A replay decides agreement with the one result of the plan, in what it compares and within its budget.
theorem replay_verifies_iff (raw : Json) (recorded : ExecutionResult) :
    Replay.verify raw recorded = .verified ↔
      ∃ fresh, Replay.Result raw fresh ∧ (∀ other, Replay.Result raw other → other = fresh) ∧
        fresh.stepsRequested.toNat ≤ recorded.stepsRequested.toNat + 10 ∧ Replay.Agree fresh recorded := by
  constructor
  · intro verified
    obtain ⟨fresh, ran, agree⟩ := (Replay.verify_outcome raw recorded).mp verified
    obtain ⟨isResult, near⟩ := (Replay.runs_again_iff raw recorded fresh).mp ran
    exact ⟨fresh, isResult, fun other isOther => Replay.results_unique raw other fresh isOther isResult, near, agree⟩
  · intro ⟨fresh, isResult, _, near, agree⟩
    exact (Replay.verify_outcome raw recorded).mpr
      ⟨fresh, (Replay.runs_again_iff raw recorded fresh).mpr ⟨isResult, near⟩, agree⟩

def Replay.edited (result : ExecutionResult) : ExecutionResult :=
  { result with
    planId := "edited"
    stepsRequested := 0
    stepsExecuted := 7
    converged := false
    trace := result.trace.map fun entry =>
      { entry with
        stepId := "edited"
        kind := .appendLog
        before := "edited"
        after := "edited"
        previousLink := "edited"
        link := "edited"
        applied := false } }

theorem edited_record_verified : ∃ fresh recorded, Replay.Result Sample.p1 fresh ∧
    Replay.verify Sample.p1 recorded = .verified ∧ recorded.planId ≠ fresh.planId ∧
      (∀ entry ∈ recorded.trace, entry ∉ fresh.trace) ∧ ¬ Replay.Result Sample.p1 recorded := by
  obtain ⟨fresh, ran, planId, stepIds, requested⟩ : ∃ fresh, simulate Sample.p1 {} = .result fresh ∧
      fresh.planId = "p1" ∧ fresh.trace.map (·.stepId) = ["a", "b"] ∧ fresh.stepsRequested = 2 :=
    ⟨_, rfl, rfl, rfl, rfl⟩
  have isResult : Replay.Result Sample.p1 fresh := ⟨{}, ran⟩
  have changed : (Replay.edited fresh).planId ≠ fresh.planId := by
    have apart : "edited" ≠ "p1" := by decide
    rw [planId]
    exact apart
  refine ⟨fresh, Replay.edited fresh, isResult, ?_, changed, fun entry present original => ?_, fun isOther => ?_⟩
  · have near : fresh.stepsRequested.toNat ≤ 10 := by
      rw [requested]
      decide
    exact (Replay.verify_outcome Sample.p1 _).mpr ⟨fresh, (Replay.runs_again_iff _ _ fresh).mpr
      ⟨isResult, Nat.le_add_left_of_le near⟩, rfl, rfl, rfl, rfl, (List.length_map _).symm, rfl⟩
  · obtain ⟨before, -, rfl⟩ := List.mem_map.mp present
    have listed : "edited" ∈ fresh.trace.map (·.stepId) := List.mem_map.mpr ⟨_, original, rfl⟩
    rw [stepIds] at listed
    exact absurd listed (by decide)
  · exact changed (congrArg ExecutionResult.planId (Replay.results_unique Sample.p1 _ fresh isOther isResult))

end PlanChain
