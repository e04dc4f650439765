import PlanChain.Proofs.Execution.Prepare
import PlanChain.Proofs.Plan.FixedPoint
import PlanChain.Proofs.Plan.Text
import PlanChain.Proofs.Trace.Payloads

/-! What is hashed of a result shows the final state only as digests see it, but it names the plan; and the
plan alone decides the chain and the state that a simulation ends with. -/

set_option autoImplicit false

namespace PlanChain

open Digest

variable {σ : Type}

theorem walk_unreported (apply : Applier σ) (first second : Reporter) (steps : List Step) (index : Nat)
    (chain : Trace.Chain) (state : State) (world : σ) :
    (walk apply first index chain state steps world).progress =
      (walk apply second index chain state steps world).progress := by
  induction steps generalizing index chain state world with
  | nil => rfl
  | cons step rest ih =>
      rw [walk, walk]
      cases apply state step world with
      | mk result after =>
          cases result with
          | next next => exact ih (index + 1) _ next after
          | error reason => rfl
          | crash => rfl

def Plan.simulated (plan : Plan) : Outcome :=
  .ofProgress ⟨plan, plan.digest⟩ (walk simulation ⟨none, plan.planId⟩ 0 .empty .empty plan.steps ()).progress

def ExecutionResult.hashed (result : ExecutionResult) : Trace.ExecutionInput :=
  ⟨result.planDigest, result.stepsRequested, result.finalLink, result.finalState⟩

def planTexts (raw : Json) : List String :=
  match Plan.canonical raw with
  | .ok plan => [plan.text]
  | .error _ => []

-- A result is that of the canonical plan, for all options whose budget the plan meets.
theorem simulate_result_iff (raw : Json) (options : Options) (result : ExecutionResult) :
    simulate raw options = .result result ↔
      Policy.violations raw = [] ∧ ∃ plan, Plan.canonical raw = .ok plan ∧ plan.simulated = .result result ∧
        0 < options.maxSteps.toInt ∧ (plan.steps.length : Int) ≤ options.maxSteps.toInt := by
  constructor
  · intro succeeded
    unfold simulate execute at succeeded
    cases ready : prepare raw options with
    | error halt =>
        rw [ready] at succeeded
        cases succeeded
    | ok prepared =>
        obtain ⟨positive, clean, canonical, inBudget, digest⟩ := (prepare_ok_iff raw options prepared).mp ready
        obtain ⟨plan, planDigest⟩ := prepared
        dsimp only at canonical inBudget digest
        subst digest
        rw [ready] at succeeded
        dsimp only at succeeded
        rw [walk_unreported simulation _ ⟨none, plan.planId⟩] at succeeded
        exact ⟨clean, plan, canonical, succeeded, positive, inBudget⟩
  · intro ⟨clean, plan, canonical, simulated, positive, inBudget⟩
    have ready : prepare raw options = .ok ⟨plan, plan.digest⟩ :=
      (prepare_ok_iff raw options ⟨plan, plan.digest⟩).mpr ⟨positive, clean, canonical, inBudget, rfl⟩
    rw [simulate, execute, ready]
    dsimp only
    rw [walk_unreported simulation _ ⟨none, plan.planId⟩]
    exact simulated

theorem simulated_finishes (plan : Plan) (result : ExecutionResult) (succeeded : plan.simulated = .result result) :
    ∃ chain state, Prepared.finish ⟨plan, plan.digest⟩ chain state = result := by
  unfold Plan.simulated at succeeded
  cases ended : (walk simulation ⟨none, plan.planId⟩ 0 .empty .empty plan.steps ()).progress with
  | finished chain state =>
      rw [ended] at succeeded
      exact ⟨chain, state, Outcome.result.inj succeeded⟩
  | halted halt =>
      rw [ended] at succeeded
      cases succeeded
  | crashed =>
      rw [ended] at succeeded
      cases succeeded

theorem simulated_digests (plan : Plan) (result : ExecutionResult) (succeeded : plan.simulated = .result result) :
    result.planDigest = plan.digest ∧ result.executionDigest = result.hashed.digest := by
  obtain ⟨chain, state, rfl⟩ := simulated_finishes plan result succeeded
  exact ⟨rfl, rfl⟩

theorem execution_digest_commits (first second : Json) (options others : Options) (a b : ExecutionResult)
    (firstRan : simulate first options = .result a) (secondRan : simulate second others = .result b)
    (plansApart : NoCollision (planTexts first ++ planTexts second))
    (resultsApart : NoCollision [a.hashed.payload, b.hashed.payload])
    (same : a.executionDigest = b.executionDigest) : a = b := by
  obtain ⟨-, plan, firstReads, simulated, -⟩ := (simulate_result_iff first options a).mp firstRan
  obtain ⟨-, other, secondReads, otherSimulated, -⟩ := (simulate_result_iff second others b).mp secondRan
  obtain ⟨planDigest, digest⟩ := simulated_digests plan a simulated
  obtain ⟨otherPlanDigest, otherDigest⟩ := simulated_digests other b otherSimulated
  have samePayload : a.hashed.payload = b.hashed.payload := by
    rw [digest, otherDigest] at same
    exact resultsApart _ (by simp) _ (by simp) ((tagged_inj "eh" _ _).mp same)
  have samePlanDigest : plan.digest = other.digest := by
    have hashed : a.planDigest = b.planDigest := (Trace.ExecutionInput.payload_determines _ _ samePayload).1
    rw [← planDigest, hashed, otherPlanDigest]
  have sameText : plan.text = other.text :=
    plansApart _ (by simp [planTexts, firstReads]) _ (by simp [planTexts, secondReads])
      ((tagged_inj "ph" _ _).mp samePlanDigest)
  have samePlan : plan = other := Plan.text_injective plan other sameText
  rw [samePlan, otherSimulated] at simulated
  exact (Outcome.result.inj simulated).symm

theorem padded_run_commits_alike : ∃ a b,
    simulate Sample.p1 {} = .result a ∧ simulate padded ⟨.mock, 2, some "trace"⟩ = .result b ∧ a = b := by
  have firstReads : Plan.canonical Sample.p1 = .ok unpadded := rfl
  have secondReads : Plan.canonical padded = .ok unpadded := rfl
  obtain ⟨a, firstRan⟩ : ∃ a, simulate Sample.p1 {} = .result a := ⟨_, rfl⟩
  have secondRan : simulate padded ⟨.mock, 2, some "trace"⟩ = .result a := firstRan
  refine ⟨a, a, firstRan, secondRan, execution_digest_commits Sample.p1 padded {} ⟨.mock, 2, some "trace"⟩ a a
    firstRan secondRan ?_ ?_ rfl⟩
  · intro text here other there _
    rw [planTexts, planTexts, firstReads, secondReads] at here there
    simp only [List.cons_append, List.nil_append, List.mem_cons, List.not_mem_nil, or_false, or_self] at here there
    rw [here, there]
  · intro text here other there _
    simp only [List.mem_cons, List.not_mem_nil, or_false, or_self] at here there
    rw [here, there]

end PlanChain
