import PlanChain.Execution.Run
import PlanChain.Proofs.Plan.Canonical

set_option autoImplicit false

namespace PlanChain

open Grammar

theorem prepare_ok_iff (raw : Json) (options : Options) (prepared : Prepared) :
    prepare raw options = .ok prepared ↔
      0 < options.maxSteps.toInt ∧ Policy.violations raw = [] ∧ Plan.canonical raw = .ok prepared.plan ∧
        (prepared.plan.steps.length : Int) ≤ options.maxSteps.toInt ∧
        prepared.planDigest = prepared.plan.digest := by
  have budget : options.maxSteps ≤ 0 ↔ options.maxSteps.toInt ≤ 0 := Int64.le_iff_toInt_le
  unfold prepare
  dsimp only
  by_cases refused : options.maxSteps ≤ 0
  · have := budget.mp refused
    simp only [if_pos refused, reduceCtorEq, false_iff]
    omega
  · have positive : 0 < options.maxSteps.toInt := by
      have := mt budget.mpr refused
      omega
    rw [if_neg refused]
    cases Policy.violations raw with
    | cons first rest => simp
    | nil =>
        cases Plan.canonical raw with
        | error issues => simp
        | ok plan =>
            by_cases exceeds : options.maxSteps.toInt < plan.steps.length
            · simp only [if_pos exceeds, reduceCtorEq, false_iff]
              rintro ⟨-, -, same, bound, -⟩
              cases same
              omega
            · obtain ⟨given, digest⟩ := prepared
              simp only [if_neg exceeds, Except.ok.injEq, Prepared.mk.injEq]
              constructor
              · rintro ⟨rfl, rfl⟩
                exact ⟨positive, trivial, rfl, Int.not_lt.mp exceeds, rfl⟩
              · rintro ⟨-, -, rfl, -, rfl⟩
                exact ⟨rfl, rfl⟩

theorem no_violation_steps (members : Members) (items : List Json)
    (read : members.get? "steps" = some (.arr items)) (clean : Policy.violations (.obj members) = []) :
    items ≠ [] := by
  rintro rfl
  simp [Policy.violations, Json.members?, read, Json.items?] at clean

theorem prepared_has_steps (raw : Json) (options : Options) (prepared : Prepared)
    (ready : prepare raw options = .ok prepared) : 1 ≤ prepared.plan.steps.length := by
  obtain ⟨-, clean, canonical, -⟩ := (prepare_ok_iff raw options prepared).mp ready
  obtain ⟨members, rfl, reads⟩ := (canonical_ok_iff raw prepared.plan).mp canonical
  obtain ⟨items, read, items_read⟩ := reads.steps
  rw [← items_read.length_eq]
  exact List.length_pos_iff.mpr (no_violation_steps members items read clean)

end PlanChain
