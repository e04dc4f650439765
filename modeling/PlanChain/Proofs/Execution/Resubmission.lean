import PlanChain.Command.Outcome
import PlanChain.Proofs.Execution.Prepare
import PlanChain.Proofs.Plan.FixedPoint
import PlanChain.Proofs.Plan.Policy
import PlanChain.Proofs.Plan.Text

set_option autoImplicit false

namespace PlanChain

open Grammar

variable {σ : Type}

section Written

theorem http_not_padded {address : String} (http : IsHttp address) : Text.startsBlank address = false :=
  Bool.eq_false_iff.mpr fun padded => Policy.padded_not_http address padded http

theorem written_step_unpadded {item : Json} {step : Step} (reads : ReadsItem item step) :
    Policy.opensPadded step.toJson = false := by
  obtain ⟨members, -, readsStep⟩ := reads
  have actionReads := readsStep.action
  obtain ⟨id, action⟩ := step
  cases action with
  | sandbox session call =>
      cases call with
      | visit url => exact http_not_padded actionReads.2.2
      | _ => rfl
  | _ => rfl

theorem written_steps_unpadded {items : List Json} {steps : List Step} (reads : List.Forall₂ ReadsItem items steps) :
    (steps.map Step.toJson).countP Policy.opensPadded = 0 := by
  induction reads with
  | nil => rfl
  | cons head _ ih => rw [List.map_cons, List.countP_cons, ih, written_step_unpadded head, if_neg Bool.false_ne_true]

theorem written_plan_unpadded {members : Members} {plan : Plan} (reads : ReadsPlan members plan) :
    Policy.paddedAddresses plan.toJson = 0 := by
  obtain ⟨items, -, itemsRead⟩ := reads.steps
  exact written_steps_unpadded itemsRead

theorem canonical_not_violated {raw : Json} {plan : Plan} (canonical : Plan.canonical raw = .ok plan)
    (someSteps : plan.steps ≠ []) :
    Plan.canonical plan.toJson = .ok plan ∧ Policy.violations plan.toJson = [] := by
  obtain ⟨members, -, reads⟩ := (canonical_ok_iff raw plan).mp canonical
  have again := (canonical_ok_iff plan.toJson plan).mpr (written_plan_reads members plan reads)
  have codes := Policy.violations_of_canonical plan.toJson plan again
  rw [if_neg someSteps, written_plan_unpadded reads] at codes
  exact ⟨again, List.map_eq_nil_iff.mp codes⟩

end Written

section Runs

variable {raw : Json} {options : Options} {prepared : Prepared}

theorem prepared_again (ready : prepare raw options = .ok prepared) :
    prepare prepared.plan.toJson options = .ok prepared := by
  obtain ⟨positive, -, canonical, bound, digest⟩ := (prepare_ok_iff raw options prepared).mp ready
  have someSteps := List.ne_nil_of_length_pos (prepared_has_steps raw options prepared ready)
  obtain ⟨again, clean⟩ := canonical_not_violated canonical someSteps
  exact (prepare_ok_iff _ _ _).mpr ⟨positive, clean, again, bound, digest⟩

theorem executed_again (apply : Applier σ) (world : σ) (ready : prepare raw options = .ok prepared) :
    execute apply prepared.plan.toJson options world = execute apply raw options world := by
  rw [execute, execute, ready, prepared_again ready]

theorem succeeded_prepared {apply : Applier σ} {world : σ} {result : ExecutionResult}
    (succeeded : (execute apply raw options world).outcome = .result result) :
    ∃ prepared, prepare raw options = .ok prepared ∧ result.planDigest = prepared.planDigest := by
  rw [execute] at succeeded
  cases ready : prepare raw options with
  | error halt =>
      rw [ready] at succeeded
      cases succeeded
  | ok prepared =>
      rw [ready] at succeeded
      dsimp only at succeeded
      refine ⟨prepared, rfl, ?_⟩
      generalize (walk apply _ _ _ _ _ _).progress = progress at succeeded
      cases progress with
      | finished chain state =>
          cases succeeded
          rfl
      | halted halt => cases succeeded
      | crashed => cases succeeded

end Runs

theorem digest_told {raw : Json} {plan : Plan} (canonical : Plan.canonical raw = .ok plan) :
    ∃ document, Command.hashDocument raw = .document true document ∧
      document.get? "planHash" = some (.str plan.digest) ∧
      (document.get? "plan").bind Plan.ofJson? = some plan := by
  refine ⟨_, by rw [Command.hashDocument, canonical], ?_, ?_⟩
  · exact Json.sort_get? _ "planHash"
  · have found : Json.get? (Json.sortMembers (.obj [("ok", .bool true), ("plan", plan.toJson),
        ("planHash", .str plan.digest)])) "plan" = some plan.toJson.sortMembers := Json.sort_get? _ "plan"
    rw [found, Option.bind_some, Plan.toJson, plan_blind]
    exact written_plan plan

-- A plan that is executed can be submitted again in its canonical form: with an applier in the same state the whole
-- run is the same, and its result has the digest that is told of the plan.
theorem canonical_plan_executes_alike (apply : Applier σ) (raw : Json) (options : Options) (world : σ) (plan : Plan)
    (result : ExecutionResult) (canonical : Plan.canonical raw = .ok plan)
    (succeeded : (execute apply raw options world).outcome = .result result) :
    (execute apply plan.toJson options world).outcome = .result result ∧
      execute apply plan.toJson options world = execute apply raw options world ∧
      result.planDigest = plan.digest ∧
      ∃ document, Command.hashDocument raw = .document true document ∧
        document.get? "planHash" = some (.str result.planDigest) ∧
        (document.get? "plan").bind Plan.ofJson? = some plan := by
  obtain ⟨prepared, ready, digest⟩ := succeeded_prepared succeeded
  obtain ⟨-, -, reads, -, digested⟩ := (prepare_ok_iff raw options prepared).mp ready
  have same : prepared.plan = plan := Except.ok.inj (reads.symm.trans canonical)
  rw [digested, same] at digest
  have again := executed_again apply world ready
  rw [same] at again
  rw [again, digest]
  exact ⟨succeeded, rfl, rfl, digest_told canonical⟩

def scrawled : Json := .obj [("version", .ofNat 1), ("planId", .str "  café\t"), ("steps", .arr [
  .obj [("kind", .str "sandbox.open"), ("url", .str "https://example.com "), ("id", .str " a"),
    ("sessionId", .str "s ")],
  .obj [("kind", .str "increment"), ("value", .num (.float ⟨0x4000000000000000⟩)), ("id", .str "b"),
    ("key", .str " n")]])]

def tidied : Plan := ⟨"café", 1,
  [⟨"a", .sandbox "s" (.visit "https://example.com")⟩, ⟨"b", .increment "n" 2⟩]⟩

theorem scrawled_plan_executes_alike : ∃ result,
    scrawled ≠ tidied.toJson ∧ Plan.canonical scrawled = .ok tidied ∧
      (execute (Sample.flaky 5) scrawled {} 5).outcome = .result result ∧
      (execute (Sample.flaky 5) tidied.toJson {} 5).outcome = .result result ∧
      execute (Sample.flaky 5) tidied.toJson {} 5 = execute (Sample.flaky 5) scrawled {} 5 ∧
      result.planDigest = tidied.digest ∧
      ∃ document, Command.hashDocument scrawled = .document true document ∧
        document.get? "planHash" = some (.str result.planDigest) ∧
        (document.get? "plan").bind Plan.ofJson? = some tidied := by
  have canonical : Plan.canonical scrawled = .ok tidied := by decide +kernel
  have ready : prepare scrawled {} = .ok ⟨tidied, tidied.digest⟩ :=
    (prepare_ok_iff _ _ _).mpr ⟨by decide, by decide +kernel, canonical, by decide, rfl⟩
  obtain ⟨result, succeeded⟩ : ∃ result, (execute (Sample.flaky 5) scrawled {} 5).outcome = .result result := by
    rw [execute, ready]
    exact ⟨_, rfl⟩
  exact ⟨result, by decide, canonical, succeeded,
    canonical_plan_executes_alike (Sample.flaky 5) scrawled {} 5 tidied result canonical succeeded⟩

end PlanChain
