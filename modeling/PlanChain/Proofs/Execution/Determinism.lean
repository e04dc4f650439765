import PlanChain.Proofs.Execution.Prepare
import PlanChain.Proofs.Plan.Policy
import PlanChain.Sample

set_option autoImplicit false

namespace PlanChain

open Grammar Policy

theorem list_codes_congr (first second : List Issue)
    (same : first.map Issue.code = second.map Issue.code) : Issue.listCodes first = Issue.listCodes second := by
  have names (issues : List Issue) :
      issues.map (fun issue => issue.code.name) = (issues.map Issue.code).map IssueCode.name := by simp
  rw [Issue.listCodes, Issue.listCodes, names, names, same]

-- Preparing a plan reads nothing of it but the codes of its violations and its canonical form.
theorem prepare_congr (first second : Json) (options : Options)
    (sameCodes : (violations first).map Issue.code = (violations second).map Issue.code)
    (sameForm : Plan.canonical first = Plan.canonical second) :
    prepare first options = prepare second options := by
  have codes := list_codes_congr _ _ sameCodes
  unfold prepare
  dsimp only
  rw [sameForm]
  cases firstFound : violations first with
  | nil =>
      cases secondFound : violations second with
      | nil => rfl
      | cons other rest => simp [firstFound, secondFound] at sameCodes
  | cons issue issues =>
      cases secondFound : violations second with
      | nil => simp [firstFound, secondFound] at sameCodes
      | cons other rest =>
          rw [firstFound, secondFound] at codes
          dsimp only
          rw [codes]

def refusal (count : Nat) : String :=
  "Plan validation failed: " ++ ", ".intercalate (List.replicate count "INVALID_SANDBOX_URL")

theorem repeated_length (separator name : String) (count : Nat) :
    (separator.intercalate (List.replicate (count + 1) name)).length =
      name.length + (separator.length + name.length) * count := by
  induction count with
  | zero => simp
  | succ count ih =>
      have grown : separator.intercalate (List.replicate (count + 1 + 1) name) =
          name ++ separator ++ separator.intercalate (List.replicate (count + 1) name) :=
        String.intercalate_cons_cons
      rw [grown, String.length_append, String.length_append, ih, Nat.mul_succ]
      omega

theorem repeated_injective (separator name : String) (separated : 0 < separator.length) (first second : Nat)
    (same : separator.intercalate (List.replicate (first + 1) name) =
      separator.intercalate (List.replicate (second + 1) name)) : first = second := by
  have lengths := congrArg String.length same
  rw [repeated_length, repeated_length, Nat.add_left_cancel_iff] at lengths
  exact Nat.eq_of_mul_eq_mul_left (by omega) lengths

theorem refusal_injective (first second : Nat) (firstSome : 0 < first) (secondSome : 0 < second)
    (same : refusal first = refusal second) : first = second := by
  obtain ⟨first, rfl⟩ := Nat.exists_eq_succ_of_ne_zero (Nat.pos_iff_ne_zero.mp firstSome)
  obtain ⟨second, rfl⟩ := Nat.exists_eq_succ_of_ne_zero (Nat.pos_iff_ne_zero.mp secondSome)
  have codes := (String.append_right_inj _).mp same
  rw [repeated_injective ", " _ (by decide) first second codes]

theorem padded_has_steps (raw : Json) (plan : Plan) (canonical : Plan.canonical raw = .ok plan)
    (padded : 0 < paddedAddresses raw) : plan.steps ≠ [] := by
  obtain ⟨members, rfl, reads⟩ := (canonical_ok_iff raw plan).mp canonical
  obtain ⟨items, read, itemsRead⟩ := reads.steps
  intro empty
  rw [empty] at itemsRead
  cases itemsRead
  simp [paddedAddresses, Json.get?, Json.members?, read, Json.items?] at padded

theorem padded_refused (raw : Json) (plan : Plan) (options : Options)
    (canonical : Plan.canonical raw = .ok plan) (budget : ¬ options.maxSteps ≤ 0)
    (padded : 0 < paddedAddresses raw) :
    simulate raw options = .halted ⟨.of .invalidRequest (refusal (paddedAddresses raw)), none⟩ := by
  have codes := violations_of_canonical raw plan canonical
  rw [if_neg (padded_has_steps raw plan canonical padded), List.nil_append] at codes
  have listed : Issue.listCodes (violations raw) =
      ", ".intercalate (List.replicate (paddedAddresses raw) "INVALID_SANDBOX_URL") := by
    have names : (violations raw).map (fun issue => issue.code.name) =
        ((violations raw).map Issue.code).map IssueCode.name := by simp
    rw [Issue.listCodes, names, codes, List.map_replicate]
    rfl
  have refused : prepare raw options =
      .error ⟨.of .invalidRequest (refusal (paddedAddresses raw)), none⟩ := by
    unfold prepare
    dsimp only
    rw [if_neg budget]
    cases found : violations raw with
    | nil =>
        rw [found, List.map_nil, eq_comm, List.replicate_eq_nil_iff] at codes
        omega
    | cons issue issues =>
        dsimp only
        rw [← found, listed]
        rfl
  rw [simulate, execute, refused]

theorem walk_halts_with_reason {σ : Type} (apply : Applier σ) (reporter : Reporter) (steps : List Step)
    (index : Nat) (chain : Trace.Chain) (state : State) (world : σ) (halt : Halt)
    (halted : (walk apply reporter index chain state steps world).progress = .halted halt) :
    ∃ reason : StepError, halt.failure = reason.toFailure := by
  induction steps generalizing index chain state world with
  | nil => cases halted
  | cons step rest ih =>
      unfold walk at halted
      cases applied : apply state step world with
      | mk result after =>
          cases result with
          | crash => simp [applied] at halted
          | error reason =>
              rw [applied] at halted
              cases halted
              exact ⟨reason, rfl⟩
          | next next =>
              rw [applied] at halted
              exact ih _ _ _ _ halted

theorem step_error_not_invalid (reason : StepError) : reason.code ≠ .invalidRequest := by
  cases reason with
  | sandbox kind code message => cases code <;> simp [StepError.code]
  | _ => simp [StepError.code]

theorem unpadded_not_invalid (raw : Json) (plan : Plan) (options : Options) (message : String)
    (canonical : Plan.canonical raw = .ok plan) (budget : ¬ options.maxSteps ≤ 0)
    (someSteps : plan.steps ≠ []) (unpadded : paddedAddresses raw = 0) :
    (simulate raw options).toExcept? ≠ some (.error (.of .invalidRequest message)) := by
  have codes := violations_of_canonical raw plan canonical
  rw [if_neg someSteps, unpadded, List.replicate_zero, List.append_nil, List.map_eq_nil_iff] at codes
  rw [simulate, execute]
  unfold prepare
  dsimp only
  rw [if_neg budget, codes, canonical]
  dsimp only
  by_cases exceeds : options.maxSteps.toInt < plan.steps.length
  · rw [if_pos exceeds]
    simp [Outcome.toExcept?, Failure.of]
  · rw [if_neg exceeds]
    dsimp only
    generalize walked : walk _ _ _ _ _ _ _ = found
    cases progress : found.progress with
    | finished chain state => simp [Outcome.ofProgress, Outcome.toExcept?]
    | crashed => simp [Outcome.ofProgress, Outcome.toExcept?]
    | halted halt =>
        rw [← walked] at progress
        obtain ⟨reason, same⟩ := walk_halts_with_reason _ _ _ _ _ _ _ halt progress
        simp only [Outcome.ofProgress, Outcome.toExcept?, same, StepError.toFailure]
        intro equal
        injection equal with equal
        injection equal with equal
        exact step_error_not_invalid reason (congrArg Failure.code equal)

theorem simulate_congr (first second : Json) (options : Options) (plan : Plan)
    (firstReads : Plan.canonical first = .ok plan) (secondReads : Plan.canonical second = .ok plan)
    (alike : options.maxSteps ≤ 0 ∨ paddedAddresses first = paddedAddresses second) :
    simulate first options = simulate second options := by
  have prepared : prepare first options = prepare second options := by
    rcases alike with noBudget | samePadding
    · unfold prepare
      dsimp only
      rw [if_pos noBudget, if_pos noBudget]
    · apply prepare_congr
      · rw [violations_of_canonical first plan firstReads, violations_of_canonical second plan secondReads,
          samePadding]
      · rw [firstReads, secondReads]
  rw [simulate, execute, prepared]
  rfl

theorem padding_tells_apart (first second : Json) (options : Options) (plan : Plan)
    (firstReads : Plan.canonical first = .ok plan) (secondReads : Plan.canonical second = .ok plan)
    (budget : ¬ options.maxSteps ≤ 0) (padded : 0 < paddedAddresses first)
    (differ : paddedAddresses first ≠ paddedAddresses second) :
    (simulate first options).toExcept? ≠ (simulate second options).toExcept? := by
  have firstRefused := padded_refused first plan options firstReads budget padded
  rw [firstRefused]
  by_cases unpadded : paddedAddresses second = 0
  · have someSteps := padded_has_steps first plan firstReads padded
    exact (unpadded_not_invalid second plan options _ secondReads budget someSteps unpadded).symm
  · have secondPadded := Nat.pos_iff_ne_zero.mpr unpadded
    rw [padded_refused second plan options secondReads budget secondPadded]
    intro same
    simp only [Outcome.toExcept?, Failure.of, Option.some.injEq, Except.error.injEq, Failure.mk.injEq,
      true_and, and_true] at same
    exact differ (refusal_injective _ _ padded secondPadded same)

def visiting (url : String) : Json :=
  Sample.plan "visit" [Sample.stepOf "open" (.sandbox "s1" (.visit url))]

theorem visiting_canonical (url address : String) (normal : Text.normalize url = address)
    (http : IsHttp address) (filled : 1 ≤ address.length) (short : address.length ≤ 2048) :
    Plan.canonical (visiting url) = .ok ⟨"visit", 1, [⟨"open", .sandbox "s1" (.visit address)⟩]⟩ := by
  rw [canonical_ok_iff]
  have openId : 1 ≤ "open".length ∧ "open".length ≤ 256 := by decide
  have sessionId : 1 ≤ "s1".length ∧ "s1".length ≤ 256 := by decide
  have planId : 1 ≤ "visit".length ∧ "visit".length ≤ 256 := by decide
  have step : ReadsItem (Sample.stepOf "open" (.sandbox "s1" (.visit url)))
      ⟨"open", .sandbox "s1" (.visit address)⟩ := by
    refine ⟨_, rfl, rfl, ?_, ⟨"open", rfl, rfl, openId⟩, ⟨"s1", rfl, rfl, sessionId⟩,
      ⟨url, rfl, normal, filled, short⟩, http⟩
    simp [Only, Action.members, usedFields, textFields, Step.kind, Action.kind, SandboxAction.kind]
  refine ⟨_, rfl, ?_, ⟨"visit", rfl, rfl, planId⟩, ⟨⟨_, rfl, rfl⟩, rfl⟩, ⟨_, rfl, .cons step .nil⟩, by simp⟩
  simp [Only]

theorem visiting_example (url : String) (normal : Text.normalize url = "https://example.com") :
    Plan.canonical (visiting url) =
      .ok ⟨"visit", 1, [⟨"open", .sandbox "s1" (.visit "https://example.com")⟩]⟩ :=
  visiting_canonical url _ normal (Or.inr ⟨"example.com".toList, by decide⟩) (by decide) (by decide)

-- Two plans with one canonical form have the same outcome just when as many addresses of the one have a
-- blank in front as of the other, or no step may be run. So a plan that was run can be written in any way
-- that keeps its canonical form, unless a blank gets in front of an address.
theorem canonical_form_decides_outcome (first second : Json) (options : Options) (plan : Plan)
    (firstReads : Plan.canonical first = .ok plan) (secondReads : Plan.canonical second = .ok plan) :
    ((simulate first options).toExcept? = (simulate second options).toExcept? ↔
      options.maxSteps ≤ 0 ∨ paddedAddresses first = paddedAddresses second) ∧
    ∀ result, simulate first options = .result result →
      (simulate second options = .result result ↔ paddedAddresses second = 0) := by
  refine ⟨⟨?_, ?_⟩, ?_⟩
  · intro same
    by_cases noBudget : options.maxSteps ≤ 0
    · exact Or.inl noBudget
    · refine Or.inr (Decidable.byContradiction fun differ => ?_)
      by_cases unpadded : paddedAddresses first = 0
      · have padded : 0 < paddedAddresses second := by omega
        exact padding_tells_apart second first options plan secondReads firstReads noBudget padded
          (Ne.symm differ) same.symm
      · exact padding_tells_apart first second options plan firstReads secondReads noBudget
          (Nat.pos_iff_ne_zero.mpr unpadded) differ same
  · intro alike
    rw [simulate_congr first second options plan firstReads secondReads alike]
  · intro result done
    have budget : ¬ options.maxSteps ≤ 0 := by
      intro noBudget
      rw [simulate, execute, prepare, if_pos noBudget] at done
      cases done
    have unpadded : paddedAddresses first = 0 := by
      refine Decidable.byContradiction fun padded => ?_
      rw [padded_refused first plan options firstReads budget (Nat.pos_iff_ne_zero.mpr padded)] at done
      cases done
    constructor
    · intro secondDone
      refine Decidable.byContradiction fun padded => ?_
      rw [padded_refused second plan options secondReads budget (Nat.pos_iff_ne_zero.mpr padded)] at secondDone
      cases secondDone
    · intro secondUnpadded
      rw [← done]
      exact (simulate_congr first second options plan firstReads secondReads
        (Or.inr (unpadded.trans secondUnpadded.symm))).symm

theorem visits_with_one_outcome :
    (simulate (visiting "https://example.com") {}).toExcept? =
      (simulate (visiting "https://example.com ") {}).toExcept? :=
  (canonical_form_decides_outcome (visiting "https://example.com") (visiting "https://example.com ") {} _
    (visiting_example "https://example.com" rfl) (visiting_example "https://example.com " rfl)).1.mpr
      (Or.inr (by decide))

-- The canonical form alone does not decide.
theorem padded_address_refused :
    ¬ ∀ (first second : Json) (options : Options) (plan : Plan), Plan.canonical first = .ok plan →
      Plan.canonical second = .ok plan →
        (simulate first options).toExcept? = (simulate second options).toExcept? := by
  intro agree
  have same := agree (visiting " https://example.com") (visiting "https://example.com") {} _
    (visiting_example " https://example.com" rfl) (visiting_example "https://example.com" rfl)
  exact padding_tells_apart _ _ {} _ (visiting_example " https://example.com" rfl)
    (visiting_example "https://example.com" rfl) (by decide) (by decide) (by decide) same

end PlanChain
