import PlanChain.Proofs.Execution.Meaning
import PlanChain.Proofs.Execution.Resubmission
import PlanChain.Proofs.Text.Digits

set_option autoImplicit false

namespace PlanChain

open Grammar

def increments (key : String) (steps : List Step) : Nat := steps.countP (·.counter? = some key)

def mostIncrements : Nat := 1024

section Room

variable {key : String} {steps : List Step} {step : Step}

theorem increment_moves (key : String) (limit : Nat) (bounded : step.distance ≤ limit) :
    ((step.incrementOf? key).getD 0).natAbs ≤ if step.counter? = some key then limit else 0 := by
  split
  · exact Nat.le_trans (increment_bounded key step) bounded
  · rename_i other
    rw [increment_counter other]
    exact Nat.le_refl 0

theorem added_within (limit : Nat) (bounded : ∀ step ∈ steps, step.distance ≤ limit) :
    (addedTo key steps).natAbs ≤ increments key steps * limit := by
  induction steps with
  | nil => exact Nat.zero_le _
  | cons step rest ih =>
      have moved := increment_moves key limit (bounded step List.mem_cons_self)
      have others := ih fun other among => bounded other (List.mem_cons_of_mem step among)
      have counted : increments key (step :: rest) * limit =
          increments key rest * limit + if step.counter? = some key then limit else 0 := by
        rw [increments, List.countP_cons, Nat.add_mul]
        by_cases own : step.counter? = some key <;> simp [own, increments]
      rw [addedTo, counted]
      omega

theorem increments_take (key : String) (steps : List Step) (count : Nat) :
    increments key (steps.take count) ≤ increments key steps :=
  (List.take_sublist count steps).countP_le

theorem few_in_range {sum : Int} {count : Nat} (few : count ≤ mostIncrements)
    (bounded : sum.natAbs ≤ count * maxSafeInteger) : InRange sum := by
  have most : count * maxSafeInteger ≤ mostIncrements * maxSafeInteger := Nat.mul_le_mul_right _ few
  have room : mostIncrements * maxSafeInteger = 9223372036854774784 := rfl
  have low : Int64.minValue.toInt = -9223372036854775808 := rfl
  have high : Int64.maxValue.toInt = 9223372036854775807 := rfl
  rw [InRange, low, high]
  omega

theorem few_increments_fit (safe : ∀ step ∈ steps, step.distance ≤ maxSafeInteger)
    (few : ∀ key, increments key steps ≤ mostIncrements) (count : Nat) : CountersFit (steps.take count) := by
  intro key
  have safeTaken : ∀ step ∈ steps.take count, step.distance ≤ maxSafeInteger :=
    fun step among => safe step (List.mem_of_mem_take among)
  exact few_in_range (Nat.le_trans (increments_take key steps count) (few key)) (added_within maxSafeInteger safeTaken)

end Room

section Plans

theorem read_step_safe {item : Json} {step : Step} (reads : ReadsItem item step) : step.distance ≤ maxSafeInteger := by
  obtain ⟨members, -, readsStep⟩ := reads
  have actionReads := readsStep.action
  obtain ⟨id, action⟩ := step
  cases action with
  | increment key amount => exact actionReads.2.2
  | _ => exact Nat.zero_le _

theorem read_steps_safe {items : List Json} {steps : List Step} (reads : List.Forall₂ ReadsItem items steps) :
    ∀ step ∈ steps, step.distance ≤ maxSafeInteger := by
  induction reads with
  | nil => exact nofun
  | cons head _ ih => exact List.forall_mem_cons.mpr ⟨read_step_safe head, ih⟩

theorem canonical_steps_safe {raw : Json} {plan : Plan} (canonical : Plan.canonical raw = .ok plan) :
    ∀ step ∈ plan.steps, step.distance ≤ maxSafeInteger := by
  obtain ⟨members, -, reads⟩ := (canonical_ok_iff raw plan).mp canonical
  obtain ⟨items, -, itemsRead⟩ := reads.steps
  exact read_steps_safe itemsRead

variable {raw : Json} {options : Options} {prepared : Prepared}

theorem budget_few (ready : prepare raw options = .ok prepared) (small : options.maxSteps.toInt ≤ mostIncrements)
    (key : String) : increments key prepared.plan.steps ≤ mostIncrements := by
  obtain ⟨-, -, -, bound, -⟩ := (prepare_ok_iff raw options prepared).mp ready
  have counted : increments key prepared.plan.steps ≤ prepared.plan.steps.length := List.countP_le_length
  omega

theorem simulated_computes (ready : prepare raw options = .ok prepared) :
    ∃ progress, simulate raw options = .ofProgress prepared progress ∧ Computes prepared.plan.steps progress := by
  have computes := walk_computes prepared.plan.steps ⟨options.traceId, prepared.plan.planId⟩ .empty () means_nothing
    fun count _ => by rw [List.take_nil]; exact nothing_fits
  rw [List.nil_append] at computes
  exact ⟨_, by rw [simulate, execute, ready]; rfl, computes⟩

theorem fitting_simulated (ready : prepare raw options = .ok prepared)
    (fit : ∀ count, CountersFit (prepared.plan.steps.take count)) :
    ∃ result, simulate raw options = .result result := by
  obtain ⟨progress, ends, computes⟩ := simulated_computes ready
  rw [ends]
  cases computes with
  | meaning chain state _ _ => exact ⟨_, rfl⟩
  | overflow index key leaves => exact absurd fit (overflow_not_fit leaves)

end Plans

section Filling

def filling (count : Nat) (amount : Int64) : Plan :=
  ⟨"fill", 1, (List.range count).map fun index => ⟨Text.numeral index, .increment "n" amount⟩⟩

variable {count : Nat} {amount : Int64}

theorem filling_added (count : Nat) (amount : Int64) :
    addedTo "n" (filling count amount).steps = count * amount.toInt := by
  induction count with
  | zero => simp [filling, addedTo]
  | succ count ih =>
      have grown : (filling (count + 1) amount).steps =
          (filling count amount).steps ++ [⟨Text.numeral count, .increment "n" amount⟩] := by
        simp [filling, List.range_succ]
      rw [grown, added_last, ih]
      simp [Step.incrementOf?, Int.add_mul]

theorem filling_take (count taken : Nat) (amount : Int64) :
    (filling count amount).steps.take taken = (filling (min taken count) amount).steps := by
  rw [filling, filling, ← List.map_take, List.take_range]

theorem filling_counts (count : Nat) (amount : Int64) :
    ∀ step ∈ (filling count amount).steps, step.counter? = some "n" := by
  intro step among
  obtain ⟨index, -, rfl⟩ := List.mem_map.mp among
  rfl

theorem filling_increments (count : Nat) (amount : Int64) : increments "n" (filling count amount).steps = count := by
  have all : increments "n" (filling count amount).steps = (filling count amount).steps.length :=
    List.countP_eq_length.mpr fun step among => by simp [filling_counts count amount step among]
  rw [all]
  simp [filling]

theorem filling_increments_elsewhere (count : Nat) (amount : Int64) {key : String} (other : key ≠ "n") :
    increments key (filling count amount).steps = 0 :=
  List.countP_eq_zero.mpr fun step among => by simp [filling_counts count amount step among, other.symm]

theorem digit_plain (c : Char) (digit : Text.isDecimalDigit c = true) : c.toNat < 0x300 ∧ Text.isBlank c = false := by
  unfold Text.isDecimalDigit Text.decimalDigit? at digit
  split at digit
  · rename_i between
    have low : '0'.toNat ≤ c.toNat := between.1
    have high : c.toNat ≤ '9'.toNat := between.2
    have zero : '0'.toNat = 48 := rfl
    have nine : '9'.toNat = 57 := rfl
    refine ⟨by omega, ?_⟩
    simp only [Text.isBlank, Bool.or_eq_false_iff, Bool.and_eq_false_iff, decide_eq_false_iff_not]
    omega
  · cases digit

theorem numeral_normal (index : Nat) : Text.normalize (Text.numeral index) = Text.numeral index := by
  refine Text.normalize_plain _ fun c present => digit_plain c (Text.decimal_all_digits index c ?_)
  rwa [Text.numeral, String.toList_ofList] at present

theorem filling_step_reads (index : Nat) (short : index < Nat.pow 10 256)
    (safe : amount.toInt.natAbs ≤ maxSafeInteger) :
    ReadsItem (Step.toJson ⟨Text.numeral index, .increment "n" amount⟩)
      ⟨Text.numeral index, .increment "n" amount⟩ := by
  have id : 1 ≤ (Text.numeral index).length ∧ (Text.numeral index).length ≤ 256 := by
    rw [Text.numeral, String.length_ofList]
    exact ⟨List.length_pos_iff.mpr (Text.decimal_nonempty index), Text.decimal_length 255 index short⟩
  have key : 1 ≤ "n".length ∧ "n".length ≤ 256 := by decide
  refine ⟨_, rfl, rfl, ?_, ⟨_, rfl, numeral_normal index, id⟩, ⟨"n", rfl, rfl, key⟩, ⟨_, rfl, rfl⟩, safe⟩
  simp [Only, Action.members, usedFields, Step.kind, Action.kind]

theorem filling_canonical (short : count ≤ Nat.pow 10 256) (safe : amount.toInt.natAbs ≤ maxSafeInteger) :
    Plan.canonical (filling count amount).toJson = .ok (filling count amount) := by
  have planId : 1 ≤ "fill".length ∧ "fill".length ≤ 256 := by decide
  have reads : List.Forall₂ ReadsItem ((filling count amount).steps.map Step.toJson) (filling count amount).steps := by
    rw [List.forall₂_map_left_iff, List.forall₂_same]
    intro step among
    obtain ⟨index, below, rfl⟩ := List.mem_map.mp among
    exact filling_step_reads index (Nat.lt_of_lt_of_le (List.mem_range.mp below) short) safe
  have distinct : ((filling count amount).steps.map Step.id).Nodup := by
    rw [filling, List.map_map]
    refine List.Nodup.map (fun first second same => ?_) List.nodup_range
    exact Text.decimal_injective first second (String.ofList_injective same)
  rw [canonical_ok_iff]
  refine ⟨_, rfl, ?_, ⟨"fill", rfl, rfl, planId⟩, ⟨⟨_, rfl, rfl⟩, rfl⟩, ⟨_, rfl, reads⟩, distinct⟩
  simp [Only]

theorem filling_prepared {options : Options} (positive : 0 < count) (short : count ≤ Nat.pow 10 256)
    (safe : amount.toInt.natAbs ≤ maxSafeInteger) (budget : (count : Int) ≤ options.maxSteps.toInt) :
    prepare (filling count amount).toJson options =
      .ok ⟨filling count amount, (filling count amount).digest⟩ := by
  have canonical := filling_canonical short safe
  have length : (filling count amount).steps.length = count := by simp [filling]
  have someSteps : (filling count amount).steps ≠ [] := List.ne_nil_of_length_pos (by rw [length]; exact positive)
  have clean := (canonical_not_violated canonical someSteps).2
  exact (prepare_ok_iff _ _ _).mpr ⟨by omega, clean, canonical, by rw [length]; exact budget, rfl⟩

theorem overfilled_out_of_range (greatest : amount.toInt.natAbs = maxSafeInteger) (taken : Nat) :
    InRange (taken * amount.toInt) ↔ taken ≤ mostIncrements := by
  have safe : maxSafeInteger = 9007199254740991 := rfl
  have most : mostIncrements = 1024 := rfl
  have low : Int64.minValue.toInt = -9223372036854775808 := rfl
  have high : Int64.maxValue.toInt = 9223372036854775807 := rfl
  rw [safe] at greatest
  rw [InRange, low, high, most]
  rcases Int.natAbs_eq_iff.mp greatest with up | down
  · rw [up]
    omega
  · rw [down]
    omega

theorem filling_overflows {options : Options} (greatest : amount.toInt.natAbs = maxSafeInteger)
    (budget : (mostIncrements + 1 : Nat) ≤ options.maxSteps.toInt) :
    simulate (filling (mostIncrements + 1) amount).toJson options =
      .halted ⟨(StepError.counterOverflow "n").toFailure, some mostIncrements⟩ := by
  have short : mostIncrements + 1 ≤ Nat.pow 10 256 := by decide
  have ready := filling_prepared (Nat.succ_pos mostIncrements) short (Nat.le_of_eq greatest) budget
  have sum (taken : Nat) : addedTo "n" ((filling (mostIncrements + 1) amount).steps.take taken) =
      (min taken (mostIncrements + 1) : Nat) * amount.toInt := by
    rw [filling_take, filling_added]
  have inRange (taken : Nat) : InRange (addedTo "n" ((filling (mostIncrements + 1) amount).steps.take taken)) ↔
      min taken (mostIncrements + 1) ≤ mostIncrements := by
    rw [sum, overfilled_out_of_range greatest]
  obtain ⟨progress, ends, computes⟩ := simulated_computes ready
  rw [ends]
  cases computes with
  | meaning chain state fit _ =>
      have last := (inRange (mostIncrements + 1)).mp (fit (mostIncrements + 1) "n")
      omega
  | overflow index key leaves =>
      obtain ⟨step, found, counts⟩ := leaves.increment
      have isKey := filling_counts _ _ step (List.mem_of_getElem? found)
      rw [counts] at isKey
      cases isKey
      have within : index < mostIncrements + 1 := by
        obtain ⟨bound, -⟩ := List.getElem?_eq_some_iff.mp found
        simpa [filling] using bound
      have late := mt (inRange (index + 1)).mpr leaves.outside
      have isLast : index = mostIncrements := by omega
      rw [isLast]
      rfl

end Filling

-- A plan that moves no counter by more than 1024 steps, and so every plan that is run with a budget of 1024, is
-- simulated to its end. With 1025 steps that move one counter a plan may fail, at the last of them.
theorem few_increments_never_overflow :
    (∀ (raw : Json) (options : Options) (prepared : Prepared), prepare raw options = .ok prepared →
      (options.maxSteps.toInt ≤ 1024 ∨ ∀ key, increments key prepared.plan.steps ≤ 1024) →
        ∃ result, simulate raw options = .result result) ∧
    ∃ (raw : Json) (options : Options) (prepared : Prepared), prepare raw options = .ok prepared ∧
      increments "n" prepared.plan.steps = 1025 ∧ (∀ key ≠ "n", increments key prepared.plan.steps = 0) ∧
      simulate raw options = .halted ⟨(StepError.counterOverflow "n").toFailure, some 1024⟩ := by
  constructor
  · intro raw options prepared ready few
    have canonical := ((prepare_ok_iff raw options prepared).mp ready).2.2.1
    have fewEach : ∀ key, increments key prepared.plan.steps ≤ mostIncrements := by
      rcases few with small | few
      · exact budget_few ready small
      · exact few
    exact fitting_simulated ready (few_increments_fit (canonical_steps_safe canonical) fewEach)
  · have greatest : (9007199254740991 : Int64).toInt.natAbs = maxSafeInteger := rfl
    exact ⟨(filling 1025 9007199254740991).toJson, { maxSteps := 1025 }, _,
      filling_prepared (by decide) (by decide) (Nat.le_of_eq greatest) (by decide),
      filling_increments 1025 _, fun key other => filling_increments_elsewhere 1025 _ other,
      filling_overflows greatest (by decide)⟩

theorem filled_counter_holds :
    let raw := (filling 1024 (-9007199254740991)).toJson
    let options : Options := { maxSteps := 5000 }
    let prepared : Prepared := ⟨filling 1024 (-9007199254740991), (filling 1024 (-9007199254740991)).digest⟩
    prepare raw options = .ok prepared ∧ (∀ key, increments key prepared.plan.steps ≤ 1024) ∧
      addedTo "n" prepared.plan.steps = -9223372036854774784 ∧ ∃ result, simulate raw options = .result result := by
  intro raw options prepared
  have ready : prepare raw options = .ok prepared :=
    filling_prepared (by decide) (by decide) (by decide) (by decide)
  have few : ∀ key, increments key prepared.plan.steps ≤ 1024 := by
    intro key
    by_cases own : key = "n"
    · rw [own, filling_increments]
    · rw [filling_increments_elsewhere _ _ own]
      exact Nat.zero_le _
  exact ⟨ready, few, filling_added 1024 _,
    few_increments_never_overflow.1 raw options prepared ready (Or.inr few)⟩

end PlanChain
