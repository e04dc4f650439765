import PlanChain.Execution.Apply

set_option autoImplicit false

namespace PlanChain

namespace Step

def incrementOf? (key : String) (step : Step) : Option Int :=
  match step.action with
  | .increment name amount => if name = key then some amount.toInt else none
  | _ => none

def distance (step : Step) : Nat :=
  match step.action with
  | .increment _ amount => amount.toInt.natAbs
  | _ => 0

end Step

def addedTo (key : String) : List Step → Int
  | [] => 0
  | step :: rest => (step.incrementOf? key).getD 0 + addedTo key rest

def turnover : List Step → Nat
  | [] => 0
  | step :: rest => step.distance + turnover rest

def CountersFit (steps : List Step) : Prop :=
  ∀ key, Int64.minValue.toInt ≤ addedTo key steps ∧ addedTo key steps ≤ Int64.maxValue.toInt

-- The counters of a state are the exact sums of what was added to them.
def Counted (steps : List Step) (state : State) : Prop :=
  ∀ key, ((state.counters.get? key).getD 0).toInt = addedTo key steps

section Bounds

theorem increment_bounded (key : String) (step : Step) :
    ((step.incrementOf? key).getD 0).natAbs ≤ step.distance := by
  obtain ⟨id, action⟩ := step
  cases action with
  | increment name amount =>
      by_cases own : name = key
      · simp [Step.incrementOf?, Step.distance, own]
      · simp [Step.incrementOf?, own]
  | _ => exact Nat.zero_le _

theorem added_bounded (key : String) (steps : List Step) : (addedTo key steps).natAbs ≤ turnover steps := by
  induction steps with
  | nil => exact Nat.le_refl 0
  | cons step rest ih =>
      have bounded := increment_bounded key step
      rw [addedTo, turnover]
      omega

theorem turnover_take (steps : List Step) (count : Nat) : turnover (steps.take count) ≤ turnover steps := by
  induction steps generalizing count with
  | nil => exact Nat.le_of_eq (congrArg turnover List.take_nil)
  | cons step rest ih =>
      cases count with
      | zero => exact Nat.zero_le _
      | succ count =>
          rw [List.take_succ_cons, turnover, turnover]
          exact Nat.add_le_add_left (ih count) _

theorem counters_fit_of_turnover (steps : List Step) (small : turnover steps ≤ Int64.maxValue.toInt.toNat)
    (count : Nat) : CountersFit (steps.take count) := by
  intro key
  have bounded := added_bounded key (steps.take count)
  have part := turnover_take steps count
  have low : Int64.minValue.toInt = -9223372036854775808 := rfl
  have high : Int64.maxValue.toInt = 9223372036854775807 := rfl
  rw [high] at small
  rw [low, high]
  omega

theorem added_append (key : String) (steps others : List Step) :
    addedTo key (steps ++ others) = addedTo key steps + addedTo key others := by
  induction steps with
  | nil => exact (Int.zero_add _).symm
  | cons step rest ih => rw [List.cons_append, addedTo, addedTo, ih, Int.add_assoc]

end Bounds

section Steps

variable {steps : List Step} {index : Nat} {step : Step}

theorem added_next (key : String) (found : steps[index]? = some step) :
    addedTo key (steps.take (index + 1)) = addedTo key (steps.take index) + (step.incrementOf? key).getD 0 := by
  rw [List.take_add_one, found, Option.toList_some, added_append, addedTo, addedTo, Int.add_zero]

theorem counted_same (found : steps[index]? = some step) (noIncrement : ∀ key, step.incrementOf? key = none)
    (state next : State) (counted : Counted (steps.take index) state) (same : next.counters = state.counters) :
    Counted (steps.take (index + 1)) next := by
  intro key
  rw [same, counted key, added_next key found, noIncrement key, Option.getD_none, Int.add_zero]

theorem int64_in_range (value : Int) (least : Int64.minValue.toInt ≤ value) (most : value ≤ Int64.maxValue.toInt) :
    ∃ word, Word.int64? value = some word ∧ word.toInt = value := by
  have low : Int64.minValue.toInt = -9223372036854775808 := rfl
  have high : Int64.maxValue.toInt = 9223372036854775807 := rfl
  exact ⟨Int64.ofInt value, if_pos ⟨least, most⟩, Int64.toInt_ofInt_of_le (by omega) (by omega)⟩

theorem started_counter (counters : Table Int64) (key other : String) :
    ((if counters.contains key then counters else counters.insert key 0).get? other).getD 0 =
      (counters.get? other).getD 0 := by
  cases present : counters.contains key with
  | true => rw [if_pos rfl]
  | false =>
      rw [if_neg (by simp), Table.get?_insert]
      by_cases own : other = key
      · have missing : counters.get? key = none := by
          simpa [Table.contains] using present
        simp [own, missing]
      · rw [if_neg own]

theorem core_step_counted (found : steps[index]? = some step) (core : step.action.isSandbox = false)
    (fit : CountersFit (steps.take (index + 1))) (state : State) (counted : Counted (steps.take index) state) :
    ∃ next, state.simulate step = .ok next ∧ Counted (steps.take (index + 1)) next := by
  obtain ⟨id, action⟩ := step
  cases action with
  | sandbox sessionId action => cases core
  | set key value =>
      exact ⟨_, rfl, counted_same found (fun _ => rfl) state _ counted rfl⟩
  | appendLog line =>
      exact ⟨_, rfl, counted_same found (fun _ => rfl) state _ counted rfl⟩
  | increment key amount =>
      have grown := added_next key found
      obtain ⟨least, most⟩ := fit key
      have adds : Step.incrementOf? key ⟨id, .increment key amount⟩ = some amount.toInt := by simp [Step.incrementOf?]
      rw [adds, Option.getD_some, ← counted key] at grown
      obtain ⟨sum, isWord, isSum⟩ := int64_in_range _ (grown ▸ least) (grown ▸ most)
      have added : checkedAdd ((state.counters.get? key).getD 0) amount = some sum := isWord
      refine ⟨{ state with counters := (if state.counters.contains key then state.counters
        else state.counters.insert key 0).insert key sum }, ?_, fun other => ?_⟩
      · simp only [State.simulate, State.perform, started_counter, added]
      · dsimp only
        rw [Table.get?_insert]
        by_cases own : other = key
        · rw [if_pos own, Option.getD_some, isSum, own, grown]
        · have elsewhere : Step.incrementOf? other ⟨id, .increment key amount⟩ = none := by
            simp [Step.incrementOf?, Ne.symm own]
          rw [if_neg own, started_counter, counted other, added_next other found, elsewhere, Option.getD_none,
            Int.add_zero]

theorem counted_start : Counted [] State.empty := fun _ => rfl

end Steps

end PlanChain
