import PlanChain.Proofs.Execution.Counters
import PlanChain.Proofs.Execution.Prepare
import PlanChain.Sample

set_option autoImplicit false

namespace PlanChain

namespace Step

def counter? (step : Step) : Option String :=
  match step.action with
  | .increment key _ => some key
  | _ => none

-- The name and the text that a step stores. No session is there to be read, so a text is made up for what is read.
def stored? (step : Step) : Option (String × String) :=
  match step.action with
  | .set key value => some (key, value)
  | .sandbox _ (.extract selector outputKey) => some (outputKey, "mock:" ++ selector)
  | _ => none

def line? (step : Step) : Option String :=
  match step.action with
  | .appendLog line => some line
  | .sandbox sessionId action => some (action.logLine sessionId)
  | _ => none

end Step

def lastStored (name : String) (steps : List Step) : Option String :=
  ((steps.filterMap Step.stored?).filter (·.1 = name)).getLast?.map (·.2)

structure Means (steps : List Step) (state : State) : Prop where
  counters : ∀ key, (state.counters.get? key).map Int64.toInt =
    if key ∈ steps.filterMap Step.counter? then some (addedTo key steps) else none
  values : ∀ name, state.values.get? name = lastStored name steps
  logs : state.logs = steps.filterMap Step.line?

def InRange (sum : Int) : Prop := Int64.minValue.toInt ≤ sum ∧ sum ≤ Int64.maxValue.toInt

structure LeavesRange (steps : List Step) (index : Nat) (key : String) : Prop where
  increment : ∃ step, steps[index]? = some step ∧ step.counter? = some key
  fitBefore : ∀ count ≤ index, CountersFit (steps.take count)
  outside : ¬ InRange (addedTo key (steps.take (index + 1)))

section Sums

variable {key : String} {steps : List Step} {step : Step}

theorem increment_counter (other : step.counter? ≠ some key) : step.incrementOf? key = none := by
  obtain ⟨id, action⟩ := step
  cases action with
  | increment name amount =>
      have different : name ≠ key := fun same => other (congrArg some same)
      exact if_neg different
  | _ => rfl

theorem added_last (key : String) (steps : List Step) (step : Step) :
    addedTo key (steps ++ [step]) = addedTo key steps + (step.incrementOf? key).getD 0 := by
  rw [added_append, addedTo, addedTo, Int.add_zero]

theorem added_elsewhere (other : step.counter? ≠ some key) : addedTo key (steps ++ [step]) = addedTo key steps := by
  rw [added_last, increment_counter other, Option.getD_none, Int.add_zero]

theorem added_unnamed (unnamed : key ∉ steps.filterMap Step.counter?) : addedTo key steps = 0 := by
  induction steps with
  | nil => rfl
  | cons step rest ih =>
      have other : step.counter? ≠ some key := fun named =>
        unnamed (List.mem_filterMap.mpr ⟨step, List.mem_cons_self, named⟩)
      have later : key ∉ rest.filterMap Step.counter? := fun among => by
        obtain ⟨found, isFound, named⟩ := List.mem_filterMap.mp among
        exact unnamed (List.mem_filterMap.mpr ⟨found, List.mem_cons_of_mem step isFound, named⟩)
      rw [addedTo, increment_counter other, ih later]
      rfl

theorem counters_fit_elsewhere (core : step.counter? = none) (fit : CountersFit steps) :
    CountersFit (steps ++ [step]) := by
  intro key
  rw [added_elsewhere (by rw [core]; exact nofun)]
  exact fit key

end Sums

section Steps

variable {done : List Step} {state : State} {step : Step}

theorem nothing_fits : CountersFit [] := by
  intro key
  change InRange 0
  exact ⟨by decide, by decide⟩

theorem means_nothing : Means [] .empty := ⟨fun _ => rfl, fun _ => rfl, rfl⟩

theorem means_counted (means : Means done state) : Counted done state := by
  intro key
  have found := means.counters key
  split at found
  · obtain ⟨word, isWord, same⟩ := Option.map_eq_some_iff.mp found
    rw [isWord, Option.getD_some, same]
  · rename_i unnamed
    rw [Option.map_eq_none_iff.mp found, added_unnamed unnamed]
    rfl

theorem last_stored_next (name : String) (done : List Step) (step : Step) :
    lastStored name (done ++ [step]) =
      match step.stored? with
      | some entry => if entry.1 = name then some entry.2 else lastStored name done
      | none => lastStored name done := by
  rw [lastStored, List.filterMap_append, List.filter_append]
  cases stored : step.stored? with
  | none => simp [stored, lastStored]
  | some entry =>
      by_cases own : entry.1 = name
      · simp [stored, own]
      · simp [stored, own, lastStored]

theorem lines_next (done : List Step) (step : Step) :
    (done ++ [step]).filterMap Step.line? = done.filterMap Step.line? ++ step.line?.toList := by
  rw [List.filterMap_append]
  cases line : step.line? <;> simp [line]

theorem uncounted_counters (core : step.counter? = none) (means : Means done state) (key : String) :
    (state.counters.get? key).map Int64.toInt =
      if key ∈ (done ++ [step]).filterMap Step.counter? then some (addedTo key (done ++ [step])) else none := by
  have names : (done ++ [step]).filterMap Step.counter? = done.filterMap Step.counter? := by
    simp [List.filterMap_append, core]
  rw [names, added_elsewhere (by rw [core]; exact nofun)]
  exact means.counters key

theorem uncounted_step_means (core : step.counter? = none) (means : Means done state) :
    ∃ next, state.simulate step = .ok next ∧ Means (done ++ [step]) next := by
  have counters := uncounted_counters core means
  have values (name : String) := last_stored_next name done step
  have lines := lines_next done step
  obtain ⟨id, action⟩ := step
  cases action with
  | increment key amount => cases core
  | set key value =>
      refine ⟨_, rfl, counters, fun name => ?_, ?_⟩
      · rw [values]
        simp [Step.stored?, means.values, eq_comm]
      · rw [lines, means.logs]
        simp [Step.line?]
  | appendLog line =>
      refine ⟨_, rfl, counters, fun name => ?_, ?_⟩
      · rw [values]
        exact means.values name
      · rw [lines, means.logs]
        rfl
  | sandbox sessionId action =>
      refine ⟨_, rfl, counters, fun name => ?_, ?_⟩
      · rw [values]
        cases action with
        | extract selector outputKey =>
            simp [State.afterSandbox, SandboxAction.outputKey?, SandboxAction.selector?, State.placeholder,
              Step.stored?, means.values, eq_comm]
        | _ => exact means.values name
      · rw [lines]
        exact congrArg (· ++ [action.logLine sessionId]) means.logs

theorem started_elsewhere (counters : Table Int64) {key other : String} (different : other ≠ key) :
    (if counters.contains key then counters else counters.insert key 0).get? other = counters.get? other := by
  split
  · rfl
  · simp [different]

theorem increment_performed (state : State) (id key : String) (amount : Int64) :
    (∃ word counters, word.toInt = ((state.counters.get? key).getD 0).toInt + amount.toInt ∧
      (∀ other, counters.get? other = if other = key then some word else state.counters.get? other) ∧
      state.simulate ⟨id, .increment key amount⟩ = .ok { state with counters }) ∨
    (¬ InRange (((state.counters.get? key).getD 0).toInt + amount.toInt) ∧
      state.simulate ⟨id, .increment key amount⟩ = .error (.counterOverflow key)) := by
  by_cases inRange : InRange (((state.counters.get? key).getD 0).toInt + amount.toInt)
  · obtain ⟨word, isWord, isSum⟩ := int64_in_range _ inRange.1 inRange.2
    have added : checkedAdd ((state.counters.get? key).getD 0) amount = some word := isWord
    refine Or.inl ⟨word, (if state.counters.contains key then state.counters
      else state.counters.insert key 0).insert key word, isSum, fun other => ?_, ?_⟩
    · by_cases own : other = key
      · simp [own]
      · simp [own, started_elsewhere]
    · simp only [State.simulate, State.perform, started_counter, added]
  · have missing : checkedAdd ((state.counters.get? key).getD 0) amount = none := if_neg inRange
    refine Or.inr ⟨inRange, ?_⟩
    simp only [State.simulate, State.perform, started_counter, missing]

theorem increment_means (means : Means done state) {key : String} {amount word : Int64} {counters : Table Int64}
    (isStep : step.action = .increment key amount)
    (isSum : word.toInt = ((state.counters.get? key).getD 0).toInt + amount.toInt)
    (isAdded : ∀ other, counters.get? other = if other = key then some word else state.counters.get? other) :
    Means (done ++ [step]) { state with counters } := by
  have counts : step.counter? = some key := by rw [Step.counter?, isStep]
  have adds : step.incrementOf? key = some amount.toInt := by rw [Step.incrementOf?, isStep]; exact if_pos rfl
  have names : (done ++ [step]).filterMap Step.counter? = done.filterMap Step.counter? ++ [key] := by
    simp [List.filterMap_append, counts]
  refine ⟨fun other => ?_, fun name => ?_, ?_⟩
  · rw [isAdded, names]
    by_cases own : other = key
    · subst own
      rw [if_pos rfl, if_pos (List.mem_append_right _ List.mem_cons_self), Option.map_some, isSum, added_last, adds,
        Option.getD_some, means_counted means]
    · have elsewhere : step.counter? ≠ some other := by
        rw [counts]
        exact fun same => own (Option.some.inj same).symm
      rw [if_neg own, means.counters other, added_elsewhere elsewhere]
      simp [own]
  · have unstored : step.stored? = none := by rw [Step.stored?, isStep]
    rw [last_stored_next, unstored]
    exact means.values name
  · have silent : step.line? = none := by rw [Step.line?, isStep]
    rw [lines_next, silent, means.logs]
    exact (List.append_nil _).symm

theorem counters_fit_next {key : String} (counts : step.counter? = some key) (fit : CountersFit done)
    (inRange : InRange (addedTo key (done ++ [step]))) : CountersFit (done ++ [step]) := by
  intro other
  by_cases own : other = key
  · rw [own]
    exact inRange
  · have elsewhere : step.counter? ≠ some other := by
      rw [counts]
      exact fun same => own (Option.some.inj same).symm
    rw [added_elsewhere elsewhere]
    exact fit other

theorem step_means (means : Means done state) (fit : CountersFit done) (step : Step) :
    (∃ next, state.simulate step = .ok next ∧ Means (done ++ [step]) next ∧ CountersFit (done ++ [step])) ∨
      ∃ key, step.counter? = some key ∧ ¬ InRange (addedTo key (done ++ [step])) ∧
        state.simulate step = .error (.counterOverflow key) := by
  cases counts : step.counter? with
  | none =>
      obtain ⟨next, simulated, nextMeans⟩ := uncounted_step_means counts means
      exact Or.inl ⟨next, simulated, nextMeans, counters_fit_elsewhere counts fit⟩
  | some key =>
      obtain ⟨id, action⟩ := step
      cases action with
      | increment name amount =>
          cases counts
          have sum : addedTo key (done ++ [⟨id, .increment key amount⟩]) =
              ((state.counters.get? key).getD 0).toInt + amount.toInt := by
            rw [added_last, ← means_counted means]
            simp [Step.incrementOf?]
          rcases increment_performed state id key amount with ⟨word, counters, isSum, isAdded, simulated⟩ |
            ⟨outside, simulated⟩
          · have inRange : InRange (addedTo key (done ++ [⟨id, .increment key amount⟩])) := by
              rw [sum, ← isSum]
              exact ⟨Int64.minValue_le_toInt word, Int64.toInt_le word⟩
            exact Or.inl ⟨_, simulated, increment_means means rfl isSum isAdded, counters_fit_next rfl fit inRange⟩
          · exact Or.inr ⟨key, rfl, sum ▸ outside, simulated⟩
      | _ => cases counts

end Steps

inductive Computes (steps : List Step) : Progress → Prop where
  | meaning (chain : Trace.Chain) (state : State) (fit : ∀ count, CountersFit (steps.take count))
      (means : Means steps state) : Computes steps (.finished chain state)
  | overflow (index : Nat) (key : String) (leaves : LeavesRange steps index key) :
      Computes steps (.halted ⟨.of .internalError ("counter overflow on key '" ++ key ++ "'"), some index⟩)

section Walks

variable {σ : Type} {done : List Step} {state : State}

theorem taken_fit (fit : ∀ count ≤ done.length, CountersFit (done.take count)) (more : List Step) :
    ∀ count ≤ done.length, CountersFit ((done ++ more).take count) := by
  intro count within
  rw [List.take_append_of_le_length within]
  exact fit count within

-- By induction on the steps to come: the state so far holds what the steps done mean.
theorem walk_computes (rest : List Step) (reporter : Reporter) (chain : Trace.Chain) (world : σ)
    (means : Means done state) (fit : ∀ count ≤ done.length, CountersFit (done.take count)) :
    Computes (done ++ rest) (walk simulation reporter done.length chain state rest world).progress := by
  induction rest generalizing done chain state with
  | nil =>
      rw [List.append_nil]
      refine .meaning chain state (fun count => ?_) means
      -- What is taken beyond the end is all that is done.
      by_cases within : count ≤ done.length
      · exact fit count within
      · rw [List.take_of_length_le (Nat.le_of_not_le within), ← List.take_length (l := done)]
        exact fit done.length (Nat.le_refl _)
  | cons step rest ih =>
      have fitNow : CountersFit done := by
        have := fit done.length (Nat.le_refl _)
        rwa [List.take_length] at this
      have split : done ++ step :: rest = done ++ [step] ++ rest := by rw [List.append_assoc, List.singleton_append]
      rw [walk]
      rcases step_means means fitNow step with ⟨next, simulated, nextMeans, nextFit⟩ | ⟨key, counts, outside, simulated⟩
      · have applied : simulation state step world = (.next next, world) := by
          rw [simulation, simulated, Applied.ofExcept]
        have length : (done ++ [step]).length = done.length + 1 := List.length_append
        rw [applied, split, ← length]
        refine ih _ nextMeans fun count within => ?_
        by_cases isWhole : count = (done ++ [step]).length
        · rw [isWhole, List.take_length]
          exact nextFit
        · exact taken_fit fit [step] count (by omega)
      · have applied : simulation state step world = (.error (.counterOverflow key), world) := by
          rw [simulation, simulated, Applied.ofExcept]
        have isTaken : (done ++ step :: rest).take (done.length + 1) = done ++ [step] := by
          rw [split]
          exact List.take_left' List.length_append
        rw [applied]
        refine .overflow done.length key ⟨⟨step, ?_, counts⟩, taken_fit fit _, ?_⟩
        · rw [List.getElem?_append_right (Nat.le_refl _), Nat.sub_self, List.getElem?_cons_zero]
        · rw [isTaken]
          exact outside

theorem overflow_not_fit {steps : List Step} {index : Nat} {key : String} (leaves : LeavesRange steps index key) :
    ¬ ∀ count, CountersFit (steps.take count) :=
  fun fit => leaves.outside (fit (index + 1) key)

end Walks

section Runs

variable {raw : Json} {options : Options} {prepared : Prepared}

-- A simulation succeeds just when every counter stays in its range all the way, and leaves what the plan means; if
-- not, it fails at the first step that takes a counter out, and names it.
theorem simulation_computes_meaning (isPrepared : prepare raw options = .ok prepared) :
    let steps := prepared.plan.steps
    let outcome := simulate raw options
    ((∃ result, outcome = .result result) ↔ ∀ count, CountersFit (steps.take count)) ∧
      (∀ result, outcome = .result result → Means steps result.finalState) ∧
      ((¬ ∀ count, CountersFit (steps.take count)) → ∃ index key, LeavesRange steps index key ∧
        outcome = .halted ⟨.of .internalError ("counter overflow on key '" ++ key ++ "'"), some index⟩) := by
  intro steps outcome
  have ends : outcome = .ofProgress prepared
      (walk simulation ⟨options.traceId, prepared.plan.planId⟩ 0 .empty .empty steps ()).progress := by
    simp only [outcome, simulate, execute, isPrepared, steps]
  have computes := walk_computes steps ⟨options.traceId, prepared.plan.planId⟩ .empty () means_nothing
    (fun count _ => by
      rw [List.take_nil]
      exact nothing_fits)
  rw [List.nil_append] at computes
  rw [ends]
  generalize (walk simulation ⟨options.traceId, prepared.plan.planId⟩ 0 .empty .empty steps ()).progress = progress
    at computes
  cases computes with
  | meaning chain state fit means =>
      refine ⟨iff_of_true ⟨_, rfl⟩ fit, fun result succeeded => ?_, fun unfit => absurd fit unfit⟩
      cases succeeded
      exact means
  | overflow index key leaves =>
      refine ⟨iff_of_false ?_ (overflow_not_fit leaves), ?_, fun _ => ⟨index, key, leaves, rfl⟩⟩
      · rintro ⟨result, ⟨⟩⟩
      · rintro result ⟨⟩

def overlappingPlan : Plan := ⟨"overlap", 1, [⟨"set", .set "k" "v"⟩, ⟨"up", .increment "k" 5⟩,
  ⟨"read", .sandbox "s" (.extract "#out" "k")⟩, ⟨"note", .appendLog "half"⟩, ⟨"down", .increment "k" (-8)⟩,
  ⟨"setToo", .set "n" "w"⟩]⟩

theorem overlapping_plan_computed :
    let raw := overlappingPlan.toJson
    let steps := overlappingPlan.steps
    prepare raw {} = .ok ⟨overlappingPlan, overlappingPlan.digest⟩ ∧
      addedTo "k" steps = -3 ∧ lastStored "k" steps = some "mock:#out" ∧ lastStored "n" steps = some "w" ∧
      steps.filterMap Step.line? = ["sandbox.extract:s:#out:out=k", "half"] ∧
      ∃ result, simulate raw {} = .result result ∧ Means steps result.finalState := by
  intro raw steps
  have isPrepared : prepare raw {} = .ok ⟨overlappingPlan, overlappingPlan.digest⟩ :=
    (prepare_ok_iff _ _ _).mpr ⟨by decide, rfl, rfl, by decide, rfl⟩
  obtain ⟨succeeds, leaves, -⟩ := simulation_computes_meaning isPrepared
  obtain ⟨result, succeeded⟩ := succeeds.mpr (counters_fit_of_turnover steps (by decide))
  exact ⟨isPrepared, rfl, rfl, rfl, rfl, result, succeeded, leaves result succeeded⟩

end Runs

end PlanChain
