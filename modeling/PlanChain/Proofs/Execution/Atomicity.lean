import PlanChain.Proofs.Execution.Meaning

set_option autoImplicit false

namespace PlanChain

theorem in_range_word (word : Int64) : InRange word.toInt :=
  ⟨Int64.minValue_le_toInt word, Int64.toInt_le word⟩

theorem checked_add_cases (a b : Int64) :
    (∃ sum, checkedAdd a b = some sum ∧ sum.toInt = a.toInt + b.toInt) ∨
      (checkedAdd a b = none ∧ ¬ InRange (a.toInt + b.toInt)) := by
  by_cases inRange : InRange (a.toInt + b.toInt)
  · exact Or.inl (int64_in_range _ inRange.1 inRange.2)
  · exact Or.inr ⟨if_neg inRange, inRange⟩

theorem checked_add_zero (amount : Int64) : checkedAdd 0 amount = some amount := by
  have same : (0 : Int64).toInt + amount.toInt = amount.toInt := Int.zero_add _
  rcases checked_add_cases 0 amount with ⟨sum, added, isSum⟩ | ⟨-, outside⟩
  · rw [added, Int64.toInt_inj.mp (isSum.trans same)]
  · rw [same] at outside
    exact absurd (in_range_word amount) outside

-- A zero is put in place of a missing counter before anything is added to it, but it never stays.
theorem State.perform_increment (state : State) (key : String) (amount : Int64) :
    (∃ sum : Int64, sum.toInt = ((state.counters.get? key).getD 0).toInt + amount.toInt ∧
      state.perform (.increment key amount) =
        (.ok true, { state with counters := state.counters.insert key sum })) ∨
    (∃ count, state.counters.get? key = some count ∧ ¬ InRange (count.toInt + amount.toInt) ∧
      state.perform (.increment key amount) = (.error (.counterOverflow key), state)) := by
  cases found : state.counters.get? key with
  | none =>
      have missing : state.counters.contains key = false := by rw [Table.contains, found, Option.isSome_none]
      have zero : (state.counters.insert key 0).get? key = some 0 := by simp
      refine Or.inl ⟨amount, (Int.zero_add _).symm, ?_⟩
      simp [perform, missing, zero, checked_add_zero]
  | some count =>
      have present : state.counters.contains key = true := by rw [Table.contains, found, Option.isSome_some]
      rcases checked_add_cases count amount with ⟨sum, added, isSum⟩ | ⟨none, outside⟩
      · exact Or.inl ⟨sum, isSum, by simp [perform, present, found, added]⟩
      · exact Or.inr ⟨count, rfl, outside, by simp [perform, present, found, none]⟩

def Action.Makes (state next : State) : Action → Prop
  | set key value =>
    next.counters = state.counters ∧ next.logs = state.logs ∧
      ∀ name, next.values.get? name = if name = key then some value else state.values.get? name
  | increment key amount =>
    next.values = state.values ∧ next.logs = state.logs ∧
      ∃ sum : Int64, sum.toInt = ((state.counters.get? key).getD 0).toInt + amount.toInt ∧
        ∀ name, next.counters.get? name = if name = key then some sum else state.counters.get? name
  | appendLog line =>
    next.counters = state.counters ∧ next.values = state.values ∧ next.logs = state.logs ++ [line]
  | sandbox _ _ => False

namespace State

section Perform

variable (state : State) (action : Action)

theorem perform_cases :
    (∃ next, state.perform action = (.ok true, next) ∧ action.Makes state next) ∨
    (action.kind.isSandbox = true ∧ state.perform action = (.ok false, state)) ∨
    (∃ key amount count, action = .increment key amount ∧ state.counters.get? key = some count ∧
      ¬ InRange (count.toInt + amount.toInt) ∧ state.perform action = (.error (.counterOverflow key), state)) := by
  cases action with
  | set key value => exact Or.inl ⟨_, rfl, rfl, rfl, fun name => Table.get?_insert ..⟩
  | increment key amount =>
      rcases perform_increment state key amount with ⟨sum, isSum, performed⟩ | ⟨count, found, outside, performed⟩
      · exact Or.inl ⟨_, performed, rfl, rfl, sum, isSum, fun name => Table.get?_insert ..⟩
      · exact Or.inr (Or.inr ⟨key, amount, count, rfl, found, outside, performed⟩)
  | appendLog line => exact Or.inl ⟨_, rfl, rfl, rfl, rfl⟩
  | sandbox sessionId action => exact Or.inr (Or.inl ⟨by cases action <;> rfl, rfl⟩)

theorem perform_unchanged
    (notDone : (∃ error, (state.perform action).1 = .error error) ∨ (state.perform action).1 = .ok false) :
    (state.perform action).2 = state := by
  rcases perform_cases state action with ⟨next, performed, -⟩ | ⟨-, performed⟩ | ⟨_, _, _, -, -, -, performed⟩
  · simp [performed] at notDone
  · rw [performed]
  · rw [performed]

theorem perform_fails_iff (error : StepError) :
    (state.perform action).1 = .error error ↔
      ∃ key amount count, action = .increment key amount ∧ state.counters.get? key = some count ∧
        ¬ InRange (count.toInt + amount.toInt) ∧ error = .counterOverflow key := by
  constructor
  · intro failed
    rcases perform_cases state action with ⟨next, performed, -⟩ | ⟨-, performed⟩ |
      ⟨key, amount, count, isIncrement, found, outside, performed⟩
    · simp [performed] at failed
    · simp [performed] at failed
    · rw [performed] at failed
      cases failed
      exact ⟨key, amount, count, isIncrement, found, outside, rfl⟩
  · rintro ⟨key, amount, count, rfl, found, outside, rfl⟩
    rcases perform_increment state key amount with ⟨sum, isSum, -⟩ | ⟨_, -, -, performed⟩
    · rw [found, Option.getD_some] at isSum
      exact absurd (isSum ▸ in_range_word sum) outside
    · rw [performed]

theorem perform_passes_iff : (state.perform action).1 = .ok false ↔ action.kind.isSandbox = true := by
  constructor
  · intro passed
    rcases perform_cases state action with ⟨next, performed, -⟩ | ⟨isSandbox, -⟩ | ⟨_, _, _, -, -, -, performed⟩
    · simp [performed] at passed
    · exact isSandbox
    · simp [performed] at passed
  · intro isSandbox
    cases action with
    | sandbox sessionId action => rfl
    | _ => cases isSandbox

theorem perform_makes (done : (state.perform action).1 = .ok true) :
    action.Makes state (state.perform action).2 := by
  rcases perform_cases state action with ⟨next, performed, makes⟩ | ⟨-, performed⟩ | ⟨_, _, _, -, -, -, performed⟩
  · rwa [performed]
  · simp [performed] at done
  · simp [performed] at done

end Perform

structure PerformsAtomically (state : State) (action : Action) : Prop where
  unchanged : (∃ error, (state.perform action).1 = .error error) ∨ (state.perform action).1 = .ok false →
    (state.perform action).2 = state
  fails_iff : ∀ error, (state.perform action).1 = .error error ↔
    ∃ key amount count, action = .increment key amount ∧ state.counters.get? key = some count ∧
      ¬ InRange (count.toInt + amount.toInt) ∧ error = .counterOverflow key
  passes_iff : (state.perform action).1 = .ok false ↔ action.kind.isSandbox = true
  makes : (state.perform action).1 = .ok true → action.Makes state (state.perform action).2

theorem perform_atomic_and_local (state : State) (action : Action) : state.PerformsAtomically action :=
  ⟨perform_unchanged state action, perform_fails_iff state action, perform_passes_iff state action,
    perform_makes state action⟩

example :
    let full : State := { counters := Table.empty.insert "n" Int64.maxValue }
    full.perform (.increment "n" 1) = (.error (.counterOverflow "n"), full) := rfl

end State

end PlanChain
