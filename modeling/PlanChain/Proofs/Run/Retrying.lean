import PlanChain.Retry

set_option autoImplicit false

namespace PlanChain

variable {σ : Type}

def Attempt.retried? (tried : Attempt σ) : Option Failure :=
  match tried.response with
  | some (.failure failure _) => if failure.code.isRetryable then some failure else none
  | _ => none

def Verdict.of : ExecutionResponse → Verdict
  | .success result info => .completed (.success result info)
  | .failure failure _ =>
    if failure.code = .executionConvergenceFailed then .terminal failure else .failed failure

def RetryParams.waits (params : RetryParams) (count : Nat) : List UInt64 :=
  (List.range count).map fun number => backoff (.ofNat number) params.baseBackoff params.maxBackoff

def RetryTracker.after (params : RetryParams) (count : Nat) : RetryTracker :=
  ⟨params, .ofNat count, params.waits count⟩

theorem waits_next (params : RetryParams) (count : Nat) :
    params.waits (count + 1) =
      params.waits count ++ [backoff (.ofNat count) params.baseBackoff params.maxBackoff] := by
  simp [RetryParams.waits, List.range_succ]

theorem observe_settled (params : RetryParams) (count : Nat) (tried : Attempt σ) (response : ExecutionResponse)
    (answered : tried.response = some response) (settled : tried.retried? = none) :
    ((RetryTracker.after params count).observe response).1 =
      .error ⟨.of response, .ofNat (count + 1), params.waits count⟩ := by
  cases response with
  | success result info => simp [RetryTracker.observe, RetryTracker.conclude, RetryTracker.after, Verdict.of]
  | failure failure info =>
      have final : failure.code.isRetryable = false := by
        simpa [Attempt.retried?, answered] using settled
      simp only [RetryTracker.observe, final, Bool.false_eq_true, if_false, Verdict.of]
      split <;> simp [RetryTracker.conclude, RetryTracker.after]

theorem observe_retried (params : RetryParams) (count : Nat) (tried : Attempt σ) (failure : Failure)
    (retried : tried.retried? = some failure) :
    ∃ response, tried.response = some response ∧
      (RetryTracker.after params count).observe response = (.ok failure, .after params (count + 1)) := by
  cases answered : tried.response with
  | none => simp [Attempt.retried?, answered] at retried
  | some response =>
      refine ⟨response, rfl, ?_⟩
      cases response with
      | success result info => simp [Attempt.retried?, answered] at retried
      | failure other info =>
          obtain ⟨retryable, rfl⟩ : other.code.isRetryable = true ∧ other = failure := by
            simpa [Attempt.retried?, answered] using retried
          simp [RetryTracker.observe, RetryTracker.after, retryable, waits_next]

namespace Retrying

variable (retrying : Retrying σ) (params : RetryParams) (world : σ)

-- What is asked after an attempt: whether to stop. Only a failure to be retried is asked about.
def pause (number : Nat) (tried : Attempt σ) : Bool × σ :=
  match tried.retried? with
  | none => (false, tried.world)
  | some failure => retrying.stops (.ofNat number) failure tried.world

def found : Nat → σ
  | 0 => world
  | number + 1 => (retrying.pause number (retrying.attempt (found number))).2

def tried (number : Nat) : Attempt σ := retrying.attempt (retrying.found world number)

def settles (number : Nat) : Bool := (retrying.tried world number).retried?.isNone

def stopsAfter (number : Nat) : Bool := (retrying.pause number (retrying.tried world number)).1

def settledAt : Option Nat := (List.range params.maxIterations.toNat).find? (retrying.settles world)

def stoppedAt : Option Nat :=
  (List.range ((retrying.settledAt params world).getD params.maxIterations.toNat)).find? (retrying.stopsAfter world)

def made : Nat :=
  match retrying.stoppedAt params world, retrying.settledAt params world with
  | some number, _ | none, some number => number + 1
  | none, none => params.maxIterations.toNat

def ending : Option RetryOutcome :=
  match retrying.stoppedAt params world, retrying.settledAt params world with
  | some number, _ =>
    some ⟨.failed (.of .runCancelled "Run cancelled before retry"), .ofNat (number + 1), params.waits (number + 1)⟩
  | none, some number =>
    (retrying.tried world number).response.map fun response =>
      ⟨.of response, .ofNat (number + 1), params.waits number⟩
  | none, none =>
    some ⟨.terminal (.of .fixpointMaxIter "Fixpoint did not converge within max iterations"), params.maxIterations,
      params.waits params.maxIterations.toNat⟩

variable {retrying params world}

@[simp] theorem attempt_found (number : Nat) :
    retrying.attempt (retrying.found world number) = retrying.tried world number := rfl

theorem found_settled (number : Nat) (settled : retrying.settles world number = true) :
    retrying.found world (number + 1) = (retrying.tried world number).world := by
  have none : (retrying.tried world number).retried? = none := Option.isNone_iff_eq_none.mp settled
  change (retrying.pause number (retrying.tried world number)).2 = _
  rw [pause, none]

theorem try_settled (budget number : Nat) (settled : retrying.settles world number = true) :
    retrying.tryUpTo (budget + 1) (.after params number) (retrying.found world number) =
      ⟨(retrying.tried world number).response.map fun response =>
          ⟨.of response, .ofNat (number + 1), params.waits number⟩,
        (retrying.tried world number).events, retrying.found world (number + 1)⟩ := by
  have none : (retrying.tried world number).retried? = none := Option.isNone_iff_eq_none.mp settled
  rw [found_settled number settled, tryUpTo, attempt_found]
  cases answered : (retrying.tried world number).response with
  | none => simp only [Option.map_none]
  | some response =>
      have observed := observe_settled params number (retrying.tried world number) response answered none
      simp only [Option.map_some]
      split
      · rename_i outcome next taken
        rw [taken] at observed
        cases observed
        rfl
      · rename_i failure next taken
        rw [taken] at observed
        cases observed

theorem try_retried (budget number : Nat) (retried : retrying.settles world number = false) :
    retrying.tryUpTo (budget + 1) (.after params number) (retrying.found world number) =
      if retrying.stopsAfter world number then
        ⟨some (RetryTracker.after params (number + 1)).cancelled, (retrying.tried world number).events,
          retrying.found world (number + 1)⟩
      else
        { retrying.tryUpTo budget (.after params (number + 1)) (retrying.found world (number + 1)) with
          events := (retrying.tried world number).events ++
            (retrying.tryUpTo budget (.after params (number + 1)) (retrying.found world (number + 1))).events } := by
  cases again : (retrying.tried world number).retried? with
  | none => simp [settles, again] at retried
  | some failure =>
      obtain ⟨response, answered, observed⟩ := observe_retried params number _ failure again
      have paused : retrying.stops (.ofNat number) failure (retrying.tried world number).world =
          (retrying.stopsAfter world number, retrying.found world (number + 1)) := by
        change _ = (_, (retrying.pause number (retrying.tried world number)).2)
        rw [stopsAfter, pause, again]
      have numbered : (RetryTracker.after params number).iterations = .ofNat number := rfl
      simp only [tryUpTo, attempt_found, answered, observed, numbered, paused]

def reports (retrying : Retrying σ) (world : σ) (count : Nat) : List StepEvent :=
  (List.range count).flatMap fun number => (retrying.tried world number).events

theorem reports_next (count : Nat) :
    retrying.reports world (count + 1) = retrying.reports world count ++ (retrying.tried world count).events := by
  simp [reports, List.range_succ]

def Calm (retrying : Retrying σ) (world : σ) (count : Nat) : Prop :=
  ∀ number, number < count → retrying.settles world number = false ∧ retrying.stopsAfter world number = false

theorem try_calm (count budget : Nat) (calm : retrying.Calm world count) :
    retrying.tryUpTo (count + budget) (.after params 0) world =
      { retrying.tryUpTo budget (.after params count) (retrying.found world count) with
        events := retrying.reports world count ++
          (retrying.tryUpTo budget (.after params count) (retrying.found world count)).events } := by
  induction count generalizing budget with
  | zero => simp [found, reports]
  | succ count ih =>
      obtain ⟨retried, goesOn⟩ := calm count (Nat.lt_succ_self count)
      have earlier := ih (budget + 1) fun number before => calm number (Nat.lt_succ_of_lt before)
      rw [Nat.add_assoc, Nat.add_comm 1, earlier, try_retried budget count retried, goesOn]
      simp [reports_next]

theorem run_calm (count left : Nat) (budget : params.maxIterations.toNat = count + left)
    (calm : retrying.Calm world count) :
    retrying.run params world =
      { retrying.tryUpTo left (.after params count) (retrying.found world count) with
        events := retrying.reports world count ++
          (retrying.tryUpTo left (.after params count) (retrying.found world count)).events } := by
  rw [run, budget]
  exact try_calm count left calm

-- The three ways in which retrying ends: an attempt is not retried, the retrying is stopped after one, or the budget
-- is spent.

theorem run_settled (number left : Nat) (budget : params.maxIterations.toNat = number + (left + 1))
    (calm : retrying.Calm world number) (settled : retrying.settles world number = true) :
    retrying.run params world =
      ⟨(retrying.tried world number).response.map fun response =>
          ⟨.of response, .ofNat (number + 1), params.waits number⟩,
        retrying.reports world (number + 1), retrying.found world (number + 1)⟩ := by
  rw [run_calm number (left + 1) budget calm, try_settled left number settled, reports_next]

theorem run_stopped (number left : Nat) (budget : params.maxIterations.toNat = number + (left + 1))
    (calm : retrying.Calm world number) (retried : retrying.settles world number = false)
    (stopped : retrying.stopsAfter world number = true) :
    retrying.run params world =
      ⟨some (RetryTracker.after params (number + 1)).cancelled, retrying.reports world (number + 1),
        retrying.found world (number + 1)⟩ := by
  rw [run_calm number (left + 1) budget calm, try_retried left number retried, if_pos stopped, reports_next]

theorem run_spent (calm : retrying.Calm world params.maxIterations.toNat) :
    retrying.run params world =
      ⟨some (RetryTracker.after params params.maxIterations.toNat).exhausted,
        retrying.reports world params.maxIterations.toNat, retrying.found world params.maxIterations.toNat⟩ := by
  rw [run_calm params.maxIterations.toNat 0 rfl calm, tryUpTo, List.append_nil]

theorem before_settled (number : Nat)
    (within : number < (retrying.settledAt params world).getD params.maxIterations.toNat) :
    number < params.maxIterations.toNat ∧ retrying.settles world number = false := by
  cases settled : retrying.settledAt params world with
  | none =>
      rw [settled, Option.getD_none] at within
      have retried := List.find?_range_eq_none.mp settled number within
      exact ⟨within, by simpa using retried⟩
  | some last =>
      rw [settled, Option.getD_some] at within
      obtain ⟨-, inBudget, retried⟩ := List.find?_range_eq_some.mp settled
      exact ⟨Nat.lt_trans within (List.mem_range.mp inBudget), by simpa using retried number within⟩

theorem stopped_calm (number : Nat) (stopped : retrying.stoppedAt params world = some number) :
    number < params.maxIterations.toNat ∧ retrying.Calm world number ∧ retrying.settles world number = false ∧
      retrying.stopsAfter world number = true := by
  obtain ⟨stops, among, earlier⟩ := List.find?_range_eq_some.mp stopped
  have within := List.mem_range.mp among
  obtain ⟨inBudget, retried⟩ := before_settled number within
  refine ⟨inBudget, fun other before => ?_, retried, stops⟩
  exact ⟨(before_settled other (Nat.lt_trans before within)).2, by simpa using earlier other before⟩

theorem unstopped_calm (stopped : retrying.stoppedAt params world = none) :
    retrying.Calm world ((retrying.settledAt params world).getD params.maxIterations.toNat) := by
  intro number within
  have goesOn := List.find?_range_eq_none.mp stopped number within
  exact ⟨(before_settled number within).2, by simpa using goesOn⟩

theorem run_by_law (retrying : Retrying σ) (params : RetryParams) (world : σ) :
    retrying.run params world =
      ⟨retrying.ending params world, retrying.reports world (retrying.made params world),
        retrying.found world (retrying.made params world)⟩ := by
  have room (number : Nat) (within : number < params.maxIterations.toNat) :
      params.maxIterations.toNat = number + (params.maxIterations.toNat - number - 1 + 1) := by omega
  rw [ending, made]
  cases stopped : retrying.stoppedAt params world with
  | some number =>
      obtain ⟨within, calm, retried, stops⟩ := stopped_calm number stopped
      exact run_stopped number _ (room number within) calm retried stops
  | none =>
      have calm := unstopped_calm stopped
      cases settled : retrying.settledAt params world with
      | some last =>
          rw [settled] at calm
          obtain ⟨isLast, within, -⟩ := List.find?_range_eq_some.mp settled
          exact run_settled last _ (room last (List.mem_range.mp within)) calm isLast
      | none =>
          rw [settled] at calm
          have spent := run_spent calm
          rw [RetryTracker.after, UInt32.ofNat_toNat] at spent
          exact spent

theorem ended_cases (retrying : Retrying σ) (params : RetryParams) (world : σ) (outcome : RetryOutcome)
    (ended : (retrying.run params world).outcome = some outcome) :
    (∃ failure, outcome.verdict = .failed failure ∧ failure.code = .runCancelled) ∨
      (∃ failure, outcome.verdict = .terminal failure ∧ failure.code = .fixpointMaxIter) ∨
      ∃ last response, last < params.maxIterations.toNat ∧ (retrying.tried world last).response = some response ∧
        outcome = ⟨.of response, .ofNat (last + 1), params.waits last⟩ := by
  have ends : retrying.ending params world = some outcome := by rw [← ended, run_by_law]
  rw [ending] at ends
  cases stopped : retrying.stoppedAt params world with
  | some number =>
      rw [stopped] at ends
      cases ends
      exact Or.inl ⟨_, rfl, rfl⟩
  | none =>
      rw [stopped] at ends
      cases settled : retrying.settledAt params world with
      | none =>
          rw [settled] at ends
          cases ends
          exact Or.inr (Or.inl ⟨_, rfl, rfl⟩)
      | some last =>
          rw [settled] at ends
          obtain ⟨response, answered, rfl⟩ := Option.map_eq_some_iff.mp ends
          have within := List.mem_range.mp (List.find?_range_eq_some.mp settled).2.1
          exact Or.inr (Or.inr ⟨last, response, within, answered, rfl⟩)

end Retrying

inductive RetryDeed where
  | attempt (response : Option ExecutionResponse)
  | ask (number : UInt32) (failure : Failure)
deriving DecidableEq

def RetryDeed.isAttempt : RetryDeed → Bool
  | attempt _ => true
  | ask _ _ => false

namespace Retrying

-- Retrying with an account of what it does.
def accounted (retrying : Retrying σ) : Retrying (σ × List RetryDeed) where
  attempt world :=
    let tried := retrying.attempt world.1
    { tried with world := (tried.world, world.2 ++ [.attempt tried.response]) }
  stops number failure world :=
    let (stop, after) := retrying.stops number failure world.1
    (stop, (after, world.2 ++ [.ask number failure]))

def round (retrying : Retrying σ) (world : σ) (number : Nat) : List RetryDeed :=
  .attempt (retrying.tried world number).response ::
    match (retrying.tried world number).retried? with
    | none => []
    | some failure => [.ask (.ofNat number) failure]

variable {retrying : Retrying σ} {params : RetryParams} {world : σ}

theorem pause_accounted (number : Nat) (account : List RetryDeed) :
    retrying.accounted.pause number (retrying.accounted.attempt (retrying.found world number, account)) =
      (retrying.stopsAfter world number,
        (retrying.found world (number + 1), account ++ retrying.round world number)) := by
  have same : (retrying.accounted.attempt (retrying.found world number, account)).retried? =
      (retrying.tried world number).retried? := rfl
  rw [pause, same, stopsAfter, found, attempt_found, pause, round]
  cases (retrying.tried world number).retried? with
  | none => rfl
  | some failure => simp [accounted]

@[simp] theorem found_accounted (count : Nat) :
    retrying.accounted.found (world, []) count =
      (retrying.found world count, (List.range count).flatMap (retrying.round world)) := by
  induction count with
  | zero => rfl
  | succ count ih =>
      rw [found, ih, pause_accounted, List.range_succ, List.flatMap_append, List.flatMap_singleton]

@[simp] theorem tried_accounted (number : Nat) :
    (retrying.accounted.tried (world, []) number).response = (retrying.tried world number).response ∧
      (retrying.accounted.tried (world, []) number).events = (retrying.tried world number).events := by
  rw [tried, found_accounted]
  exact ⟨rfl, rfl⟩

@[simp] theorem settles_accounted : retrying.accounted.settles (world, []) = retrying.settles world := by
  funext number
  rw [settles, tried, found_accounted]
  rfl

@[simp] theorem stops_accounted : retrying.accounted.stopsAfter (world, []) = retrying.stopsAfter world := by
  funext number
  rw [stopsAfter, tried, found_accounted, pause_accounted]

theorem run_accounted (retrying : Retrying σ) (params : RetryParams) (world : σ) :
    retrying.accounted.run params (world, []) =
      ⟨(retrying.run params world).outcome, (retrying.run params world).events, (retrying.run params world).world,
        (List.range (retrying.made params world)).flatMap (retrying.round world)⟩ := by
  have settled : retrying.accounted.settledAt params (world, []) = retrying.settledAt params world := by
    rw [settledAt, settles_accounted, settledAt]
  have stopped : retrying.accounted.stoppedAt params (world, []) = retrying.stoppedAt params world := by
    rw [stoppedAt, settled, stops_accounted, stoppedAt]
  have sameMade : retrying.accounted.made params (world, []) = retrying.made params world := by
    rw [made, stopped, settled, made]
  have sameEnding : retrying.accounted.ending params (world, []) = retrying.ending params world := by
    simp only [ending, stopped, settled, tried_accounted]
  have sameReports (count : Nat) : retrying.accounted.reports (world, []) count = retrying.reports world count := by
    simp only [reports, tried_accounted]
  rw [run_by_law, run_by_law, sameMade, sameEnding, sameReports, found_accounted]

theorem attempts_in_round (number : Nat) : (retrying.round world number).countP RetryDeed.isAttempt = 1 := by
  rw [round]
  cases (retrying.tried world number).retried? <;> rfl

theorem attempts_in_account (count : Nat) :
    ((List.range count).flatMap (retrying.round world)).countP RetryDeed.isAttempt = count := by
  induction count with
  | zero => rfl
  | succ count ih => simp [List.range_succ, List.countP_append, ih, attempts_in_round]

theorem made_within (retrying : Retrying σ) (params : RetryParams) (world : σ) :
    retrying.made params world ≤ params.maxIterations.toNat := by
  rw [made]
  cases stopped : retrying.stoppedAt params world with
  | some number => exact (stopped_calm number stopped).1
  | none =>
      cases settled : retrying.settledAt params world with
      | some last => exact List.mem_range.mp (List.find?_range_eq_some.mp settled).2.1
      | none => exact Nat.le_refl _

theorem ending_counts (outcome : RetryOutcome) (ends : retrying.ending params world = some outcome) :
    outcome.iterations.toNat = retrying.made params world ∧
      (outcome.verdict.response?.isSome = true ↔ outcome.verdict.status = .completed) := by
  have counted : outcome.iterations = .ofNat (retrying.made params world) := by
    rw [ending] at ends
    rw [made]
    cases stopped : retrying.stoppedAt params world with
    | some number =>
        rw [stopped] at ends
        cases ends
        rfl
    | none =>
        rw [stopped] at ends
        cases settled : retrying.settledAt params world with
        | some last =>
            rw [settled] at ends
            obtain ⟨response, -, rfl⟩ := Option.map_eq_some_iff.mp ends
            rfl
        | none =>
            rw [settled] at ends
            cases ends
            exact UInt32.ofNat_toNat.symm
  have room : retrying.made params world < UInt32.size :=
    Nat.lt_of_le_of_lt (made_within retrying params world) params.maxIterations.toNat_lt_size
  refine ⟨by rw [counted, UInt32.toNat_ofNat_of_lt' room], ?_⟩
  cases outcome.verdict <;> simp [Verdict.response?, Verdict.status]

-- Retrying ends at the first attempt after which it is told to stop, at the first one that is not retried, or when
-- its budget is spent, whichever comes first; and its account shows as many attempts as it counts, each that is
-- retried followed by one question of its number.
theorem retrying_follows_its_law (retrying : Retrying σ) (params : RetryParams) (world : σ) :
    let budget := params.maxIterations.toNat
    let settled := (List.range budget).find? (retrying.settles world)
    let stopped := (List.range (settled.getD budget)).find? (retrying.stopsAfter world)
    let made := match stopped, settled with
      | some number, _ | none, some number => number + 1
      | none, none => budget
    let run := retrying.run params world
    run.outcome = (match stopped, settled with
      | some number, _ =>
        some ⟨.failed (.of .runCancelled "Run cancelled before retry"), .ofNat (number + 1),
          params.waits (number + 1)⟩
      | none, some number =>
        (retrying.tried world number).response.map fun response =>
          ⟨.of response, .ofNat (number + 1), params.waits number⟩
      | none, none =>
        some ⟨.terminal (.of .fixpointMaxIter "Fixpoint did not converge within max iterations"),
          params.maxIterations, params.waits budget⟩) ∧
      retrying.accounted.run params (world, []) =
        ⟨run.outcome, run.events, run.world, (List.range made).flatMap (retrying.round world)⟩ ∧
      ((List.range made).flatMap (retrying.round world)).countP RetryDeed.isAttempt = made ∧
      ∀ outcome, run.outcome = some outcome →
        outcome.iterations.toNat = made ∧
          (outcome.verdict.response?.isSome = true ↔ outcome.verdict.status = .completed) := by
  intro budget settled stopped made run
  have lawful : run.outcome = retrying.ending params world :=
    congrArg Retried.outcome (run_by_law retrying params world)
  exact ⟨lawful, run_accounted retrying params world, attempts_in_account made,
    fun outcome ended => ending_counts outcome (lawful ▸ ended)⟩

end Retrying

end PlanChain
