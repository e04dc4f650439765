import PlanChain.Execution.Live
import PlanChain.Proofs.Execution.Prepare
import PlanChain.Sample

/-! `walk_records` is the invariant of the loop that both ways of running share: the entries added, the states
passed through and the world handed on fit each other, at every position. -/

set_option autoImplicit false

namespace PlanChain

variable {σ : Type}

def Driven (apply : Applier σ) (world : σ) (steps : List Step) (states : Nat → State) : Prop :=
  ∃ worlds : Nat → σ, worlds 0 = world ∧ ∀ i step, steps[i]? = some step →
    apply (states i) step (worlds i) = (.next (states (i + 1)), worlds (i + 1))

structure EntryRecords (entry : TraceEntry) (index : Nat) (step : Step) (before after : State) : Prop where
  schemaVersion : entry.schemaVersion = 1
  stepIndex : entry.stepIndex.toNat = index
  stepId : entry.stepId = step.id
  kind : entry.kind = step.kind
  applied : entry.applied = true
  beforeMark : entry.before = before.fingerprint
  afterMark : entry.after = after.fingerprint
  link : entry.link = Trace.LinkInput.digest {
    previousLink := entry.previousLink, stepIndex := UInt64.ofNat index, step,
    beforeMark := entry.before, afterMark := entry.after, before, after }

def TraceRecords (first : Nat) (steps : List Step) (entries : List TraceEntry) (states : Nat → State) : Prop :=
  ∀ i step entry, steps[i]? = some step → entries[i]? = some entry →
    EntryRecords entry (first + i) step (states i) (states (i + 1))

def preceded {α : Type} (head : α) (rest : Nat → α) : Nat → α
  | 0 => head
  | i + 1 => rest i

theorem driven_step (apply : Applier σ) (world later : σ) (step : Step) (rest : List Step) (state : State)
    (states : Nat → State) (applied : apply state step world = (.next (states 0), later))
    (driven : Driven apply later rest states) : Driven apply world (step :: rest) (preceded state states) := by
  obtain ⟨worlds, start, moves⟩ := driven
  refine ⟨preceded world worlds, rfl, fun i found present => ?_⟩
  cases i with
  | zero =>
      cases present
      simpa only [preceded, start] using applied
  | succ i => exact moves i found present

theorem recorded_entry (chain : Trace.Chain) (step : Step) (before after : State)
    (small : chain.entries.length < UInt64.size) :
    ∃ entry, (chain.record step before after before.fingerprint after.fingerprint).entries =
        chain.entries ++ [entry] ∧
      (chain.record step before after before.fingerprint after.fingerprint).latest = entry.link ∧
      entry.previousLink = chain.latest ∧ EntryRecords entry chain.entries.length step before after := by
  refine ⟨_, rfl, rfl, rfl, ?_⟩
  constructor
  case stepIndex => exact UInt64.toNat_ofNat_of_lt' small
  all_goals rfl

theorem trace_records_step (first : Nat) (step : Step) (rest : List Step) (entry : TraceEntry)
    (added : List TraceEntry) (state : State) (states : Nat → State)
    (head : EntryRecords entry first step state (states 0))
    (later : TraceRecords (first + 1) rest added states) :
    TraceRecords first (step :: rest) (entry :: added) (preceded state states) := by
  intro i found recorded present stored
  cases i with
  | zero =>
      cases present
      cases stored
      exact head
  | succ i =>
      have tail := later i found recorded present stored
      rwa [Nat.add_right_comm first 1 i] at tail

theorem check_from_cons_iff (first : Nat) (previous : String) (entry : TraceEntry) (rest : List TraceEntry) :
    Trace.checkFrom first previous (entry :: rest) = .ok () ↔
      entry.stepIndex.toNat = first ∧ entry.schemaVersion = 1 ∧ entry.previousLink = previous ∧
        Trace.checkFrom (first + 1) entry.link rest = .ok () := by
  rw [Trace.checkFrom]
  by_cases index : entry.stepIndex.toNat = first
  · by_cases version : entry.schemaVersion = 1
    · by_cases linked : entry.previousLink = previous
      · simp [index, version, linked, Trace.schemaVersion]
      · simp [index, version, linked, Trace.schemaVersion]
    · simp [index, version, Trace.schemaVersion]
  · simp [index]

theorem check_from_links (first : Nat) (previous : String) (entries : List TraceEntry)
    (checked : Trace.checkFrom first previous entries = .ok ()) (i : Nat) (entry next : TraceEntry)
    (present : entries[i]? = some entry) (following : entries[i + 1]? = some next) :
    next.previousLink = entry.link := by
  induction entries generalizing first previous i with
  | nil => cases present
  | cons head rest ih =>
      have later := ((check_from_cons_iff first previous head rest).mp checked).2.2.2
      cases i with
      | succ i => exact ih (first + 1) head.link later i present following
      | zero =>
          cases present
          cases rest with
          | nil => cases following
          | cons second tail =>
              cases following
              exact ((check_from_cons_iff _ _ next tail).mp later).2.2.1

theorem walk_records (apply : Applier σ) (reporter : Reporter) (steps : List Step) (stepIndex : Nat)
    (chain final : Trace.Chain) (state last : State) (world : σ)
    (finished : (walk apply reporter stepIndex chain state steps world).progress = .finished final last)
    (small : chain.entries.length + steps.length ≤ UInt64.size) :
    ∃ added states, final.entries = chain.entries ++ added ∧ added.length = steps.length ∧
      states 0 = state ∧ states steps.length = last ∧ Driven apply world steps states ∧
      TraceRecords chain.entries.length steps added states ∧
      Trace.checkFrom chain.entries.length chain.latest added = .ok () ∧
      final.latest = (added.getLast?.map (·.link)).getD chain.latest := by
  induction steps generalizing stepIndex chain state world with
  | nil =>
      cases finished
      refine ⟨[], fun _ => last, ?_, rfl, rfl, rfl, ⟨fun _ => world, rfl, ?_⟩, ?_, rfl, rfl⟩
      · simp
      · simp
      · simp [TraceRecords]
  | cons step rest ih =>
      rw [List.length_cons] at small
      rw [walk] at finished
      split at finished
      · cases finished
      · cases finished
      · rename_i next later applied
        obtain ⟨entry, entriesEq, latestEq, linked, head⟩ := recorded_entry chain step state next (by omega)
        have room : (chain.record step state next state.fingerprint next.fingerprint).entries.length =
            chain.entries.length + 1 := by
          rw [entriesEq, List.length_append, List.length_singleton]
        obtain ⟨added, states, grown, length, start, stop, driven, records, checked, latest⟩ :=
          ih (stepIndex + 1) _ next later finished (by omega)
        rw [room] at records checked
        rw [latestEq] at checked latest
        subst start
        refine ⟨entry :: added, preceded state states, ?_, ?_, rfl, ?_, ?_, ?_, ?_, ?_⟩
        · rw [grown, entriesEq, List.append_assoc, List.singleton_append]
        · rw [List.length_cons, length, List.length_cons]
        · exact stop
        · exact driven_step apply world later step rest state states applied driven
        · exact trace_records_step _ step rest entry added state states head records
        · exact (check_from_cons_iff _ _ entry added).mpr
            ⟨head.stepIndex, head.schemaVersion, linked, checked⟩
        · rw [latest, List.getLast?_cons, Option.map_some, Option.getD_some]
          cases added.getLast? <;> rfl

-- What comes of a step in a live run: what the applier makes of it, or what its session answers in time.
inductive Environment.Produces (env : Environment σ) (options : Options) (step : Step) (before : State) :
    State → Prop where
  | aside (world later : σ) (next : State) :
      (options.mode = .live → step.action.isSandbox = false) →
      env.apply before step world = (.next next, later) → env.Produces options step before next
  | inSession (provider : Provider σ) (sessionId : String) (action : SandboxAction) (asked answered : σ)
      (delay : Nat) (reply : SandboxReply) :
      options.mode = .live → env.provider = some provider → step.action = .sandbox sessionId action →
      (provider.call sessionId action.call asked).1.delay = some delay → delay ≤ env.timeout.toNat →
      ((provider.call sessionId action.call asked).1.finish answered).1 = .ok reply →
      env.Produces options step before (before.afterSandbox sessionId action (Text.nfc reply.text))

theorem await_answered {α : Type} (line later : Timeline σ) (cut : σ → Bool) (limit : Nat)
    (pending : Pending σ α) (value : α) (awaited : line.await cut limit pending = (.answered value, later)) :
    ∃ delay world, pending.delay = some delay ∧ delay ≤ limit ∧ (pending.finish world).1 = value := by
  have expires : ∀ moment, line.expire cut moment ≠ (Awaited.answered value, later) := by
    intro moment same
    unfold Timeline.expire at same
    split at same <;> cases same
  unfold Timeline.await at awaited
  split at awaited
  · exact (expires limit awaited).elim
  · rename_i delay bounded
    split at awaited
    · exact (expires limit awaited).elim
    · rename_i inTime
      split at awaited
      · cases awaited
      · rename_i waited _
        cases awaited
        exact ⟨delay, waited.world, bounded, Nat.not_lt.mp inTime, rfl⟩

theorem ask_answered (env : Environment σ) (provider : Provider σ) (kind : StepKind) (sessionId : String)
    (call : SandboxCall) (line later : Timeline σ) (reply : SandboxReply)
    (answered : env.ask provider kind sessionId call line = (.ok reply, later)) :
    ∃ delay world, (provider.call sessionId call line.world).1.delay = some delay ∧
      delay ≤ env.timeout.toNat ∧ ((provider.call sessionId call line.world).1.finish world).1 = .ok reply := by
  unfold Environment.ask at answered
  split at answered
  · cases answered
  · dsimp only at answered
    split at answered
    · cases answered
    · cases answered
    · cases answered
    · rename_i awaited
      cases answered
      exact await_answered _ _ _ _ _ _ awaited

theorem live_step_produces (env : Environment σ) (options : Options) (before next : State) (step : Step)
    (run later : Underway σ) (applied : env.step options before step run = (.next next, later))
    (provided : options.mode = .live → step.action.isSandbox = true → env.provider.isSome = true) :
    env.Produces options step before next := by
  unfold Environment.step at applied
  split at applied
  · cases applied
  · split at applied
    · rename_i sessionId action provider mode isSandbox found
      rcases called : env.ask provider action.kind sessionId action.call
        (Environment.ensure provider options.traceId sessionId run).line with ⟨answer, line⟩
      simp only [Environment.applyInSession, called] at applied
      cases answer with
      | error reason => cases applied
      | ok reply =>
          cases applied
          obtain ⟨delay, world, bounded, inTime, finished⟩ := ask_answered env provider _ _ _ _ _ reply called
          exact .inSession provider sessionId action _ world delay reply mode found isSandbox bounded inTime finished
    · rename_i notInSession
      rcases called : env.apply before step run.line.world with ⟨answer, world⟩
      simp only [Environment.applyAside, called] at applied
      cases applied
      refine .aside run.line.world world next (fun mode => ?_) called
      cases isAction : step.action with
      | sandbox sessionId action =>
          obtain ⟨provider, found⟩ := Option.isSome_iff_exists.mp (provided mode (by rw [isAction]; rfl))
          exact (notInSession sessionId action provider mode isAction found).elim
      | _ => rfl

inductive Runner (σ : Type) where
  | plain (apply : Applier σ) (world : σ)
  | live (env : Environment σ) (line : Timeline σ)

namespace Runner

def outcome (raw : Json) (options : Options) : Runner σ → Outcome
  | plain apply world => (execute apply raw options world).outcome
  | live env line => (env.execute raw options line).outcome

def Drives (options : Options) (steps : List Step) (states : Nat → State) : Runner σ → Prop
  | plain apply world => Driven apply world steps states
  | live env line =>
    Driven (env.step options) ⟨line, ∅⟩ steps states ∧ ∀ i step, steps[i]? = some step →
      env.Produces options step (states i) (states (i + 1))

end Runner

structure FaithfulResult (options : Options) (plan : Plan) (states : Nat → State)
    (result : ExecutionResult) : Prop where
  requested : result.stepsRequested.toNat = plan.steps.length
  executed : result.stepsExecuted.toNat = plan.steps.length
  traced : result.trace.length = plan.steps.length
  stepsThere : 1 ≤ plan.steps.length
  inBudget : (plan.steps.length : Int) ≤ options.maxSteps.toInt
  checked : Trace.check result.trace = .ok ()
  first : states 0 = .empty
  last : states plan.steps.length = result.finalState
  records : TraceRecords 0 plan.steps result.trace states
  continues : ∀ i entry next, result.trace[i]? = some entry → result.trace[i + 1]? = some next →
    next.before = entry.after ∧ next.previousLink = entry.link
  finalLink : result.trace.getLast?.map (·.link) = some result.finalLink
  planId : result.planId = plan.planId
  planDigest : result.planDigest = plan.digest
  executionDigest : result.executionDigest = Trace.ExecutionInput.digest {
    planDigest := plan.digest, stepCount := UInt64.ofNat plan.steps.length,
    finalLink := result.finalLink, finalState := result.finalState }
  schemaVersion : result.schemaVersion = 1
  converged : result.converged = true

theorem budget_fits (options : Options) (count : Nat) (inBudget : (count : Int) ≤ options.maxSteps.toInt) :
    count < UInt64.size := by
  have bound := Int64.toInt_le options.maxSteps
  have greatest : Int64.maxValue.toInt = 9223372036854775807 := rfl
  have size : UInt64.size = 18446744073709551616 := rfl
  omega

theorem walked_result_faithful (apply : Applier σ) (reporter : Reporter) (raw : Json) (options : Options)
    (prepared : Prepared) (world : σ) (result : ExecutionResult) (ready : prepare raw options = .ok prepared)
    (succeeded : Outcome.ofProgress prepared
      (walk apply reporter 0 .empty .empty prepared.plan.steps world).progress = .result result) :
    ∃ states, FaithfulResult options prepared.plan states result ∧
      Driven apply world prepared.plan.steps states := by
  obtain ⟨-, -, -, inBudget, digest⟩ := (prepare_ok_iff raw options prepared).mp ready
  have stepsThere := prepared_has_steps raw options prepared ready
  have small := budget_fits options prepared.plan.steps.length inBudget
  generalize ended : (walk apply reporter 0 .empty .empty prepared.plan.steps world).progress = progress at succeeded
  cases progress with
  | halted reason => cases succeeded
  | crashed => cases succeeded
  | finished chain last =>
      cases succeeded
      have room : (Trace.Chain.empty.entries.length + prepared.plan.steps.length) ≤ UInt64.size := by
        simpa [Trace.Chain.empty] using Nat.le_of_lt small
      obtain ⟨added, states, grown, length, start, stop, driven, records, checked, latest⟩ :=
        walk_records apply reporter prepared.plan.steps 0 .empty chain .empty last world ended room
      have same : added = chain.entries := grown.symm
      subst same
      refine ⟨states, ?_, driven⟩
      constructor
      case requested => exact UInt64.toNat_ofNat_of_lt' small
      case executed => exact (UInt64.toNat_ofNat_of_lt' (length ▸ small)).trans length
      case traced => exact length
      case stepsThere => exact stepsThere
      case inBudget => exact inBudget
      case checked => exact checked
      case first => exact start
      case last => exact stop
      case records => exact records
      case continues =>
        intro i entry next present following
        refine ⟨?_, check_from_links _ _ chain.entries checked i entry next present following⟩
        have inRange : i + 1 < prepared.plan.steps.length := length ▸ (List.getElem?_eq_some_iff.mp following).1
        have stepped := List.getElem?_eq_getElem (Nat.lt_of_succ_lt inRange)
        rw [(records i _ entry stepped present).afterMark,
          (records (i + 1) _ next (List.getElem?_eq_getElem inRange) following).beforeMark]
      case finalLink =>
        change chain.entries.getLast?.map (·.link) = some chain.latest
        have nonempty : chain.entries ≠ [] := List.ne_nil_of_length_pos (by omega)
        rw [latest, List.getLast?_eq_some_getLast nonempty]
        rfl
      case planId => rfl
      case planDigest => exact digest
      case executionDigest =>
        rw [← digest]
        rfl
      case schemaVersion => rfl
      case converged => rfl

theorem lacks_provider_false (env : Environment σ) (options : Options) (plan : Plan)
    (provided : env.lacksProvider options plan = false) (step : Step) (present : step ∈ plan.steps)
    (mode : options.mode = .live) (inSession : step.action.isSandbox = true) : env.provider.isSome = true := by
  cases found : env.provider with
  | some provider => rfl
  | none =>
      have isSandbox : step.kind.isSandbox = true := by
        cases isAction : step.action with
        | sandbox sessionId action =>
            cases action <;>
              simp [Step.kind, isAction, Action.kind, SandboxAction.kind, StepKind.isSandbox]
        | _ => simp [isAction, Action.isSandbox] at inSession
      simp only [Environment.lacksProvider, mode, found, decide_true, Option.isNone_none, Bool.true_and,
        List.any_eq_false] at provided
      exact (provided step present isSandbox).elim

-- Whatever the applier and the sessions do, a run that succeeds tells the truth about itself: its trace
-- has an entry for every step of the canonical plan, over states that follow from each other.
theorem successful_runs_leave_faithful_results (runner : Runner σ) (raw : Json) (options : Options)
    (result : ExecutionResult) (succeeded : runner.outcome raw options = .result result) :
    ∃ plan states, Plan.canonical raw = .ok plan ∧ runner.Drives options plan.steps states ∧
      FaithfulResult options plan states result := by
  cases runner with
  | plain apply world =>
      dsimp only [Runner.outcome] at succeeded
      unfold execute at succeeded
      cases ready : prepare raw options with
      | error halt => simp [ready] at succeeded
      | ok prepared =>
          rw [ready] at succeeded
          obtain ⟨states, faithful, driven⟩ :=
            walked_result_faithful apply _ raw options prepared world result ready succeeded
          exact ⟨prepared.plan, states, ((prepare_ok_iff raw options prepared).mp ready).2.2.1, driven, faithful⟩
  | live env line =>
      dsimp only [Runner.outcome] at succeeded
      unfold Environment.execute at succeeded
      cases ready : prepare raw options with
      | error halt => simp [ready] at succeeded
      | ok prepared =>
          rw [ready] at succeeded
          dsimp only at succeeded
          split at succeeded
          · cases succeeded
          · rename_i provided
            obtain ⟨states, faithful, driven⟩ :=
              walked_result_faithful (env.step options) _ raw options prepared _ result ready succeeded
            refine ⟨prepared.plan, states, ((prepare_ok_iff raw options prepared).mp ready).2.2.1, ⟨driven, ?_⟩,
              faithful⟩
            obtain ⟨runs, -, moves⟩ := driven
            intro i step present
            exact live_step_produces env options _ _ step (runs i) (runs (i + 1)) (moves i step present)
              (lacks_provider_false env options prepared.plan (Bool.not_eq_true _ ▸ provided) step
                (List.mem_of_getElem? present))

-- A session's answer, as late as it may be, overwrites a value that the applier set.
theorem reading_run_faithful :
    let raw := Sample.plan "reading" [Sample.stepOf "set" (.set "k" "v"),
      Sample.stepOf "click" (.sandbox "s1" (.click "#go")),
      Sample.stepOf "read" (.sandbox "s1" (.extract "#out" "k"))]
    let runner := Runner.live ⟨simulation, some ScriptedSandbox.provider, 5, fun _ => false⟩
      ⟨0, [], ScriptedSandbox.setScript {} "s1"
        [⟨.click "#go", .ok none, 3⟩, ⟨.extract "#out", .ok (some "done"), 5⟩]⟩
    ∃ result, runner.outcome raw { mode := .live } = .result result ∧
      ∃ plan states, Plan.canonical raw = .ok plan ∧ runner.Drives { mode := .live } plan.steps states ∧
        FaithfulResult { mode := .live } plan states result :=
  ⟨_, rfl, successful_runs_leave_faithful_results _ _ _ _ rfl⟩

end PlanChain
