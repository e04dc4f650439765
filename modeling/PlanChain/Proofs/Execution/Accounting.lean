import PlanChain.Proofs.Execution.Cancelled
import PlanChain.Proofs.Execution.Commitment
import PlanChain.Proofs.Execution.Integrity
import PlanChain.Proofs.Execution.Refinement

set_option autoImplicit false

namespace PlanChain

variable {σ τ : Type}

inductive Effort where
  | applies (step : Step)
  | asks (sessionId : String) (call : SandboxCall)

def Step.effort (inSessions : Bool) (step : Step) : Effort :=
  match inSessions, step.action with
  | true, .sandbox sessionId action => .asks sessionId action.call
  | _, _ => .applies step

def Deed.effort? : Deed → Option Effort
  | apply _ step => some (.applies step)
  | call sessionId asked => some (.asks sessionId asked)
  | _ => none

structure Account where
  response : Option ExecutionResponse
  events : List StepEvent
  journal : List Deed

-- How many steps are attempted and reported when a run over so many steps answers so, and what the last report tells.
-- A crash is not reported.
inductive Answers (steps : Nat) : Option ExecutionResponse → Nat → Nat → Option Failure → Prop where
  | success (result : ExecutionResult) (info : ResponseMeta)
      (counted : info.stepCount.map UInt64.toNat = some steps) :
      Answers steps (some (.success result info)) steps steps none
  | failure (index : Nat) (within : index < steps) (failure : Failure) (info : ResponseMeta)
      (counted : info.stepCount.map UInt64.toNat = some index) :
      Answers steps (some (.failure failure info)) (index + 1) (index + 1) (some failure)
  | crash (index : Nat) (within : index < steps) : Answers steps none (index + 1) index none

-- A run over a plan. If the run can be cancelled, and was, the last attempt may have been refused.
structure Account.Follows (account : Account) (options : Options) (inSessions cancellable : Bool) (plan : Plan)
    (attempts reported : Nat) (failure? : Option Failure) : Prop where
  answered : Answers plan.steps.length account.response attempts reported failure?
  begun : ∃ calls, account.journal.filterMap Deed.effort? = (plan.steps.take calls).map (Step.effort inSessions) ∧
    (calls = attempts ∨ (cancellable = true ∧ .cancel ∈ account.journal) ∧ calls + 1 = attempts ∧
      failure? = some StepError.cancelled.toFailure)
  reported : account.events = match options.traceId with
    | none => []
    | some traceId => (plan.steps.take reported).mapIdx fun index step =>
        ⟨traceId, plan.planId, index, step.id, step.kind, if index + 1 = attempts then failure? else none⟩

-- A run that was rejected before its first step, with a step count or without. A provider is only shut down.
structure Account.Rejects (account : Account) (provided counts : Bool) : Prop where
  answered : ∃ failure info, account.response = some (.failure failure info) ∧
    info.stepCount = if counts then some 0 else none
  begun : ∀ deed ∈ account.journal, deed = .shutdown ∨ deed = .cancel
  departed : account.journal.filter Deed.ofProvider = if provided then [.shutdown] else []
  reported : account.events = []

def Account.Agrees (account : Account) (options : Options) (provided inSessions cancellable counts : Bool) :
    Option Plan → Prop
  | none => account.Rejects provided counts
  | some plan => ∃ attempts reported failure?,
      account.Follows options inSessions cancellable plan attempts reported failure?

def exceedsBudget (raw : Json) (options : Options) : Bool :=
  0 < options.maxSteps.toInt && (Policy.violations raw).isEmpty &&
    match Plan.canonical raw with
    | .ok plan => options.maxSteps.toInt < plan.steps.length
    | .error _ => false

def admitted? (raw : Json) (options : Options) : Option Plan :=
  (prepare raw options).toOption.map Prepared.plan

def Environment.unprovided (env : Environment σ) (raw : Json) (options : Options) : Bool :=
  (admitted? raw options).any (env.lacksProvider options)

def Provider.Untraced (provider : Provider σ) : Prop :=
  ∀ sessionId first second, provider.create sessionId first = provider.create sessionId second

def Response.withTraceId {α : Type} (traceId : Option String) : Response α → Response α
  | success result info => success result { info with traceId }
  | failure reason info => failure reason { info with traceId }

section Walk

inductive Progress.Ends (steps index : Nat) : Progress → Nat → Nat → Option Failure → Prop where
  | finished (chain : Trace.Chain) (state : State) (recorded : chain.entries.length = index + steps) :
      Ends steps index (.finished chain state) steps steps none
  | halted (offset : Nat) (within : offset < steps) (failure : Failure) :
      Ends steps index (.halted ⟨failure, some (index + offset)⟩) (offset + 1) (offset + 1) (some failure)
  | crashed (offset : Nat) (within : offset < steps) : Ends steps index .crashed (offset + 1) offset none

theorem Progress.Ends.earlier {steps index attempts reported : Nat} {progress : Progress} {failure? : Option Failure}
    (ends : progress.Ends steps (index + 1) attempts reported failure?) :
    progress.Ends (steps + 1) index (attempts + 1) (reported + 1) failure? := by
  cases ends with
  | finished chain state recorded => exact .finished chain state (by omega)
  | halted offset within failure =>
      rw [Nat.add_right_comm]
      exact .halted (offset + 1) (by omega) failure
  | crashed offset within => exact .crashed (reported + 1) (by omega)

theorem Progress.Ends.untried {steps index reported : Nat} {progress : Progress} {failure? : Option Failure}
    (ends : progress.Ends steps index 0 reported failure?) : failure? = none := by
  cases ends
  rfl

def Reporter.reports (reporter : Reporter) (first : Nat) (steps : List Step) (attempts : Nat)
    (failure? : Option Failure) : List StepEvent :=
  match reporter.traceId with
  | none => []
  | some traceId => steps.mapIdx fun offset step =>
      ⟨traceId, reporter.planId, first + offset, step.id, step.kind, if offset + 1 = attempts then failure? else none⟩

@[simp] theorem reports_nil (reporter : Reporter) (first attempts : Nat) (failure? : Option Failure) :
    reporter.reports first [] attempts failure? = [] := by
  unfold Reporter.reports
  split <;> rfl

theorem reports_one (reporter : Reporter) (first : Nat) (step : Step) (failure? : Option Failure) :
    reporter.reports first [step] 1 failure? = reporter.report first step failure? := by
  unfold Reporter.reports Reporter.report
  cases reporter.traceId <;> rfl

theorem reports_cons (reporter : Reporter) (first : Nat) (step : Step) (steps : List Step) (attempts : Nat)
    (failure? : Option Failure) (untried : attempts = 0 → failure? = none) :
    reporter.reports first (step :: steps) (attempts + 1) failure? =
      reporter.report first step none ++ reporter.reports (first + 1) steps attempts failure? := by
  unfold Reporter.reports Reporter.report
  cases reporter.traceId with
  | none => rfl
  | some traceId =>
      have first_failure : (if 0 + 1 = attempts + 1 then failure? else none) = none := by
        split
        · exact untried (by omega)
        · rfl
      have later (offset : Nat) : first + 1 + offset = first + (offset + 1) := by omega
      dsimp only
      rw [List.mapIdx_cons, first_failure]
      simp only [later, Nat.add_right_cancel_iff]
      rfl

-- An applier, of what is begun with it: each step is begun once, unless it is refused.
def Applier.Attempts (apply : Applier σ) (valid : σ → Prop) (begun : σ → List Effort) (effort : Step → Effort)
    (refuses : σ → Prop) : Prop :=
  ∀ state step world, valid world →
    begun (apply state step world).2 = begun world ++ [effort step] ∨
      refuses (apply state step world).2 ∧ (apply state step world).1 = .error .cancelled ∧
        begun (apply state step world).2 = begun world

variable {apply : Applier σ} {valid refuses : σ → Prop} {begun : σ → List Effort} {effort : Step → Effort}

-- By induction on the steps: the end of a walk, its reports and what it began agree.
theorem walk_accounts (keeps : apply.Keeps valid) (tries : apply.Attempts valid begun effort refuses)
    (reporter : Reporter) (index : Nat) (chain : Trace.Chain) (state : State) (steps : List Step) (world : σ)
    (holds : valid world) (recorded : chain.entries.length = index) :
    ∃ attempts reported failure? calls,
      (walk apply reporter index chain state steps world).progress.Ends steps.length index attempts reported failure? ∧
      (walk apply reporter index chain state steps world).events =
        reporter.reports index (steps.take reported) attempts failure? ∧
      begun (walk apply reporter index chain state steps world).world =
        begun world ++ (steps.take calls).map effort ∧
      (calls = attempts ∨ refuses (walk apply reporter index chain state steps world).world ∧ calls + 1 = attempts ∧
        failure? = some StepError.cancelled.toFailure) := by
  induction steps generalizing index chain state world with
  | nil =>
      refine ⟨0, 0, none, 0, .finished chain state recorded, ?_, ?_, Or.inl rfl⟩
      · rw [walk, List.take_nil, reports_nil]
      · rw [walk, List.take_nil, List.map_nil, List.append_nil]
  | cons step rest ih =>
      have held := keeps state step world holds
      have tried := tries state step world holds
      rw [walk]
      cases applied : apply state step world with
      | mk result after =>
          rw [applied] at held tried
          dsimp only at held tried
          cases result with
          | crash =>
              obtain began | ⟨-, refused, -⟩ := tried
              · exact ⟨1, 0, none, 1, .crashed 0 (Nat.succ_pos _), (reports_nil reporter index 1 none).symm, began,
                  Or.inl rfl⟩
              · cases refused
          | error reason =>
              have ends : Progress.Ends (rest.length + 1) index (.halted ⟨reason.toFailure, some index⟩) 1 1
                  (some reason.toFailure) := .halted 0 (Nat.succ_pos _) reason.toFailure
              have reports := (reports_one reporter index step (some reason.toFailure)).symm
              obtain began | ⟨isRefused, refused, began⟩ := tried
              · exact ⟨1, 1, _, 1, ends, reports, began, Or.inl rfl⟩
              · cases refused
                exact ⟨1, 1, _, 0, ends, reports, by simpa using began, Or.inr ⟨isRefused, rfl, rfl⟩⟩
          | next next =>
              obtain began | ⟨-, refused, -⟩ := tried
              · have grown : (chain.record step state next state.fingerprint next.fingerprint).entries.length =
                    index + 1 := by
                  rw [← recorded, Trace.Chain.record, List.length_append, List.length_singleton]
                obtain ⟨attempts, reported, failure?, calls, ends, reports, others, called⟩ :=
                  ih (index + 1) _ next after held grown
                refine ⟨attempts + 1, reported + 1, failure?, calls + 1, ends.earlier, ?_, ?_, ?_⟩
                · rw [List.take_succ_cons, reports_cons _ _ _ _ _ _ fun none => (none ▸ ends).untried]
                  exact congrArg _ reports
                · rw [List.take_succ_cons, List.map_cons]
                  dsimp only
                  rw [others, began, List.append_assoc, List.singleton_append]
                · exact called.imp (congrArg (· + 1)) (And.imp_right (And.imp_left (congrArg (· + 1))))
              · cases refused

end Walk

section Prepared

variable {raw : Json} {options : Options}

theorem refused_counts {halt : Halt} (refused : prepare raw options = .error halt) :
    halt.stepCount = if exceedsBudget raw options then some 0 else none := by
  have budget : options.maxSteps ≤ 0 ↔ options.maxSteps.toInt ≤ 0 := Int64.le_iff_toInt_le
  unfold prepare at refused
  unfold exceedsBudget
  dsimp only at refused
  by_cases bad : options.maxSteps ≤ 0
  · rw [if_pos bad] at refused
    cases refused
    simp [Int.not_lt.mpr (budget.mp bad)]
  · have positive : 0 < options.maxSteps.toInt := by
      have := mt budget.mpr bad
      omega
    rw [if_neg bad] at refused
    cases violated : Policy.violations raw with
    | cons first rest =>
        rw [violated] at refused
        cases refused
        simp
    | nil =>
        rw [violated] at refused
        cases canonical : Plan.canonical raw with
        | error issues =>
            rw [canonical] at refused
            cases refused
            simp
        | ok plan =>
            rw [canonical] at refused
            dsimp only at refused
            split at refused
            · rename_i exceeds
              cases refused
              simp [positive, exceeds]
            · cases refused

theorem rejects_halt {halt : Halt} {journal : List Deed} (provided counts : Bool)
    (counted : halt.stepCount = if counts then some 0 else none)
    (silent : ∀ deed ∈ journal, deed = .shutdown ∨ deed = .cancel)
    (departed : journal.filter Deed.ofProvider = if provided then [.shutdown] else []) :
    Account.Rejects ⟨(Outcome.halted halt).toResponse? options, [], journal⟩ provided counts where
  answered := by
    refine ⟨halt.failure, _, rfl, ?_⟩
    rw [counted]
    cases counts <;> rfl
  begun := silent
  departed
  reported := rfl

theorem ends_answers {prepared : Prepared} (ready : prepare raw options = .ok prepared) {progress : Progress}
    {attempts reported : Nat} {failure? : Option Failure}
    (ends : progress.Ends prepared.plan.steps.length 0 attempts reported failure?) :
    Answers prepared.plan.steps.length ((Outcome.ofProgress prepared progress).toResponse? options) attempts reported
      failure? := by
  obtain ⟨-, -, -, inBudget, -⟩ := (prepare_ok_iff raw options prepared).mp ready
  have fits := budget_fits options prepared.plan.steps.length inBudget
  cases ends with
  | finished chain state recorded =>
      rw [Nat.zero_add] at recorded
      refine .success _ _ (congrArg some ?_)
      exact (UInt64.toNat_ofNat_of_lt' (recorded ▸ fits)).trans recorded
  | halted offset within failure =>
      rw [Nat.zero_add]
      exact .failure offset within failure _
        (congrArg some (UInt64.toNat_ofNat_of_lt' (Nat.lt_trans within fits)))
  | crashed offset within => exact .crash reported within

theorem walk_follows {apply : Applier σ} {valid refuses : σ → Prop} {journal : σ → List Deed}
    {inSessions cancellable : Bool}
    (keeps : apply.Keeps valid)
    (tries : apply.Attempts valid (fun world => (journal world).filterMap Deed.effort?) (Step.effort inSessions)
      refuses)
    {prepared : Prepared} (ready : prepare raw options = .ok prepared) {world : σ} (holds : valid world)
    (untried : (journal world).filterMap Deed.effort? = []) {walked : Walk σ}
    (ran : walk apply ⟨options.traceId, prepared.plan.planId⟩ 0 .empty .empty prepared.plan.steps world = walked)
    {noted : List Deed} (same : noted.filterMap Deed.effort? = (journal walked.world).filterMap Deed.effort?)
    (cancelled : refuses walked.world → cancellable = true ∧ .cancel ∈ noted) :
    ∃ attempts reported failure?, Account.Follows
      ⟨(Outcome.ofProgress prepared walked.progress).toResponse? options, walked.events, noted⟩ options inSessions
      cancellable prepared.plan attempts reported failure? := by
  subst ran
  obtain ⟨attempts, reported, failure?, calls, ends, reports, began, called⟩ := walk_accounts keeps tries
    ⟨options.traceId, prepared.plan.planId⟩ 0 .empty .empty prepared.plan.steps world holds rfl
  refine ⟨attempts, reported, failure?, ends_answers ready ends,
    ⟨calls, ?_, called.imp_right (And.imp_left cancelled)⟩, ?_⟩
  · rw [untried, List.nil_append] at began
    exact same.trans began
  · simpa only [Reporter.reports, Nat.zero_add] using reports

end Prepared

theorem journalled_attempts (cancelled : σ → Bool) (apply : Applier σ) :
    (apply.journalled cancelled).Attempts (fun _ => True) (fun noted => noted.journal.filterMap Deed.effort?)
      (Step.effort false) fun _ => False := by
  intro state step noted _
  have silent : (Deed.moment cancelled noted.world (apply state step noted.world).2).filterMap Deed.effort? = [] :=
    cancels_filter_map Deed.effort? (moment_cancels _ _) rfl
  refine Or.inl ?_
  simp [Applier.journalled, Journalled.note, Deed.effort?, Step.effort, silent]

theorem plain_agrees (apply : Applier σ) (world : σ) (raw : Json) (options : Options) :
    ∃ journal, execute (apply.journalled fun _ => false) raw options ⟨world, []⟩ =
        ⟨(execute apply raw options world).outcome, (execute apply raw options world).events,
          ⟨(execute apply raw options world).world, journal⟩⟩ ∧
      Account.Agrees ⟨(execute apply raw options world).outcome.toResponse? options,
        (execute apply raw options world).events, journal⟩ options false false false (exceedsBudget raw options)
        (admitted? raw options) := by
  obtain ⟨journal, same⟩ := plain_journalled (fun _ => false) apply raw options world []
  refine ⟨journal, same, ?_⟩
  have outcome := congrArg Run.outcome same
  have events := congrArg Run.events same
  have noted := congrArg (·.world.journal) same
  dsimp only at outcome events noted
  rw [← outcome, ← events]
  rw [List.nil_append] at noted
  rw [← noted]
  unfold execute admitted?
  cases ready : prepare raw options with
  | error halt => exact rejects_halt false _ (refused_counts ready) nofun rfl
  | ok prepared =>
      exact walk_follows (fun _ _ _ _ => trivial) (journalled_attempts (fun _ => false) apply) ready trivial rfl rfl rfl
        False.elim

namespace Environment

variable {env : Environment σ} {options : Options}

def hasSessions (env : Environment σ) (options : Options) : Bool := options.mode = .live && env.provider.isSome

structure Noting (env : Environment σ) (alarms : List (Alarm σ)) (run : Underway (Journalled σ)) : Prop where
  kept : run.line.Kept env.Tells (alarms.map (·.journalled env.cancelled))
  based : ∃ base journal, run = Underway.withJournal env.cancelled base journal

theorem acts_attempts {state : State} {step : Step} {run later : Underway σ} {result : Applied} {deeds : List Deed}
    (acts : env.Acts options state step run result deeds later) :
    deeds.filterMap Deed.effort? = [step.effort (env.hasSessions options)] ∨
      env.cancelled later.line.world = true ∧ result = .error .cancelled ∧ deeds.filterMap Deed.effort? = [] := by
  cases acts with
  | refused isOver => exact Or.inr ⟨isOver, rfl, rfl⟩
  | aside _ after going outside applied =>
      refine Or.inl ((head_kept Deed.effort? _ ?_).trans ?_)
      · exact List.forall_mem_append.mpr ⟨moment_kept _ rfl _ _, List.forall_mem_singleton.mpr rfl⟩
      · have aside : step.effort (env.hasSessions options) = .applies step := by
          unfold hasSessions Step.effort
          split
          · rename_i sessions isAction
            simp only [Bool.and_eq_true, decide_eq_true_eq] at sessions
            have core := outside sessions.1 sessions.2
            simp [isAction, Action.isSandbox] at core
          · rfl
        rw [aside]
        rfl
  | inSession provider sessionId action answer asked after going mode provided isAction asks =>
      have inSession : step.effort (env.hasSessions options) = .asks sessionId action.call := by
        simp [hasSessions, mode, provided, Step.effort, isAction]
      rw [List.filterMap_append, creation_kept Deed.effort? rfl (fun _ _ => rfl), List.nil_append, inSession]
      rcases asks_kept Deed.effort? rfl (fun _ _ => rfl) asks with ⟨isOver, rfl, rfl, rfl⟩ | ⟨-, called⟩
      · exact Or.inr ⟨isOver, rfl, rfl⟩
      · exact Or.inl called

variable {alarms : List (Alarm σ)}

theorem step_notes : (env.journalled.step options).Keeps (env.Noting alarms) := by
  rintro state step run ⟨kept, base, journal, rfl⟩
  obtain ⟨deeds, same, -⟩ := step_journalled env journal options state step base
  exact ⟨step_keeps (journalled_tells env alarms) options state step _ kept, _, _, congrArg Prod.snd same⟩

theorem step_attempts : (env.journalled.step options).Attempts (env.Noting alarms)
    (fun run => run.line.world.journal.filterMap Deed.effort?) (Step.effort (env.hasSessions options))
    fun run => .cancel ∈ run.line.world.journal := by
  intro state step run noting
  have cancelled : env.Tells (env.journalled.step options state step run).2.line.world :=
    (step_notes state step run noting).kept.world
  obtain ⟨-, base, journal, rfl⟩ := noting
  obtain ⟨deeds, same, acts⟩ := step_journalled env journal options state step base
  rw [same] at cancelled
  dsimp only
  rw [same]
  have noted : (journal ++ deeds).filterMap Deed.effort? =
      journal.filterMap Deed.effort? ++ deeds.filterMap Deed.effort? := List.filterMap_append
  rcases acts_attempts acts with began | ⟨isOver, refused, silent⟩
  · exact Or.inl (noted.trans (by rw [began]; rfl))
  · exact Or.inr ⟨cancelled isOver, refused, noted.trans (by rw [silent, List.append_nil]; rfl)⟩

variable {raw : Json}

theorem live_follows {prepared : Prepared} (ready : prepare raw options = .ok prepared)
    (provided : env.lacksProvider options prepared.plan = false) (line : Timeline σ) {before : List Deed}
    (untried : before.filterMap Deed.effort? = []) (tells : env.Tells ⟨line.world, before⟩)
    {noted : Run (Timeline (Journalled σ))}
    (ran : env.journalled.execute raw options (line.withJournal env.cancelled before) = noted) :
    ∃ attempts reported failure?, Account.Follows
      ⟨noted.outcome.toResponse? options, noted.events, noted.world.world.journal⟩ options (env.hasSessions options)
      true prepared.plan attempts reported failure? := by
  have holds : env.Noting line.alarms ⟨line.withJournal env.cancelled before, ∅⟩ :=
    ⟨⟨tells, List.Subset.refl _⟩, ⟨line, ∅⟩, before, rfl⟩
  have notes := walk_keeps (env.journalled.step options) (env.Noting line.alarms) step_notes
    ⟨options.traceId, prepared.plan.planId⟩ 0 .empty .empty prepared.plan.steps _ holds
  unfold execute at ran
  simp only [ready, journalled_lacks, provided, Bool.false_eq_true, if_false] at ran
  cases walked : walk (env.journalled.step options) ⟨options.traceId, prepared.plan.planId⟩ 0 .empty .empty
      prepared.plan.steps ⟨line.withJournal env.cancelled before, ∅⟩ with
  | mk progress events run =>
      rw [walked] at notes ran
      obtain ⟨-, base, journal, rfl⟩ := notes
      obtain ⟨last, isLast, silent⟩ : ∃ last, noted.world.world.journal = journal ++ last ∧
          last.filterMap Deed.effort? = [] := by
        obtain ⟨last, torn, spaced⟩ := teardown_journalled env journal base
        have silent : last.filterMap Deed.effort? = [] := List.filterMap_eq_nil_iff.mpr
          (departs_all (farewell_departs spaced) (Deed.effort? · = none) rfl rfl fun _ => rfl)
        rw [← ran]
        cases progress with
        | crashed => exact ⟨[], (List.append_nil _).symm, rfl⟩
        | finished chain state => exact ⟨last, congrArg (·.world.journal) torn, silent⟩
        | halted halt => exact ⟨last, congrArg (·.world.journal) torn, silent⟩
      rw [isLast, ← ran]
      refine walk_follows step_notes step_attempts ready holds untried walked ?_ fun cancelled =>
        ⟨rfl, List.mem_append_left last cancelled⟩
      rw [List.filterMap_append, silent, List.append_nil]
      rfl

theorem agrees_from {before : List Deed} (cancels : ∀ deed ∈ before, deed = .cancel)
    (line : Timeline σ) (tells : env.Tells ⟨line.world, before⟩) :
    ∃ journal, env.journalled.execute raw options (line.withJournal env.cancelled before) =
        (env.execute raw options line).withJournal env.cancelled journal ∧
      Account.Agrees ⟨(env.execute raw options line).outcome.toResponse? options, (env.execute raw options line).events,
        journal⟩ options env.provider.isSome (env.hasSessions options) true
        (exceedsBudget raw options || env.unprovided raw options)
        ((admitted? raw options).filter (!env.lacksProvider options ·)) := by
  have untried : before.filterMap Deed.effort? = [] := cancels_filter_map Deed.effort? cancels rfl
  have idle : ∀ deed ∈ before, deed = .shutdown ∨ deed = .cancel := fun deed among => Or.inr (cancels deed among)
  have apart : before.filter Deed.ofProvider = [] :=
    List.filter_eq_nil_iff.mpr fun deed among => by simp [cancels deed among, Deed.ofProvider, Deed.isWork]
  cases ready : prepare raw options with
  | error halt =>
      obtain ⟨deeds, left, spaced⟩ := shutdown_journalled env before line
      refine ⟨before ++ deeds, by simp [execute, ready, left, Run.withJournal], ?_⟩
      simp only [execute, admitted?, unprovided, ready, Except.toOption, Option.map_none, Option.filter_none,
        Option.any_none, Bool.or_false]
      refine rejects_halt _ _ (refused_counts ready) (List.forall_mem_append.mpr ⟨idle, shutdown_idle spaced⟩) ?_
      rw [List.filter_append, apart, List.nil_append, spaced_filter spaced (farewell_of_provider env [])]
      rfl
  | ok prepared =>
      cases provided : env.lacksProvider options prepared.plan with
      | true =>
          refine ⟨before, by simp [execute, ready, provided, Run.withJournal], ?_⟩
          simp only [execute, admitted?, unprovided, ready, provided, Except.toOption, Option.map_some,
            Option.filter_some, Option.any_some, Bool.or_true, Bool.not_true, if_true]
          have missing : env.provider.isSome = false := by
            rw [lacksProvider, Bool.and_eq_true, Bool.and_eq_true] at provided
            simpa using provided.1.2
          exact rejects_halt _ true rfl idle (by rw [apart, missing]; rfl)
      | false =>
          obtain ⟨deeds, same, -⟩ := execute_journalled env before raw options line
          refine ⟨before ++ deeds, same, ?_⟩
          simp only [admitted?, ready, provided, Except.toOption, Option.map_some, Option.filter_some, Bool.not_false,
            if_true]
          exact live_follows ready provided line untried tells same

theorem live_agrees (env : Environment σ) (raw : Json) (options : Options) (line : Timeline σ) :
    ∃ journal, env.journalled.execute raw options (line.journalled env.cancelled) =
        (env.execute raw options line).withJournal env.cancelled journal ∧
      Account.Agrees ⟨(env.execute raw options line).outcome.toResponse? options, (env.execute raw options line).events,
        journal⟩ options env.provider.isSome (env.hasSessions options) true
        (exceedsBudget raw options || env.unprovided raw options)
        ((admitted? raw options).filter (!env.lacksProvider options ·)) := by
  refine agrees_from ?_ line fun (isOver : env.cancelled line.world = true) => by simp [isOver]
  split
  · exact List.forall_mem_singleton.mpr rfl
  · exact nofun

end Environment

section Traced

variable {env : Environment σ} {options : Options}

theorem response_traced (outcome : Outcome) (options : Options) (traceId : Option String) :
    outcome.toResponse? { options with traceId } = (outcome.toResponse? options).map (·.withTraceId traceId) := by
  cases outcome <;> rfl

theorem execute_traced (apply : Applier σ) (raw : Json) (options : Options) (world : σ) (traceId : Option String) :
    (execute apply raw { options with traceId } world).outcome = (execute apply raw options world).outcome := by
  have same : prepare raw { options with traceId } = prepare raw options := rfl
  rw [execute, execute, same]
  cases prepare raw options with
  | error halt => rfl
  | ok prepared =>
      dsimp only
      rw [walk_unreported apply ⟨traceId, prepared.plan.planId⟩ ⟨options.traceId, prepared.plan.planId⟩]

namespace Environment

theorem in_session_traced {provider : Provider σ} (untraced : provider.Untraced) (first second : Option String)
    (state : State) (sessionId : String) (action : SandboxAction) (run : Underway σ) :
    env.applyInSession provider first state sessionId action run =
      env.applyInSession provider second state sessionId action run := by
  have ensured : ensure provider first sessionId run = ensure provider second sessionId run := by
    rw [ensure, ensure, untraced sessionId first second]
  rw [applyInSession, applyInSession, ensured]

theorem step_traced (untraced : ∀ provider ∈ env.provider, provider.Untraced) (traceId : Option String) :
    env.step { options with traceId } = env.step options := by
  funext state step run
  obtain ⟨id, action⟩ := step
  obtain ⟨mode, maxSteps, told⟩ := options
  unfold Environment.step
  cases provided : env.provider with
  | none => cases mode <;> cases action <;> rfl
  | some provider =>
      cases mode with
      | mock => cases action <;> rfl
      | live =>
          cases action with
          | sandbox sessionId action =>
              dsimp only
              rw [in_session_traced (untraced provider provided) traceId told]
          | _ => rfl

theorem live_traced (untraced : ∀ provider ∈ env.provider, provider.Untraced) (raw : Json) (options : Options)
    (line : Timeline σ) (traceId : Option String) :
    (env.execute raw { options with traceId } line).outcome = (env.execute raw options line).outcome := by
  have same : prepare raw { options with traceId } = prepare raw options := rfl
  have lacking (plan : Plan) : env.lacksProvider { options with traceId } plan = env.lacksProvider options plan := rfl
  rw [execute, execute, same]
  cases prepare raw options with
  | error halt => rfl
  | ok prepared =>
      simp only [lacking, step_traced untraced]
      split
      · rfl
      · dsimp only
        rw [walk_unreported (env.step options) ⟨traceId, prepared.plan.planId⟩ ⟨options.traceId, prepared.plan.planId⟩]

end Environment

end Traced

-- A plain run and a live run, whatever they are given: what each answers, what it reports and what it begins agree on
-- the steps that were attempted; and the trace id is only told.
theorem attempts_told_alike (apply : Applier σ) (world : σ) (env : Environment τ) (line : Timeline τ) (raw : Json)
    (options : Options) :
    let plain := execute apply raw options world
    let live := env.execute raw options line
    (∃ journal, execute (apply.journalled fun _ => false) raw options ⟨world, []⟩ =
        ⟨plain.outcome, plain.events, ⟨plain.world, journal⟩⟩ ∧
      Account.Agrees ⟨plain.outcome.toResponse? options, plain.events, journal⟩ options false false false
        (exceedsBudget raw options) (admitted? raw options)) ∧
    (∃ journal, env.journalled.execute raw options (line.journalled env.cancelled) =
        live.withJournal env.cancelled journal ∧
      Account.Agrees ⟨live.outcome.toResponse? options, live.events, journal⟩ options env.provider.isSome
        (env.hasSessions options) true (exceedsBudget raw options || env.unprovided raw options)
        ((admitted? raw options).filter (!env.lacksProvider options ·))) ∧
    ∀ traceId,
      (execute apply raw { options with traceId } world).outcome.toResponse? { options with traceId } =
        (plain.outcome.toResponse? options).map (·.withTraceId traceId) ∧
      ((∀ provider ∈ env.provider, provider.Untraced) →
        (env.execute raw { options with traceId } line).outcome.toResponse? { options with traceId } =
          (live.outcome.toResponse? options).map (·.withTraceId traceId)) := by
  refine ⟨plain_agrees apply world raw options, env.live_agrees raw options line,
    fun traceId => ⟨?_, fun untraced => ?_⟩⟩
  · rw [execute_traced, response_traced]
  · rw [Environment.live_traced untraced, response_traced]

theorem unanswered_run_told_alike :
    let raw := threeSteps.toJson
    let options : Options := { mode := .live, traceId := some "t" }
    let line : Timeline Nat := ⟨0, [], 0⟩
    let late := (StepError.timeout .sandboxClick 5).toFailure
    (∀ provider ∈ tiring.provider, provider.Untraced) ∧
      (tiring.execute raw options line).outcome.toResponse? options =
        some (.failure late ⟨.live, some 1, some "t"⟩) ∧
      (tiring.execute raw options line).events =
        [⟨"t", "visit", 0, "first", .appendLog, none⟩, ⟨"t", "visit", 1, "second", .sandboxClick, some late⟩] ∧
      (tiring.execute raw { options with traceId := none } line).outcome.toResponse? { options with traceId := none } =
        some (.failure late ⟨.live, some 1, none⟩) := by
  intro raw options line late
  have untraced : ∀ provider ∈ tiring.provider, provider.Untraced := by
    intro provider provided
    cases provided
    exact fun _ _ _ => rfl
  have answered : (tiring.execute raw options line).outcome.toResponse? options =
      some (.failure late ⟨.live, some 1, some "t"⟩) := rfl
  obtain ⟨-, -, alike⟩ := attempts_told_alike tiring.apply 0 tiring line raw options
  refine ⟨untraced, answered, rfl, ?_⟩
  rw [(alike none).2 untraced, answered]
  rfl

-- A plan that is rejected does reach a provider: the run shuts it down.
theorem rejected_plan_reaches_provider :
    let raw : Json := .obj []
    let options : Options := { mode := .live }
    let line : Timeline Nat := ⟨0, [], 0⟩
    admitted? raw options = none ∧
      tiring.journalled.execute raw options (line.journalled tiring.cancelled) =
        (tiring.execute raw options line).withJournal tiring.cancelled [.shutdown] ∧
      Deed.shutdown.ofProvider = true := ⟨rfl, rfl, rfl⟩

end PlanChain
