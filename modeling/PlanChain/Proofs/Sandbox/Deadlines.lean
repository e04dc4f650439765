import PlanChain.Proofs.Sandbox.Sessions

set_option autoImplicit false

namespace PlanChain

variable {σ α : Type}

-- A call that a step begins: the timeline when it has been begun, and the work that is then awaited.
structure Operation (σ : Type) where
  index : Nat
  step : Step
  sessionId : String
  call : SandboxCall
  begun : Timeline σ
  work : Pending σ SandboxOutcome

namespace Operation

def asked (operation : Operation σ) : String × SandboxCall := (operation.sessionId, operation.call)

def Late (operation : Operation σ) (limit : UInt64) : Prop :=
  ∀ delay, operation.work.delay = some delay → limit.toNat < delay

def Uncut (operation : Operation σ) (cut : σ → Bool) (limit : UInt64) : Prop :=
  (operation.begun.wait cut limit.toNat).1 = false

end Operation

namespace Environment

def operation? (env : Environment σ) (options : Options) (index : Nat) (step : Step) (run : Underway σ) :
    Option (Operation σ) :=
  if env.cancelled run.line.world then none
  else
    match options.mode, step.action, env.provider with
    | .live, .sandbox sessionId action, some provider =>
      let line := (ensure provider options.traceId sessionId run).line
      if env.cancelled line.world then none
      else
        let (work, world) := provider.call sessionId action.call line.world
        some ⟨index, step, sessionId, action.call, { line with world }, work⟩
    | _, _, _ => none

def operationsFrom (env : Environment σ) (options : Options) (index : Nat) (state : State) (steps : List Step)
    (run : Underway σ) : List (Operation σ) :=
  match steps with
  | [] => []
  | step :: rest =>
    (env.operation? options index step run).toList ++
      match env.step options state step run with
      | (.next next, later) => env.operationsFrom options (index + 1) next rest later
      | _ => []

def operations (env : Environment σ) (raw : Json) (options : Options) (line : Timeline σ) : List (Operation σ) :=
  match prepare raw options with
  | .error _ => []
  | .ok prepared =>
    if env.lacksProvider options prepared.plan then []
    else env.operationsFrom options 0 .empty prepared.plan.steps ⟨line, ∅⟩

end Environment

namespace Timeline

variable (line : Timeline σ) (cut : σ → Bool)

theorem ring_until_now (moment now : Nat) (early : now ≤ moment) (alarms : List (Alarm σ)) (world : σ) :
    (ringUntil cut moment now alarms world).2.now ≤ moment := by
  induction alarms generalizing now world with
  | nil => exact Nat.le_refl moment
  | cons alarm rest ih =>
      rw [ringUntil]
      split
      · exact Nat.le_refl moment
      · rename_i due
        have rung : max now alarm.due ≤ moment := Nat.max_le.mpr ⟨early, Nat.not_lt.mp due⟩
        split
        · exact rung
        · exact ih _ rung _

theorem wait_now (milliseconds : Nat) : (line.wait cut milliseconds).2.now ≤ line.now + milliseconds := by
  unfold wait
  split
  · exact Nat.le_add_right _ _
  · split
    · exact Nat.le_add_right _ _
    · exact ring_until_now cut _ _ (Nat.le_add_right _ _) _ _

theorem expire_now (limit : Nat) : (line.expire cut limit : Awaited α × Timeline σ).2.now ≤ line.now + limit := by
  have waited := wait_now line cut limit
  unfold expire
  cases ends : line.wait cut limit with
  | mk isCut later =>
      rw [ends] at waited
      cases isCut <;> exact waited

-- No wait is longer than its limit, whether it is answered, cut or given up.
theorem await_now (limit : Nat) (pending : Pending σ α) :
    (line.await cut limit pending).2.now ≤ line.now + limit := by
  unfold await
  cases pending.delay with
  | none => exact expire_now line cut limit
  | some delay =>
      dsimp only
      split
      · exact expire_now line cut limit
      · rename_i inTime
        have waited := wait_now line cut delay
        cases ends : line.wait cut delay with
        | mk isCut later =>
            rw [ends] at waited
            have within : later.now ≤ line.now + limit := by
              have short := Nat.not_lt.mp inTime
              dsimp only at waited
              omega
            cases isCut <;> exact within

theorem await_late (limit : Nat) (pending : Pending σ α)
    (late : ∀ delay, pending.delay = some delay → limit < delay) (uncut : (line.wait cut limit).1 = false) :
    (line.await cut limit pending).1 = .expired := by
  have expired : (line.expire cut limit : Awaited α × Timeline σ).1 = .expired := by
    unfold expire
    cases ends : line.wait cut limit with
    | mk isCut later =>
        rw [ends] at uncut
        cases uncut
        rfl
  unfold await
  cases length : pending.delay with
  | none => exact expired
  | some delay =>
      dsimp only
      rw [if_pos (late delay length)]
      exact expired

end Timeline

namespace Environment

variable (env : Environment σ)

section Elapsed

theorem settle_now (start : σ → Pending σ Unit × σ) (line : Timeline σ) :
    (env.settle start line).now ≤ line.now + env.timeout.toNat := by
  unfold settle Timeline.settle
  exact Timeline.await_now { line with world := (start line.world).2 } _ _ _

theorem shutdown_now (line : Timeline σ) : (env.shutdown line).now ≤ line.now + env.timeout.toNat := by
  unfold shutdown
  cases env.provider with
  | none => exact Nat.le_add_right _ _
  | some provider => exact settle_now env _ line

theorem closes_now (provider : Provider σ) (opened : List String) (line : Timeline σ) :
    (opened.foldl (fun line sessionId => env.settle (provider.close sessionId) line) line).now ≤
      line.now + opened.length * env.timeout.toNat := by
  induction opened generalizing line with
  | nil => exact Nat.le_add_right _ _
  | cons sessionId rest ih =>
      have closed := settle_now env (provider.close sessionId) line
      have others := ih (env.settle (provider.close sessionId) line)
      rw [List.foldl_cons, List.length_cons, Nat.succ_mul]
      omega

theorem teardown_now (run : Underway σ) :
    (env.teardown run).now ≤ run.line.now + (run.opened.keys.length + 1) * env.timeout.toNat := by
  unfold teardown
  cases env.provider with
  | none => exact Nat.le_add_right _ _
  | some provider =>
      have closed := closes_now env provider run.opened.keys run.line
      have left := shutdown_now env
        (run.opened.keys.foldl (fun line sessionId => env.settle (provider.close sessionId) line) run.line)
      rw [Nat.succ_mul]
      dsimp only
      omega

theorem ask_now (provider : Provider σ) (kind : StepKind) (sessionId : String) (call : SandboxCall)
    (line : Timeline σ) :
    (env.ask provider kind sessionId call line).2.now ≤ line.now + env.timeout.toNat := by
  unfold ask
  split
  · exact Nat.le_add_right _ _
  · have awaited := Timeline.await_now { line with world := (provider.call sessionId call line.world).2 } env.cancelled
      env.timeout.toNat (provider.call sessionId call line.world).1
    dsimp only
    split <;> simp_all

theorem ensure_now (provider : Provider σ) (traceId : Option String) (sessionId : String) (run : Underway σ) :
    (ensure provider traceId sessionId run).line.now = run.line.now := by
  unfold ensure
  split <;> rfl

theorem step_now (options : Options) (state : State) (step : Step) (run : Underway σ) :
    (env.step options state step run).2.line.now ≤ run.line.now + env.timeout.toNat := by
  unfold Environment.step
  split
  · exact Nat.le_add_right _ _
  · split
    · rename_i sessionId action provider _ _ _
      rw [← ensure_now provider options.traceId sessionId run]
      exact ask_now env provider action.kind sessionId action.call _
    · exact Nat.le_add_right _ _

end Elapsed

section Noted

variable {env : Environment σ} {options : Options} {state : State} {step : Step} {run later : Underway σ}
  {deeds : List Deed}

theorem asks_called {provider : Provider σ} {kind : StepKind} {sessionId : String} {call : SandboxCall}
    {line after : Timeline σ} {answer : Except StepError SandboxReply}
    (asks : env.Asks provider kind sessionId call line answer deeds after) :
    env.cancelled line.world = true ∧ after = line ∧ deeds.filterMap Deed.called? = [] ∨
      env.cancelled line.world = false ∧ deeds.filterMap Deed.called? = [(sessionId, call)] := by
  rcases asks_kept Deed.called? rfl (fun _ _ => rfl) asks with ⟨isOver, -, rfl, same⟩ | ⟨going, called⟩
  · exact Or.inl ⟨isOver, same, rfl⟩
  · exact Or.inr ⟨going, called⟩

theorem creation_called (provider : Provider σ) (traceId : Option String) (sessionId : String) :
    (env.creation provider traceId sessionId run).filterMap Deed.called? = [] :=
  creation_kept Deed.called? rfl (fun _ _ => rfl) provider traceId sessionId run

theorem operation_none (index : Nat) (outside : options.mode = .live → env.provider.isSome = true →
    step.action.isSandbox = false) : env.operation? options index step run = none := by
  unfold operation?
  split
  · rfl
  · split
    · rename_i sessionId action provider isLive isSandbox provided
      simp [isSandbox, isLive, provided, Action.isSandbox] at outside
    · rfl

theorem operation_in_session {provider : Provider σ} {sessionId : String} {action : SandboxAction} (index : Nat)
    (going : env.cancelled run.line.world = false) (mode : options.mode = .live)
    (provided : env.provider = some provider) (isAction : step.action = .sandbox sessionId action) :
    env.operation? options index step run =
      let line := (ensure provider options.traceId sessionId run).line
      let begun := provider.call sessionId action.call line.world
      if env.cancelled line.world then none
      else some ⟨index, step, sessionId, action.call, { line with world := begun.2 }, begun.1⟩ := by
  rw [operation?, if_neg (by simp [going]), mode, isAction, provided]

theorem acts_called (index : Nat) {result : Applied} (acts : env.Acts options state step run result deeds later) :
    deeds.filterMap Deed.called? = (env.operation? options index step run).toList.map Operation.asked := by
  cases acts with
  | refused isOver => rw [operation?, if_pos isOver]; rfl
  | aside _ after going outside applied =>
      rw [operation_none index outside]
      refine List.filterMap_eq_nil_iff.mpr (List.forall_mem_cons.mpr ⟨rfl, List.forall_mem_append.mpr ?_⟩)
      exact ⟨moment_kept _ rfl _ _, List.forall_mem_singleton.mpr rfl⟩
  | inSession provider sessionId action answer asked after going mode provided isAction asks =>
      rw [List.filterMap_append, creation_called, List.nil_append,
        operation_in_session index going mode provided isAction]
      rcases asks_called asks with ⟨isOver, -, called⟩ | ⟨goes, called⟩
      · simp [isOver, called]
      · simp [goes, called, Operation.asked]

theorem acts_elapsed {result : Applied} (stepped : env.step options state step run = (result, later))
    (acts : env.Acts options state step run result deeds later) :
    later.line.now ≤ run.line.now + (deeds.filterMap Deed.called?).length * env.timeout.toNat := by
  have bounded := step_now env options state step run
  rw [stepped] at bounded
  cases acts with
  | refused isOver => exact Nat.le_add_right _ _
  | aside _ after going outside applied => exact Nat.le_add_right _ _
  | inSession provider sessionId action answer asked after going mode provided isAction asks =>
      rw [List.filterMap_append, creation_called, List.nil_append]
      rcases asks_called asks with ⟨-, same, called⟩ | ⟨-, called⟩
      · rw [called, same]
        dsimp only
        rw [ensure_now]
        exact Nat.le_add_right _ _
      · rw [called, List.length_singleton, Nat.one_mul]
        exact bounded

theorem walks_elapsed {index : Nat} {steps : List Step} {progress : Progress}
    (walks : env.Walks options index state steps run progress deeds later) :
    later.line.now ≤ run.line.now + (deeds.filterMap Deed.called?).length * env.timeout.toNat := by
  induction walks with
  | finished index chain state run => exact Nat.le_add_right _ _
  | crashed index state step rest run later deeds stepped acts => exact acts_elapsed stepped acts
  | halted index state step rest run later reason deeds stepped acts => exact acts_elapsed stepped acts
  | moved index state next step rest run middle later progress deeds more stepped acts others ih =>
      have first := acts_elapsed stepped acts
      rw [List.filterMap_append, List.length_append, Nat.add_mul]
      omega

theorem walks_called {index : Nat} {steps : List Step} {progress : Progress}
    (walks : env.Walks options index state steps run progress deeds later) :
    deeds.filterMap Deed.called? = (env.operationsFrom options index state steps run).map Operation.asked := by
  induction walks with
  | finished index chain state run => rfl
  | crashed index state step rest run later deeds stepped acts =>
      rw [operationsFrom, stepped, List.append_nil]
      exact acts_called index acts
  | halted index state step rest run later reason deeds stepped acts =>
      rw [operationsFrom, stepped, List.append_nil]
      exact acts_called index acts
  | moved index state next step rest run middle later progress deeds more stepped acts others ih =>
      rw [operationsFrom, stepped, List.map_append, List.filterMap_append, ih, acts_called index acts]

end Noted

section Late

variable {env : Environment σ} {options : Options} {state : State} {step : Step} {run : Underway σ}
  {operation : Operation σ}

theorem ask_late {provider : Provider σ} {line : Timeline σ} {sessionId : String} {call : SandboxCall} (kind : StepKind)
    (going : env.cancelled line.world = false)
    (late : ∀ delay, (provider.call sessionId call line.world).1.delay = some delay → env.timeout.toNat < delay)
    (uncut : (Timeline.wait { line with world := (provider.call sessionId call line.world).2 } env.cancelled
      env.timeout.toNat).1 = false) :
    (env.ask provider kind sessionId call line).1 = .error (.timeout kind env.timeout) := by
  have expired := Timeline.await_late _ _ _ _ late uncut
  rw [ask, if_neg (by simp [going])]
  dsimp only
  cases awaited : Timeline.await { line with world := (provider.call sessionId call line.world).2 } env.cancelled
      env.timeout.toNat (provider.call sessionId call line.world).1 with
  | mk answer after =>
      rw [awaited] at expired
      cases expired
      rfl

theorem operation_begins {index : Nat} (begins : env.operation? options index step run = some operation) :
    ∃ provider sessionId action, env.cancelled run.line.world = false ∧ options.mode = .live ∧
      env.provider = some provider ∧ step.action = .sandbox sessionId action ∧
      let line := (ensure provider options.traceId sessionId run).line
      let begun := provider.call sessionId action.call line.world
      env.cancelled line.world = false ∧
        operation = ⟨index, step, sessionId, action.call, { line with world := begun.2 }, begun.1⟩ := by
  have going : env.cancelled run.line.world = false := by
    refine Bool.eq_false_iff.mpr fun isOver => ?_
    rw [operation?, if_pos isOver] at begins
    cases begins
  cases outside : decide (options.mode = .live) && env.provider.isSome && step.action.isSandbox with
  | false =>
      rw [operation_none index fun mode provided => by simpa [mode, provided] using outside] at begins
      cases begins
  | true =>
      simp only [Bool.and_eq_true, decide_eq_true_eq] at outside
      obtain ⟨⟨mode, isProvided⟩, isSandbox⟩ := outside
      obtain ⟨provider, provided⟩ := Option.isSome_iff_exists.mp isProvided
      cases isAction : step.action with
      | sandbox sessionId action =>
          rw [operation_in_session index going mode provided isAction] at begins
          dsimp only at begins
          split at begins
          · cases begins
          · rename_i goes
            exact ⟨provider, sessionId, action, going, mode, provided, rfl, Bool.eq_false_iff.mpr goes,
              (Option.some.inj begins).symm⟩
      | _ => simp [isAction, Action.isSandbox] at isSandbox

theorem step_late {index : Nat} (state : State) (begins : env.operation? options index step run = some operation)
    (late : operation.Late env.timeout) (uncut : operation.Uncut env.cancelled env.timeout) :
    operation.index = index ∧ operation.step = step ∧
      (env.step options state step run).1 = .error (.timeout step.kind env.timeout) := by
  obtain ⟨provider, sessionId, action, going, mode, provided, isAction, goes, rfl⟩ := operation_begins begins
  have fails := ask_late action.kind goes late uncut
  have kind : step.kind = action.kind := by rw [Step.kind, isAction]; rfl
  refine ⟨rfl, rfl, ?_⟩
  rw [Environment.step, if_neg (by simp [going]), mode, isAction, provided, kind]
  dsimp only [applyInSession]
  rw [fails]
  rfl

-- By induction on the steps: a late call is the last thing that a walk does.
theorem walk_late (reporter : Reporter) (index : Nat) (chain : Trace.Chain) (steps : List Step)
    (among : operation ∈ env.operationsFrom options index state steps run) (late : operation.Late env.timeout)
    (uncut : operation.Uncut env.cancelled env.timeout) :
    ∃ offset, operation.index = index + offset ∧ steps[offset]? = some operation.step ∧
      (walk (env.step options) reporter index chain state steps run).progress =
        .halted ⟨(StepError.timeout operation.step.kind env.timeout).toFailure, some operation.index⟩ := by
  induction steps generalizing index chain state run with
  | nil => cases among
  | cons step rest ih =>
      rw [operationsFrom] at among
      rcases List.mem_append.mp among with here | there
      · have begins := Option.mem_toList.mp here
        obtain ⟨isIndex, isStep, fails⟩ := step_late state begins late uncut
        refine ⟨0, isIndex, congrArg some isStep.symm, ?_⟩
        rw [walk, isIndex, isStep]
        cases stepped : env.step options state step run with
        | mk result later =>
            rw [stepped] at fails
            cases fails
            rfl
      · cases stepped : env.step options state step run with
        | mk result later =>
            rw [stepped] at there
            cases result with
            | next next =>
                obtain ⟨offset, isIndex, isStep, ends⟩ := ih (index + 1)
                  (chain.record step state next state.fingerprint next.fingerprint) there
                refine ⟨offset + 1, by omega, isStep, ?_⟩
                rw [walk, stepped]
                exact ends
            | error reason => cases there
            | crash => cases there

end Late

section Spent

variable {env : Environment σ} {options : Options}

def allowance (env : Environment σ) (journal : List Deed) : Nat :=
  ((journal.filterMap Deed.called?).length + (journal.filterMap Deed.created?).length + 1) * env.timeout.toNat

theorem acts_crash {state : State} {step : Step} {run later : Underway σ} {deeds : List Deed}
    (acts : env.Acts options state step run .crash deeds later) : .applied .crash ∈ deeds := by
  generalize crash : Applied.crash = result at acts
  cases acts with
  | refused isOver => cases crash
  | aside _ after going outside applied => simp
  | inSession provider sessionId action answer asked after going mode provided isAction asks =>
      cases answer <;> cases crash

theorem walks_crash {index : Nat} {state : State} {steps : List Step} {run later : Underway σ} {deeds : List Deed}
    {progress : Progress} (walks : env.Walks options index state steps run progress deeds later)
    (crashed : progress = .crashed) : .applied .crash ∈ deeds := by
  induction walks with
  | finished index chain state run => cases crashed
  | crashed index state step rest run later deeds stepped acts => exact acts_crash acts
  | halted index state step rest run later reason deeds stepped acts => cases crashed
  | moved index state next step rest run middle later progress deeds more stepped acts others ih =>
      exact List.mem_append_right deeds (ih crashed)

theorem departs_called {last : List Deed} (departs : Departs last) : last.filterMap Deed.called? = [] :=
  List.filterMap_eq_nil_iff.mpr (departs_all departs (Deed.called? · = none) rfl rfl fun _ => rfl)

theorem departs_created {last : List Deed} (departs : Departs last) : last.filterMap Deed.created? = [] :=
  List.filterMap_eq_nil_iff.mpr (departs_all departs (Deed.created? · = none) rfl rfl fun _ => rfl)

-- What is done at the end takes a timeout for each session created, and one for the provider.
theorem teardown_spent {steps : List Step} {line : Timeline σ} {run : Underway σ} {deeds : List Deed}
    {progress : Progress} (walks : env.Walks options 0 .empty steps ⟨line, ∅⟩ progress deeds run) :
    (env.teardown run).now ≤
      run.line.now + ((deeds.filterMap Deed.created?).length + 1) * env.timeout.toNat := by
  have torn := teardown_now env run
  cases provided : env.provider with
  | none =>
      simp only [teardown, provided]
      exact Nat.le_add_right _ _
  | some provider =>
      have created := (walks_opens provided walks).created.length_eq
      have unopened : (∅ : Table Unit).keys = [] := rfl
      rw [unopened, List.append_nil] at created
      rwa [created] at torn

-- A run and its journal: it ends, unless the applier crashes; it takes no longer than it may; what it calls are its
-- operations; and it ends, retryably, at the step of an operation that is late and not cut short.
structure InTime (env : Environment σ) (raw : Json) (options : Options) (line : Timeline σ) (journal : List Deed) :
    Prop where
  ends : (env.execute raw options line).outcome = .crashed → .applied .crash ∈ journal
  elapsed : (env.execute raw options line).world.now ≤ line.now + env.allowance journal
  called : journal.filterMap Deed.called? = (env.operations raw options line).map Operation.asked
  late : ∀ operation ∈ env.operations raw options line, operation.Late env.timeout →
    operation.Uncut env.cancelled env.timeout →
    ∃ prepared failure, prepare raw options = .ok prepared ∧
      prepared.plan.steps[operation.index]? = some operation.step ∧
      (env.execute raw options line).outcome = .halted ⟨failure, some operation.index⟩ ∧
      failure = (StepError.timeout operation.step.kind env.timeout).toFailure ∧
      failure.code = .timeout ∧ failure.retryable = true

theorem beforehand_in_time {raw : Json} {line : Timeline σ} {journal : List Deed} (isOver : Bool)
    (inTime : env.InTime raw options line journal) :
    env.InTime raw options line ((if isOver then [.cancel] else []) ++ journal) := by
  cases isOver with
  | false => exact inTime
  | true =>
      exact ⟨fun crashed => List.mem_cons_of_mem _ (inTime.ends crashed), inTime.elapsed, inTime.called, inTime.late⟩

theorem rejected_in_time {raw : Json} {line : Timeline σ} {halt : Halt} {deeds : List Deed}
    (refused : prepare raw options = .error halt) (spaced : Spaced (env.farewell []) deeds) :
    env.InTime raw options line deeds where
  ends crashed := by simp [execute, refused] at crashed
  elapsed := by
    have left := shutdown_now env line
    have least : env.timeout.toNat ≤ env.allowance deeds := Nat.le_mul_of_pos_left _ (Nat.succ_pos _)
    simp only [execute, refused]
    omega
  called := by
    rw [departs_called (farewell_departs spaced)]
    simp [operations, refused]
  late operation among := by simp [operations, refused] at among

theorem unprovided_in_time {raw : Json} {line : Timeline σ} {prepared : Prepared}
    (ready : prepare raw options = .ok prepared) (lacks : env.lacksProvider options prepared.plan = true) :
    env.InTime raw options line [] where
  ends crashed := by simp [execute, ready, lacks] at crashed
  elapsed := by
    simp only [execute, ready, lacks]
    exact Nat.le_add_right _ _
  called := by simp [operations, ready, lacks]
  late operation among := by simp [operations, ready, lacks] at among

theorem prepared_in_time {raw : Json} {line : Timeline σ} {prepared : Prepared}
    (ready : prepare raw options = .ok prepared) (provided : env.lacksProvider options prepared.plan = false)
    (journal : List Deed) :
    ∃ deeds, env.journalled.execute raw options (line.withJournal env.cancelled journal) =
        (env.execute raw options line).withJournal env.cancelled (journal ++ deeds) ∧
      env.InTime raw options line deeds := by
  obtain ⟨progress, events, run, deeds, last, walked, walks, same, ends⟩ :=
    prepared_journalled env journal ready provided
  have departs : Departs last := by
    rcases ends with ⟨-, rfl, -⟩ | ⟨spaced, -⟩
    · exact ⟨[], .nil, nofun⟩
    · exact farewell_departs spaced
  have outcome : (env.execute raw options line).outcome = .ofProgress prepared progress := by
    rcases ends with ⟨rfl, -, executed⟩ | ⟨-, executed⟩ <;> rw [executed]
    rfl
  have asks : (deeds ++ last).filterMap Deed.called? = deeds.filterMap Deed.called? := by
    rw [List.filterMap_append, departs_called departs, List.append_nil]
  have creates : (deeds ++ last).filterMap Deed.created? = deeds.filterMap Deed.created? := by
    rw [List.filterMap_append, departs_created departs, List.append_nil]
  have operated : env.operations raw options line =
      env.operationsFrom options 0 .empty prepared.plan.steps ⟨line, ∅⟩ := by
    simp [operations, ready, provided]
  refine ⟨deeds ++ last, same, fun crashed => ?_, ?_, ?_, fun operation among late uncut => ?_⟩
  · rw [outcome] at crashed
    have isCrash : progress = .crashed := by cases progress <;> first | rfl | cases crashed
    exact List.mem_append_left last (walks_crash walks isCrash)
  · have walkedFor := walks_elapsed walks
    rw [allowance, asks, creates, Nat.add_assoc, Nat.add_mul]
    rcases ends with ⟨-, -, executed⟩ | ⟨-, executed⟩
    · rw [executed]
      exact Nat.le_trans walkedFor (Nat.add_le_add_left (Nat.le_add_right _ _) _)
    · have torn := teardown_spent walks
      rw [executed]
      dsimp only at walkedFor ⊢
      omega
  · rw [asks, operated]
    exact walks_called walks
  · rw [operated] at among
    obtain ⟨offset, isIndex, isStep, halts⟩ :=
      walk_late ⟨options.traceId, prepared.plan.planId⟩ 0 .empty prepared.plan.steps among late uncut
    rw [walked] at halts
    rw [Nat.zero_add] at isIndex
    subst isIndex
    exact ⟨prepared, _, ready, isStep, outcome.trans (congrArg (Outcome.ofProgress prepared) halts), rfl, rfl, rfl⟩

end Spent

end Environment

-- However long the calls, the closes and the shutdown of a provider take, and whenever the run is cancelled, the run
-- ends in time, unless the applier crashes.
theorem stuck_provider_cannot_hang (env : Environment σ) (raw : Json) (options : Options) (line : Timeline σ) :
    ∃ journal,
      env.journalled.execute raw options (line.journalled env.cancelled) =
        (env.execute raw options line).withJournal env.cancelled journal ∧
      env.InTime raw options line journal := by
  obtain ⟨deeds, same, executes⟩ := env.execute_journalled (if env.cancelled line.world then [.cancel] else []) raw
    options line
  generalize (env.execute raw options line).outcome = outcome at executes
  cases executes with
  | rejected halt deeds refused spaced =>
      exact ⟨_, same, Environment.beforehand_in_time _ (Environment.rejected_in_time refused spaced)⟩
  | unprovided prepared halt ready lacks =>
      exact ⟨_, same, Environment.beforehand_in_time _ (Environment.unprovided_in_time ready lacks)⟩
  | crashed prepared run deeds ready provided walks =>
      obtain ⟨deeds, same, inTime⟩ := Environment.prepared_in_time ready provided _
      exact ⟨_, same, Environment.beforehand_in_time _ inTime⟩
  | ended prepared progress run deeds last ready provided walks spaced =>
      obtain ⟨deeds, same, inTime⟩ := Environment.prepared_in_time ready provided _
      exact ⟨_, same, Environment.beforehand_in_time _ inTime⟩

def silent : Environment Bool where
  apply := simulation
  provider := stuck.provider.map fun provider => { provider with
    call := fun sessionId asked cancelled =>
      if sessionId = "a" then (⟨none, fun cancelled => (.ok .done, cancelled)⟩, cancelled)
      else provider.call sessionId asked cancelled }
  timeout := 5
  cancelled cancelled := cancelled

theorem silent_session_times_out :
    let raw := threeSessions.toJson
    let options : Options := { mode := .live }
    let line : Timeline Bool := ⟨0, [], false⟩
    (silent.execute raw options line).world.now = 21 ∧
      ∃ operation ∈ silent.operations raw options line, operation.Late silent.timeout ∧
        operation.Uncut silent.cancelled silent.timeout ∧
        ∃ failure, (silent.execute raw options line).outcome = .halted ⟨failure, some 1⟩ ∧
          failure.code = .timeout ∧ failure.retryable = true := by
  intro raw options line
  obtain ⟨journal, -, inTime⟩ := stuck_provider_cannot_hang silent raw options line
  let second : Operation Bool := ⟨1, ⟨"second", .sandbox "a" (.click "#go")⟩, "a", .click "#go", ⟨1, [], false⟩,
    ⟨none, fun cancelled => (.ok .done, cancelled)⟩⟩
  have among : second ∈ silent.operations raw options line := List.mem_cons_of_mem _ List.mem_cons_self
  have late : second.Late silent.timeout := nofun
  have uncut : second.Uncut silent.cancelled silent.timeout := rfl
  obtain ⟨prepared, failure, -, -, halted, -, code, retryable⟩ := inTime.late second among late uncut
  exact ⟨rfl, second, among, late, uncut, failure, halted, code, retryable⟩

end PlanChain
