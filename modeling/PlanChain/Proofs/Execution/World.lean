import PlanChain.Execution.Live

set_option autoImplicit false

namespace PlanChain

variable {σ α : Type}

def Applier.Keeps (apply : Applier σ) (property : σ → Prop) : Prop :=
  ∀ state step world, property world → property (apply state step world).2

theorem walk_keeps (apply : Applier σ) (property : σ → Prop) (keeps : apply.Keeps property)
    (reporter : Reporter) (stepIndex : Nat) (chain : Trace.Chain) (state : State) (steps : List Step)
    (world : σ) (holds : property world) :
    property (walk apply reporter stepIndex chain state steps world).world := by
  induction steps generalizing stepIndex chain state world with
  | nil => exact holds
  | cons step rest ih =>
      have after := keeps state step world holds
      simp only [walk]
      cases applied : apply state step world with
      | mk result next =>
          rw [applied] at after
          cases result with
          | crash => exact after
          | error reason => exact after
          | next following => exact ih _ _ _ next after

theorem execute_keeps (apply : Applier σ) (property : σ → Prop) (keeps : apply.Keeps property) (raw : Json)
    (options : Options) (world : σ) (holds : property world) :
    property (execute apply raw options world).world := by
  unfold execute
  cases prepared : prepare raw options with
  | error halt => exact holds
  | ok found => exact walk_keeps apply property keeps _ _ _ _ _ _ holds

def Begins (property : σ → Prop) (start : σ → Pending σ α × σ) : Prop :=
  ∀ world, property world → property (start world).2 ∧
    ∀ later, property later → property ((start world).1.finish later).2

structure Provider.Keeps (provider : Provider σ) (property : σ → Prop) : Prop where
  create : ∀ sessionId traceId world, property world → property (provider.create sessionId traceId world)
  call : ∀ sessionId call, Begins property (provider.call sessionId call)
  close : ∀ sessionId, Begins property (provider.close sessionId)
  shutdown : Begins property provider.shutdown

def Alarm.AllKeep (alarms : List (Alarm σ)) (property : σ → Prop) : Prop :=
  ∀ alarm ∈ alarms, ∀ world, property world → property (alarm.ring world)

namespace Timeline

structure Kept (property : σ → Prop) (alarms : List (Alarm σ)) (line : Timeline σ) : Prop where
  world : property line.world
  pending : line.alarms ⊆ alarms

variable {property : σ → Prop} {alarms : List (Alarm σ)}

-- At the beginning an alarm may be put off, but it rings as it was set.
theorem start_all_keep (keeps : Alarm.AllKeep alarms property) (world : σ) :
    Alarm.AllKeep (start alarms world).alarms property := by
  intro alarm among
  simp only [start, List.mem_mergeSort, List.mem_map] at among
  obtain ⟨original, isOriginal, rfl⟩ := among
  exact keeps original isOriginal

theorem ring_until_kept (keeps : Alarm.AllKeep alarms property) (cut : σ → Bool) (moment now : Nat)
    (pending : List (Alarm σ)) (world : σ) (kept : Kept property alarms ⟨now, pending, world⟩) :
    Kept property alarms (ringUntil cut moment now pending world).2 := by
  induction pending generalizing now world with
  | nil => exact ⟨kept.world, kept.pending⟩
  | cons alarm rest ih =>
      have among : alarm ∈ alarms := kept.pending List.mem_cons_self
      have others : rest ⊆ alarms := fun other isOther => kept.pending (List.mem_cons_of_mem alarm isOther)
      have rung : property (alarm.ring world) := keeps alarm among world kept.world
      rw [ringUntil]
      split
      · exact ⟨kept.world, kept.pending⟩
      · split
        · exact ⟨rung, others⟩
        · exact ih _ _ ⟨rung, others⟩

theorem give_way_kept (keeps : Alarm.AllKeep alarms property) (line : Timeline σ)
    (kept : line.Kept property alarms) : line.giveWay.Kept property alarms :=
  ring_until_kept keeps _ _ _ _ _ ⟨kept.world, kept.pending⟩

theorem wait_kept (keeps : Alarm.AllKeep alarms property) (line : Timeline σ) (cut : σ → Bool)
    (milliseconds : Nat) (kept : line.Kept property alarms) :
    (line.wait cut milliseconds).2.Kept property alarms := by
  unfold wait
  split
  · exact kept
  · split
    · exact kept
    · exact ring_until_kept keeps _ _ _ _ _ ⟨kept.world, kept.pending⟩

theorem expire_kept (keeps : Alarm.AllKeep alarms property) (line : Timeline σ) (cut : σ → Bool)
    (limit : Nat) (kept : line.Kept property alarms) :
    (line.expire cut limit : Awaited α × Timeline σ).2.Kept property alarms := by
  have waited := wait_kept keeps line cut limit kept
  unfold expire
  cases expired : line.wait cut limit with
  | mk isCut after =>
      rw [expired] at waited
      cases isCut <;> exact waited

theorem await_kept (keeps : Alarm.AllKeep alarms property) (line : Timeline σ) (cut : σ → Bool)
    (limit : Nat) (pending : Pending σ α) (kept : line.Kept property alarms)
    (finish : ∀ world, property world → property (pending.finish world).2) :
    (line.await cut limit pending).2.Kept property alarms := by
  unfold await
  cases pending.delay with
  | none => exact expire_kept keeps line cut limit kept
  | some delay =>
      dsimp only
      split
      · exact expire_kept keeps line cut limit kept
      · have waited := wait_kept keeps line cut delay kept
        cases awaited : line.wait cut delay with
        | mk isCut after =>
            rw [awaited] at waited
            cases isCut with
            | true => exact waited
            | false => exact ⟨finish _ waited.world, waited.pending⟩

end Timeline

namespace Environment

variable {property : σ → Prop} {alarms : List (Alarm σ)} {env : Environment σ}

structure Keeps (env : Environment σ) (alarms : List (Alarm σ)) (property : σ → Prop) : Prop where
  apply : env.apply.Keeps property
  provider : ∀ provider, env.provider = some provider → provider.Keeps property
  alarms : Alarm.AllKeep alarms property

theorem settle_kept (keeps : env.Keeps alarms property) (start : σ → Pending σ Unit × σ)
    (begins : Begins property start) (line : Timeline σ) (kept : line.Kept property alarms) :
    (env.settle start line).Kept property alarms := by
  obtain ⟨begun, finish⟩ := begins line.world kept.world
  exact Timeline.await_kept keeps.alarms _ _ _ _ ⟨begun, kept.pending⟩ finish

theorem shutdown_kept (keeps : env.Keeps alarms property) (line : Timeline σ)
    (kept : line.Kept property alarms) : (env.shutdown line).Kept property alarms := by
  unfold shutdown
  cases present : env.provider with
  | none => exact kept
  | some provider => exact settle_kept keeps _ (keeps.provider provider present).shutdown line kept

theorem teardown_kept (keeps : env.Keeps alarms property) (run : Underway σ)
    (kept : run.line.Kept property alarms) : (env.teardown run).Kept property alarms := by
  unfold teardown
  cases present : env.provider with
  | none => exact kept
  | some provider =>
      apply shutdown_kept keeps
      generalize run.line = line at kept
      induction run.opened.keys generalizing line with
      | nil => exact kept
      | cons sessionId rest ih =>
          exact ih _ (settle_kept keeps _ ((keeps.provider provider present).close sessionId) line kept)

theorem ask_kept (keeps : env.Keeps alarms property) (provider : Provider σ)
    (provided : provider.Keeps property) (kind : StepKind) (sessionId : String) (call : SandboxCall)
    (line : Timeline σ) (kept : line.Kept property alarms) :
    (env.ask provider kind sessionId call line).2.Kept property alarms := by
  obtain ⟨begun, finish⟩ := provided.call sessionId call line.world kept.world
  have awaited := Timeline.await_kept keeps.alarms
    { line with world := (provider.call sessionId call line.world).2 } env.cancelled env.timeout.toNat
    (provider.call sessionId call line.world).1 ⟨begun, kept.pending⟩ finish
  unfold ask
  split
  · exact kept
  · dsimp only
    split <;> simp_all

theorem step_keeps (keeps : env.Keeps alarms property) (options : Options) :
    Applier.Keeps (env.step options) fun run => run.line.Kept property alarms := by
  intro state step run kept
  have aside : (env.applyAside state step run).2.line.Kept property alarms :=
    ⟨keeps.apply state step run.line.world kept.world, kept.pending⟩
  unfold Environment.step
  split
  · exact kept
  · split
    · rename_i sessionId action provider isLive isSandbox present
      have provided := keeps.provider provider present
      have ensured : (ensure provider options.traceId sessionId run).line.Kept property alarms := by
        unfold ensure
        split
        · exact kept
        · exact ⟨provided.create sessionId _ _ kept.world, kept.pending⟩
      exact ask_kept keeps provider provided action.kind sessionId action.call _ ensured
    · exact aside

theorem execute_kept (keeps : env.Keeps alarms property) (raw : Json) (options : Options)
    (line : Timeline σ) (kept : line.Kept property alarms) :
    (env.execute raw options line).world.Kept property alarms := by
  unfold Environment.execute
  cases prepared : prepare raw options with
  | error halt => exact shutdown_kept keeps line kept
  | ok found =>
      dsimp only
      split
      · exact kept
      · have walked := walk_keeps (env.step options) _ (step_keeps keeps options)
          ⟨options.traceId, found.plan.planId⟩ 0 .empty .empty found.plan.steps ⟨line, ∅⟩ kept
        dsimp only
        split
        · exact walked
        · exact teardown_kept keeps _ walked

end Environment

end PlanChain
