import PlanChain.Execution.Journal
import PlanChain.Proofs.Execution.World

/-! Keeping a journal changes nothing: the run goes as it would go without, and only adds to it
(`execute_journalled`). What it adds is told by relations that follow the run: alarms that ring, work that is
awaited, a session that is asked, a step that acts, a walk over steps, and the end of it all. -/

set_option autoImplicit false

namespace PlanChain

variable {σ α : Type}

inductive Rings (cancelled : σ → Bool) : List (Alarm σ) → σ → List Deed → List (Alarm σ) → σ → Prop where
  | none (alarms : List (Alarm σ)) (world : σ) : Rings cancelled alarms world [] alarms world
  | next (alarm : Alarm σ) (rest left : List (Alarm σ)) (world later : σ) (deeds : List Deed)
      (others : Rings cancelled rest (alarm.ring world) deeds left later) :
      Rings cancelled (alarm :: rest) world (Deed.moment cancelled world (alarm.ring world) ++ deeds) left later

inductive Awaits (cancelled cut : σ → Bool) (limit : Nat) (notes : α → List Deed) (pending : Pending σ α)
    (line : Timeline σ) : Awaited α → List Deed → Timeline σ → Prop where
  | cut (deeds : List Deed) (later : Timeline σ)
      (rung : Rings cancelled line.alarms line.world deeds later.alarms later.world)
      (isCut : cut later.world = true) : Awaits cancelled cut limit notes pending line .cut deeds later
  | expired (deeds : List Deed) (later : Timeline σ)
      (late : ∀ delay, pending.delay = some delay → limit < delay)
      (rung : Rings cancelled line.alarms line.world deeds later.alarms later.world)
      (uncut : 0 < limit ∨ cut line.world = false → cut later.world = false) :
      Awaits cancelled cut limit notes pending line .expired deeds later
  | answered (deeds : List Deed) (middle : Timeline σ) (value : α) (after : σ)
      (rung : Rings cancelled line.alarms line.world deeds middle.alarms middle.world)
      (uncut : pending.delay ≠ some 0 ∨ cut line.world = false → cut middle.world = false)
      (finished : pending.finish middle.world = (value, after)) :
      Awaits cancelled cut limit notes pending line (.answered value)
        (deeds ++ (notes value ++ Deed.moment cancelled middle.world after)) { middle with world := after }

-- Deeds each of which is followed by moments of cancellation, if anything.
inductive Spaced : List Deed → List Deed → Prop where
  | nil : Spaced [] []
  | cons (deed : Deed) (moments main rest : List Deed) (cancels : ∀ other ∈ moments, other = .cancel)
      (others : Spaced main rest) : Spaced (deed :: main) (deed :: (moments ++ rest))

namespace Environment

inductive Asks (env : Environment σ) (provider : Provider σ) (kind : StepKind) (sessionId : String)
    (call : SandboxCall) (line : Timeline σ) : Except StepError SandboxReply → List Deed → Timeline σ → Prop where
  | refused (isOver : env.cancelled line.world = true) :
      Asks env provider kind sessionId call line (.error .cancelled) [] line
  | cut (pending : Pending σ SandboxOutcome) (begun : σ) (deeds : List Deed) (later : Timeline σ)
      (going : env.cancelled line.world = false)
      (called : provider.call sessionId call line.world = (pending, begun))
      (rung : Rings env.cancelled line.alarms begun deeds later.alarms later.world)
      (isCut : env.cancelled later.world = true) :
      Asks env provider kind sessionId call line (.error .cancelled)
        (.call sessionId call :: (Deed.moment env.cancelled line.world begun ++ deeds)) later
  | expired (pending : Pending σ SandboxOutcome) (begun : σ) (deeds : List Deed) (later : Timeline σ)
      (going : env.cancelled line.world = false)
      (called : provider.call sessionId call line.world = (pending, begun))
      (late : ∀ delay, pending.delay = some delay → env.timeout.toNat < delay)
      (rung : Rings env.cancelled line.alarms begun deeds later.alarms later.world)
      (uncut : 0 < env.timeout.toNat ∨ env.cancelled begun = false → env.cancelled later.world = false) :
      Asks env provider kind sessionId call line (.error (.timeout kind env.timeout))
        (.call sessionId call :: (Deed.moment env.cancelled line.world begun ++ deeds)) later
  | answered (pending : Pending σ SandboxOutcome) (begun : σ) (deeds : List Deed) (middle : Timeline σ)
      (outcome : SandboxOutcome) (after : σ) (going : env.cancelled line.world = false)
      (called : provider.call sessionId call line.world = (pending, begun))
      (rung : Rings env.cancelled line.alarms begun deeds middle.alarms middle.world)
      (uncut : pending.delay ≠ some 0 ∨ env.cancelled begun = false → env.cancelled middle.world = false)
      (finished : pending.finish middle.world = (outcome, after)) :
      Asks env provider kind sessionId call line
        (outcome.mapError fun error => .sandbox kind error.code error.message)
        (.call sessionId call :: (Deed.moment env.cancelled line.world begun ++
          (deeds ++ (.answer sessionId outcome :: Deed.moment env.cancelled middle.world after))))
        { middle with world := after }

def creation (env : Environment σ) (provider : Provider σ) (traceId : Option String) (sessionId : String)
    (run : Underway σ) : List Deed :=
  if run.opened.contains sessionId then []
  else .create sessionId traceId ::
    Deed.moment env.cancelled run.line.world (provider.create sessionId traceId run.line.world)

inductive Acts (env : Environment σ) (options : Options) (state : State) (step : Step) (run : Underway σ) :
    Applied → List Deed → Underway σ → Prop where
  | refused (isOver : env.cancelled run.line.world = true) :
      Acts env options state step run (.error .cancelled) [] run
  | aside (result : Applied) (after : σ) (going : env.cancelled run.line.world = false)
      (outside : options.mode = .live → env.provider.isSome = true → step.action.isSandbox = false)
      (applied : env.apply state step run.line.world = (result, after)) :
      Acts env options state step run result
        (.apply state step :: (Deed.moment env.cancelled run.line.world after ++ [.applied result]))
        { run with line := { run.line with world := after } }
  | inSession (provider : Provider σ) (sessionId : String) (action : SandboxAction)
      (answer : Except StepError SandboxReply) (deeds : List Deed) (later : Timeline σ)
      (going : env.cancelled run.line.world = false) (mode : options.mode = .live)
      (provided : env.provider = some provider) (isAction : step.action = .sandbox sessionId action)
      (asks : env.Asks provider action.kind sessionId action.call
        (ensure provider options.traceId sessionId run).line answer deeds later) :
      Acts env options state step run
        (.ofExcept (answer.map fun reply => state.afterSandbox sessionId action (Text.nfc reply.text)))
        (env.creation provider options.traceId sessionId run ++ deeds)
        { ensure provider options.traceId sessionId run with line := later }

inductive Walks (env : Environment σ) (options : Options) :
    Nat → State → List Step → Underway σ → Progress → List Deed → Underway σ → Prop where
  | finished (index : Nat) (chain : Trace.Chain) (state : State) (run : Underway σ) :
      Walks env options index state [] run (.finished chain state) [] run
  | crashed (index : Nat) (state : State) (step : Step) (rest : List Step) (run later : Underway σ)
      (deeds : List Deed) (stepped : env.step options state step run = (.crash, later))
      (acts : env.Acts options state step run .crash deeds later) :
      Walks env options index state (step :: rest) run .crashed deeds later
  | halted (index : Nat) (state : State) (step : Step) (rest : List Step) (run later : Underway σ)
      (reason : StepError) (deeds : List Deed) (stepped : env.step options state step run = (.error reason, later))
      (acts : env.Acts options state step run (.error reason) deeds later) :
      Walks env options index state (step :: rest) run (.halted ⟨reason.toFailure, some index⟩) deeds later
  | moved (index : Nat) (state next : State) (step : Step) (rest : List Step) (run middle later : Underway σ)
      (progress : Progress) (deeds more : List Deed)
      (stepped : env.step options state step run = (.next next, middle))
      (acts : env.Acts options state step run (.next next) deeds middle)
      (others : Walks env options (index + 1) next rest middle progress more later) :
      Walks env options index state (step :: rest) run progress (deeds ++ more) later

def farewell (env : Environment σ) (opened : List String) : List Deed :=
  if env.provider.isSome then opened.map .close ++ [.shutdown] else []

inductive Executes (env : Environment σ) (raw : Json) (options : Options) (line : Timeline σ) :
    Outcome → List Deed → Prop where
  | rejected (halt : Halt) (deeds : List Deed) (refused : prepare raw options = .error halt)
      (last : Spaced (env.farewell []) deeds) : Executes env raw options line (.halted halt) deeds
  | unprovided (prepared : Prepared) (halt : Halt) (ready : prepare raw options = .ok prepared)
      (lacks : env.lacksProvider options prepared.plan = true) : Executes env raw options line (.halted halt) []
  | crashed (prepared : Prepared) (run : Underway σ) (deeds : List Deed)
      (ready : prepare raw options = .ok prepared) (provided : env.lacksProvider options prepared.plan = false)
      (walks : env.Walks options 0 .empty prepared.plan.steps ⟨line, ∅⟩ .crashed deeds run) :
      Executes env raw options line .crashed deeds
  | ended (prepared : Prepared) (progress : Progress) (run : Underway σ) (deeds last : List Deed)
      (ready : prepare raw options = .ok prepared) (provided : env.lacksProvider options prepared.plan = false)
      (walks : env.Walks options 0 .empty prepared.plan.steps ⟨line, ∅⟩ progress deeds run)
      (farewell : Spaced (env.farewell run.opened.keys) last) :
      Executes env raw options line (.ofProgress prepared progress) (deeds ++ last)

end Environment

section Rings

variable {cancelled : σ → Bool} {alarms left : List (Alarm σ)} {world later : σ} {deeds : List Deed}

theorem rings_keep (property : σ → Prop) (rings : Rings cancelled alarms world deeds left later)
    (keep : Alarm.AllKeep alarms property) (holds : property world) : property later := by
  induction rings with
  | none alarms world => exact holds
  | next alarm rest left world later deeds _ ih =>
      exact ih (fun other among => keep other (List.mem_cons_of_mem alarm among))
        (keep alarm List.mem_cons_self world holds)

theorem moment_cancels (before after : σ) : ∀ deed ∈ Deed.moment cancelled before after, deed = .cancel := by
  intro deed among
  unfold Deed.moment at among
  split at among
  · exact List.mem_singleton.mp among
  · cases among

theorem rings_cancels (rings : Rings cancelled alarms world deeds left later) : ∀ deed ∈ deeds, deed = .cancel := by
  induction rings with
  | none alarms world => exact nofun
  | next alarm rest left world later deeds _ ih =>
      intro deed among
      rcases List.mem_append.mp among with inMoment | inRest
      · exact moment_cancels _ _ deed inMoment
      · exact ih deed inRest

theorem moment_came {before after : σ} (going : cancelled before = false) (isOver : cancelled after = true) :
    Deed.moment cancelled before after = [.cancel] := by
  simp [Deed.moment, going, isOver]

-- If cancellation is not taken back, its moments come to one at most.
theorem moments_join {before middle after : σ} (first : cancelled before = true → cancelled middle = true)
    (second : cancelled middle = true → cancelled after = true) :
    Deed.moment cancelled before middle ++ Deed.moment cancelled middle after =
      Deed.moment cancelled before after := by
  unfold Deed.moment
  cases isBefore : cancelled before <;> cases isMiddle : cancelled middle <;> cases isAfter : cancelled after <;>
    simp_all

theorem rings_moment (rings : Rings cancelled alarms world deeds left later)
    (stays : Alarm.AllKeep alarms (cancelled · = true)) : deeds = Deed.moment cancelled world later := by
  induction rings with
  | none alarms world => simp [Deed.moment]
  | next alarm rest left world later deeds others ih =>
      have othersStay : Alarm.AllKeep rest (cancelled · = true) :=
        fun other among => stays other (List.mem_cons_of_mem alarm among)
      rw [ih othersStay]
      exact moments_join (stays alarm List.mem_cons_self world)
        (rings_keep (cancelled · = true) others othersStay)

end Rings

section Cancels

variable {moments : List Deed}

theorem cancels_filter_map {β : Type} (keep : Deed → Option β) (cancels : ∀ deed ∈ moments, deed = .cancel)
    (drops : keep .cancel = none) : moments.filterMap keep = [] :=
  List.filterMap_eq_nil_iff.mpr fun deed among => cancels deed among ▸ drops

theorem cancels_count (keep : Deed → Bool) (cancels : ∀ deed ∈ moments, deed = .cancel)
    (drops : keep .cancel = false) : moments.countP keep = 0 :=
  List.countP_eq_zero.mpr fun deed among => by simp [cancels deed among, drops]

end Cancels

namespace Timeline

variable (cancelled cut : σ → Bool) (journal : List Deed)

theorem ring_until_journalled (moment now : Nat) (alarms : List (Alarm σ)) (world : σ) :
    ∃ deeds, ringUntil (fun noted : Journalled σ => cut noted.world) moment now
        (alarms.map (·.journalled cancelled)) ⟨world, journal⟩ =
          ((ringUntil cut moment now alarms world).1,
            (ringUntil cut moment now alarms world).2.withJournal cancelled (journal ++ deeds)) ∧
      Rings cancelled alarms world deeds (ringUntil cut moment now alarms world).2.alarms
        (ringUntil cut moment now alarms world).2.world := by
  induction alarms generalizing now world journal with
  | nil => exact ⟨[], by simp [ringUntil, withJournal], .none [] world⟩
  | cons alarm rest ih =>
      by_cases early : moment < alarm.due
      · exact ⟨[], by simp [ringUntil, withJournal, Alarm.journalled, early],
          by simpa [ringUntil, early] using Rings.none (alarm :: rest) world⟩
      · have rung : ((alarm.journalled cancelled).ring ⟨world, journal⟩ : Journalled σ) =
            ⟨alarm.ring world, journal ++ Deed.moment cancelled world (alarm.ring world)⟩ := rfl
        have due : (alarm.journalled cancelled).due = alarm.due := rfl
        rw [List.map_cons, ringUntil, ringUntil, due, rung, if_neg early, if_neg early]
        cases isCut : cut (alarm.ring world) with
        | true =>
            refine ⟨Deed.moment cancelled world (alarm.ring world) ++ [], ?_,
              .next alarm rest rest world _ [] (.none rest _)⟩
            simp [withJournal]
        | false =>
            obtain ⟨deeds, same, others⟩ :=
              ih (journal ++ Deed.moment cancelled world (alarm.ring world)) (max now alarm.due) (alarm.ring world)
            refine ⟨Deed.moment cancelled world (alarm.ring world) ++ deeds, ?_,
              .next alarm rest _ world _ deeds others⟩
            simpa [isCut] using same

theorem ring_until_cut (moment now : Nat) (alarms : List (Alarm σ)) (world : σ) :
    ((ringUntil cut moment now alarms world).1 = true → cut (ringUntil cut moment now alarms world).2.world = true) ∧
      ((ringUntil cut moment now alarms world).1 = false → cut world = false →
        cut (ringUntil cut moment now alarms world).2.world = false) := by
  induction alarms generalizing now world with
  | nil => exact ⟨fun ended => (by cases ended), fun _ uncut => uncut⟩
  | cons alarm rest ih =>
      rw [ringUntil]
      split
      · exact ⟨fun ended => (by cases ended), fun _ uncut => uncut⟩
      · split
        · rename_i isCut
          exact ⟨fun _ => isCut, fun goes => by cases goes⟩
        · rename_i uncut
          obtain ⟨ends, goesOn⟩ := ih (max now alarm.due) (alarm.ring world)
          exact ⟨ends, fun isOver _ => goesOn isOver (Bool.not_eq_true _ ▸ uncut)⟩

theorem wait_journalled (line : Timeline σ) (milliseconds : Nat) :
    ∃ deeds, (line.withJournal cancelled journal).wait (fun noted => cut noted.world) milliseconds =
        ((line.wait cut milliseconds).1, (line.wait cut milliseconds).2.withJournal cancelled (journal ++ deeds)) ∧
      Rings cancelled line.alarms line.world deeds (line.wait cut milliseconds).2.alarms
        (line.wait cut milliseconds).2.world := by
  unfold wait
  split
  · exact ⟨[], by simp, .none line.alarms line.world⟩
  · cases isOver : cut line.world with
    | true =>
        refine ⟨[], ?_, .none line.alarms line.world⟩
        simp [withJournal, isOver]
    | false =>
        obtain ⟨deeds, same, rings⟩ := ring_until_journalled cancelled cut journal (line.now + milliseconds) line.now
          line.alarms line.world
        refine ⟨deeds, ?_, rings⟩
        simpa [withJournal, isOver] using same

theorem wait_cut (line : Timeline σ) (milliseconds : Nat) (isOver : (line.wait cut milliseconds).1 = true) :
    cut (line.wait cut milliseconds).2.world = true := by
  unfold wait at isOver ⊢
  split
  · simp_all
  · split
    · assumption
    · simp_all only [Bool.false_eq_true, if_false]
      exact (ring_until_cut cut _ _ _ _).1 isOver

theorem wait_uncut (line : Timeline σ) (milliseconds : Nat) (goes : (line.wait cut milliseconds).1 = false)
    (uncut : 0 < milliseconds ∨ cut line.world = false) : cut (line.wait cut milliseconds).2.world = false := by
  unfold wait at goes ⊢
  split
  · exact uncut.resolve_left (by omega)
  · rename_i positive
    rw [if_neg positive] at goes
    cases isOver : cut line.world with
    | true => simp [isOver] at goes
    | false =>
        simp only [isOver, Bool.false_eq_true, if_false] at goes ⊢
        exact (ring_until_cut cut _ _ _ _).2 goes isOver

theorem expire_journalled (limit : Nat) (notes : α → List Deed) (pending : Pending σ α) (line : Timeline σ)
    (late : ∀ delay, pending.delay = some delay → limit < delay) :
    ∃ deeds, (line.withJournal cancelled journal).expire (fun noted => cut noted.world) limit =
        ((line.expire cut limit : Awaited α × Timeline σ).1,
          (line.expire cut limit : Awaited α × Timeline σ).2.withJournal cancelled (journal ++ deeds)) ∧
      Awaits cancelled cut limit notes pending line (line.expire cut limit : Awaited α × Timeline σ).1 deeds
        (line.expire cut limit : Awaited α × Timeline σ).2 := by
  obtain ⟨deeds, same, rings⟩ := wait_journalled cancelled cut journal line limit
  have ends := wait_cut cut line limit
  have goesOn := wait_uncut cut line limit
  unfold expire
  rw [same]
  cases waited : line.wait cut limit with
  | mk isOver later =>
      rw [waited] at rings ends goesOn
      cases isOver with
      | true => exact ⟨deeds, rfl, .cut deeds later rings (ends rfl)⟩
      | false => exact ⟨deeds, rfl, .expired deeds later late rings (goesOn rfl)⟩

theorem await_journalled (limit : Nat) (notes : α → List Deed) (pending : Pending σ α) (line : Timeline σ) :
    ∃ deeds, (line.withJournal cancelled journal).await (fun noted => cut noted.world) limit
        (pending.journalled cancelled notes) =
          ((line.await cut limit pending).1,
            (line.await cut limit pending).2.withJournal cancelled (journal ++ deeds)) ∧
      Awaits cancelled cut limit notes pending line (line.await cut limit pending).1 deeds
        (line.await cut limit pending).2 := by
  have delays : (pending.journalled cancelled notes).delay = pending.delay := rfl
  unfold await
  rw [delays]
  cases length : pending.delay with
  | none => exact expire_journalled cancelled cut journal limit notes pending line (by simp [length])
  | some delay =>
      dsimp only
      by_cases late : limit < delay
      · rw [if_pos late, if_pos late]
        exact expire_journalled cancelled cut journal limit notes pending line (by simp [length, late])
      · rw [if_neg late, if_neg late]
        obtain ⟨deeds, same, rings⟩ := wait_journalled cancelled cut journal line delay
        have ends := wait_cut cut line delay
        have goesOn := wait_uncut cut line delay
        rw [same]
        cases waited : line.wait cut delay with
        | mk isOver later =>
            rw [waited] at rings ends goesOn
            cases isOver with
            | true => exact ⟨deeds, rfl, .cut deeds later rings (ends rfl)⟩
            | false =>
                have positive : pending.delay ≠ some 0 → 0 < delay := fun takesTime =>
                  Nat.pos_of_ne_zero fun zero => takesTime (by rw [length, zero])
                refine ⟨_, ?_, .answered deeds later _ _ rings (goesOn rfl ∘ Or.imp_left positive) rfl⟩
                simp [withJournal, Pending.journalled, Journalled.note]

end Timeline

theorem awaits_cancels {cancelled cut : σ → Bool} {limit : Nat} {notes : α → List Deed} {pending : Pending σ α}
    {line later : Timeline σ} {awaited : Awaited α} {deeds : List Deed}
    (awaits : Awaits cancelled cut limit notes pending line awaited deeds later)
    (silent : ∀ value, ∀ deed ∈ notes value, deed = .cancel) : ∀ deed ∈ deeds, deed = .cancel := by
  cases awaits with
  | cut _ _ rung isCut => exact rings_cancels rung
  | expired _ _ late rung uncut => exact rings_cancels rung
  | answered rang middle value after rung uncut finished =>
      intro deed among
      rcases List.mem_append.mp among with inRang | ended
      · exact rings_cancels rung deed inRang
      · rcases List.mem_append.mp ended with noted | inMoment
        · exact silent value deed noted
        · exact moment_cancels _ _ deed inMoment

section Spaced

theorem spaced_append {main rest deeds others : List Deed} (first : Spaced main deeds) (second : Spaced rest others) :
    Spaced (main ++ rest) (deeds ++ others) := by
  induction first with
  | nil => exact second
  | cons deed moments main rest cancels _ ih =>
      rw [List.cons_append, List.cons_append, List.append_assoc]
      exact .cons deed moments _ _ cancels ih

theorem spaced_one (deed : Deed) (moments : List Deed) (cancels : ∀ other ∈ moments, other = .cancel) :
    Spaced [deed] (deed :: moments) := by
  simpa using Spaced.cons deed moments [] [] cancels .nil

theorem spaced_among {main deeds : List Deed} (spaced : Spaced main deeds) :
    ∀ deed ∈ deeds, deed = .cancel ∨ deed ∈ main := by
  induction spaced with
  | nil => exact nofun
  | cons deed moments main rest cancels _ ih =>
      intro other among
      rcases List.mem_cons.mp among with rfl | among
      · exact Or.inr List.mem_cons_self
      · rcases List.mem_append.mp among with inMoments | inRest
        · exact Or.inl (cancels other inMoments)
        · exact (ih other inRest).imp_right (List.mem_cons_of_mem deed)

theorem spaced_filter {main deeds : List Deed} (spaced : Spaced main deeds)
    (provided : ∀ deed ∈ main, deed.ofProvider = true) : deeds.filter Deed.ofProvider = main := by
  induction spaced with
  | nil => rfl
  | cons deed moments main rest cancels _ ih =>
      have silent : moments.filter Deed.ofProvider = [] := by
        refine List.filter_eq_nil_iff.mpr fun other among => ?_
        rw [cancels other among]
        simp [Deed.ofProvider, Deed.isWork]
      rw [List.filter_cons_of_pos (provided deed List.mem_cons_self), List.filter_append, silent, List.nil_append,
        ih fun other among => provided other (List.mem_cons_of_mem deed among)]

def Departs (last : List Deed) : Prop :=
  ∃ main, Spaced main last ∧ ∀ deed ∈ main, deed = .shutdown ∨ ∃ sessionId, deed = .close sessionId

theorem departs_all {last : List Deed} (departs : Departs last) (property : Deed → Prop) (cancel : property .cancel)
    (shutdown : property .shutdown) (close : ∀ sessionId, property (.close sessionId)) :
    ∀ deed ∈ last, property deed := by
  obtain ⟨main, spaced, ends⟩ := departs
  intro deed among
  rcases spaced_among spaced deed among with rfl | isMain
  · exact cancel
  · rcases ends deed isMain with rfl | ⟨sessionId, rfl⟩
    · exact shutdown
    · exact close sessionId

theorem departs_head {last rest : List Deed} (departs : Departs last) : last ≠ .cancel :: rest := by
  obtain ⟨main, spaced, ends⟩ := departs
  rintro rfl
  cases spaced with
  | cons _ moments main others cancels spaced =>
      rcases ends .cancel List.mem_cons_self with isShutdown | ⟨sessionId, isClose⟩
      · cases isShutdown
      · cases isClose

end Spaced

namespace Environment

variable (env : Environment σ) (journal : List Deed)

theorem settle_journalled (deed : Deed) (start : σ → Pending σ Unit × σ) (line : Timeline σ) :
    ∃ moments, env.journalled.settle (Journalled.begin env.cancelled deed (fun _ => []) start)
        (line.withJournal env.cancelled journal) =
          (env.settle start line).withJournal env.cancelled (journal ++ deed :: moments) ∧
      ∀ other ∈ moments, other = .cancel := by
  cases begun : start line.world with
  | mk pending world =>
      obtain ⟨deeds, same, awaits⟩ := Timeline.await_journalled env.cancelled (fun _ => false)
        (journal ++ ([deed] ++ Deed.moment env.cancelled line.world world)) env.timeout.toNat (fun _ => []) pending
        { line with world }
      refine ⟨Deed.moment env.cancelled line.world world ++ deeds, ?_, ?_⟩
      · have settled := congrArg Prod.snd same
        simpa [settle, Timeline.settle, Journalled.begin, Journalled.note, Timeline.withJournal, begun,
          Environment.journalled] using settled
      · intro other among
        rcases List.mem_append.mp among with inMoment | inDeeds
        · exact moment_cancels _ _ other inMoment
        · exact awaits_cancels awaits (fun _ => nofun) other inDeeds

theorem shutdown_journalled (line : Timeline σ) :
    ∃ deeds, env.journalled.shutdown (line.withJournal env.cancelled journal) =
        (env.shutdown line).withJournal env.cancelled (journal ++ deeds) ∧ Spaced (env.farewell []) deeds := by
  unfold shutdown farewell
  cases provided : env.provider with
  | none => exact ⟨[], by simp [journalled, provided], by simpa using Spaced.nil⟩
  | some provider =>
      obtain ⟨moments, same, cancels⟩ := settle_journalled env journal .shutdown provider.shutdown line
      refine ⟨.shutdown :: moments, ?_, by simpa using spaced_one .shutdown moments cancels⟩
      simpa [journalled, provided, Provider.journalled] using same

theorem closes_journalled (provider : Provider σ) (opened : List String) (line : Timeline σ) :
    ∃ deeds, opened.foldl (fun line sessionId =>
        env.journalled.settle ((provider.journalled env.cancelled).close sessionId) line)
          (line.withJournal env.cancelled journal) =
        (opened.foldl (fun line sessionId => env.settle (provider.close sessionId) line) line).withJournal
          env.cancelled (journal ++ deeds) ∧
      Spaced (opened.map .close) deeds := by
  induction opened generalizing line journal with
  | nil => exact ⟨[], by simp, .nil⟩
  | cons sessionId rest ih =>
      obtain ⟨moments, same, cancels⟩ :=
        settle_journalled env journal (.close sessionId) (provider.close sessionId) line
      obtain ⟨deeds, others, spaced⟩ := ih (journal ++ .close sessionId :: moments)
        (env.settle (provider.close sessionId) line)
      refine ⟨.close sessionId :: (moments ++ deeds), ?_, .cons _ moments _ deeds cancels spaced⟩
      rw [List.foldl_cons, List.foldl_cons]
      simp only [Provider.journalled] at others ⊢
      rw [same, others]
      simp

theorem teardown_journalled (run : Underway σ) :
    ∃ deeds, env.journalled.teardown (run.withJournal env.cancelled journal) =
        (env.teardown run).withJournal env.cancelled (journal ++ deeds) ∧
      Spaced (env.farewell run.opened.keys) deeds := by
  unfold teardown
  cases provided : env.provider with
  | none =>
      exact ⟨[], by simp [journalled, provided, Underway.withJournal],
        by simpa [farewell, provided] using Spaced.nil⟩
  | some provider =>
      obtain ⟨closes, same, spaced⟩ := closes_journalled env journal provider run.opened.keys run.line
      obtain ⟨last, ended, spacedLast⟩ := shutdown_journalled env (journal ++ closes)
        (run.opened.keys.foldl (fun line sessionId => env.settle (provider.close sessionId) line) run.line)
      refine ⟨closes ++ last, ?_, ?_⟩
      · simp only [journalled, provided, Option.map_some, Underway.withJournal] at same ended ⊢
        rw [same, ended, List.append_assoc]
      · simpa [farewell, provided] using spaced_append spaced spacedLast

theorem ask_journalled (provider : Provider σ) (kind : StepKind) (sessionId : String) (call : SandboxCall)
    (line : Timeline σ) :
    ∃ deeds, env.journalled.ask (provider.journalled env.cancelled) kind sessionId call
        (line.withJournal env.cancelled journal) =
          ((env.ask provider kind sessionId call line).1,
            (env.ask provider kind sessionId call line).2.withJournal env.cancelled (journal ++ deeds)) ∧
      env.Asks provider kind sessionId call line (env.ask provider kind sessionId call line).1 deeds
        (env.ask provider kind sessionId call line).2 := by
  cases going : env.cancelled line.world with
  | true =>
      exact ⟨[], by simp [ask, journalled, Timeline.withJournal, going],
        by simpa [ask, going] using .refused going⟩
  | false =>
      cases called : provider.call sessionId call line.world with
      | mk pending begun =>
          obtain ⟨deeds, same, awaits⟩ := Timeline.await_journalled env.cancelled env.cancelled
            (journal ++ ([.call sessionId call] ++ Deed.moment env.cancelled line.world begun)) env.timeout.toNat
            (fun outcome => [.answer sessionId outcome]) pending { line with world := begun }
          have started : (provider.journalled env.cancelled).call sessionId call ⟨line.world, journal⟩ =
              (pending.journalled env.cancelled fun outcome => [.answer sessionId outcome],
                ⟨begun, journal ++ ([.call sessionId call] ++ Deed.moment env.cancelled line.world begun)⟩) := by
            simp [Provider.journalled, Journalled.begin, Journalled.note, called]
          simp only [Timeline.withJournal] at same
          simp only [ask, journalled, Timeline.withJournal, going, started, called, Bool.false_eq_true, if_false, same]
          cases awaited : ({ line with world := begun } : Timeline σ).await env.cancelled env.timeout.toNat pending with
          | mk answer later =>
              rw [awaited] at awaits
              dsimp only at awaits ⊢
              cases awaits with
              | cut _ _ rung isCut => exact ⟨_, by simp, .cut pending begun deeds later going called rung isCut⟩
              | expired _ _ late rung uncut =>
                  exact ⟨_, by simp, .expired pending begun deeds later going called late rung uncut⟩
              | answered rang middle outcome after rung uncut finished =>
                  cases outcome with
                  | error error =>
                      exact ⟨_, by simp, .answered pending begun rang middle (.error error) after going called rung
                        uncut finished⟩
                  | ok reply =>
                      exact ⟨_, by simp, .answered pending begun rang middle (.ok reply) after going called rung
                        uncut finished⟩

theorem ensure_journalled (provider : Provider σ) (traceId : Option String) (sessionId : String) (run : Underway σ) :
    ensure (provider.journalled env.cancelled) traceId sessionId (run.withJournal env.cancelled journal) =
      (ensure provider traceId sessionId run).withJournal env.cancelled
        (journal ++ env.creation provider traceId sessionId run) := by
  unfold ensure creation
  have same : (run.withJournal env.cancelled journal).opened = run.opened := rfl
  rw [same]
  cases run.opened.contains sessionId with
  | true => simp
  | false => simp [Underway.withJournal, Timeline.withJournal, Provider.journalled, Journalled.note]

variable (options : Options) (state : State) (step : Step) (run : Underway σ)

theorem session_journalled (provider : Provider σ) (sessionId : String) (action : SandboxAction)
    (going : env.cancelled run.line.world = false) (mode : options.mode = .live)
    (provided : env.provider = some provider) (isAction : step.action = .sandbox sessionId action) :
    ∃ deeds, env.journalled.applyInSession (provider.journalled env.cancelled) options.traceId state sessionId
        action (run.withJournal env.cancelled journal) =
          ((env.applyInSession provider options.traceId state sessionId action run).1,
            (env.applyInSession provider options.traceId state sessionId action run).2.withJournal env.cancelled
              (journal ++ deeds)) ∧
      env.Acts options state step run (env.applyInSession provider options.traceId state sessionId action run).1 deeds
        (env.applyInSession provider options.traceId state sessionId action run).2 := by
  obtain ⟨deeds, same, asks⟩ := ask_journalled env
    (journal ++ env.creation provider options.traceId sessionId run) provider action.kind sessionId action.call
    (ensure provider options.traceId sessionId run).line
  refine ⟨env.creation provider options.traceId sessionId run ++ deeds, ?_,
    .inSession provider sessionId action _ deeds _ going mode provided isAction asks⟩
  simp only [applyInSession, ensure_journalled]
  simp only [Underway.withJournal, same, List.append_assoc]

theorem aside_journalled (going : env.cancelled run.line.world = false)
    (outside : options.mode = .live → env.provider.isSome = true → step.action.isSandbox = false) :
    ∃ deeds, env.journalled.applyAside state step (run.withJournal env.cancelled journal) =
        ((env.applyAside state step run).1,
          (env.applyAside state step run).2.withJournal env.cancelled (journal ++ deeds)) ∧
      env.Acts options state step run (env.applyAside state step run).1 deeds (env.applyAside state step run).2 := by
  cases applied : env.apply state step run.line.world with
  | mk result after =>
      have aside : env.applyAside state step run =
          (result, { run with line := { run.line with world := after } }) := by
        simp [applyAside, applied]
      rw [aside]
      refine ⟨_, ?_, .aside result after going outside applied⟩
      simp [applyAside, journalled, Applier.journalled, Journalled.note, Underway.withJournal, Timeline.withJournal,
        applied]

theorem step_journalled :
    ∃ deeds, env.journalled.step options state step (run.withJournal env.cancelled journal) =
        ((env.step options state step run).1,
          (env.step options state step run).2.withJournal env.cancelled (journal ++ deeds)) ∧
      env.Acts options state step run (env.step options state step run).1 deeds
        (env.step options state step run).2 := by
  have noted : env.journalled.cancelled (run.withJournal env.cancelled journal).line.world =
      env.cancelled run.line.world := rfl
  unfold Environment.step
  rw [noted]
  cases going : env.cancelled run.line.world with
  | true => exact ⟨[], by simp, .refused going⟩
  | false =>
      cases mode : options.mode with
      | mock => exact aside_journalled env journal options state step run going (by simp [mode])
      | live =>
          cases isAction : step.action with
          | sandbox sessionId action =>
              cases provided : env.provider with
              | none =>
                  simpa [journalled, provided] using
                    aside_journalled env journal options state step run going (by simp [provided])
              | some provider =>
                  simpa [journalled, provided] using session_journalled env journal options state step run provider
                    sessionId action going mode provided isAction
          | _ => exact aside_journalled env journal options state step run going (by simp [isAction, Action.isSandbox])

theorem walk_journalled (options : Options) (reporter : Reporter) (index : Nat) (chain : Trace.Chain) (state : State)
    (steps : List Step) (run : Underway σ) :
    ∃ deeds, walk (env.journalled.step options) reporter index chain state steps
        (run.withJournal env.cancelled journal) =
          ⟨(walk (env.step options) reporter index chain state steps run).progress,
            (walk (env.step options) reporter index chain state steps run).events,
            (walk (env.step options) reporter index chain state steps run).world.withJournal env.cancelled
              (journal ++ deeds)⟩ ∧
      env.Walks options index state steps run (walk (env.step options) reporter index chain state steps run).progress
        deeds (walk (env.step options) reporter index chain state steps run).world := by
  induction steps generalizing index chain state run journal with
  | nil => exact ⟨[], by simp [walk], .finished index chain state run⟩
  | cons step rest ih =>
      obtain ⟨deeds, same, acts⟩ := step_journalled env journal options state step run
      rw [walk, walk, same]
      cases stepped : env.step options state step run with
      | mk result middle =>
          rw [stepped] at acts
          cases result with
          | crash => exact ⟨deeds, rfl, .crashed index state step rest run middle deeds stepped acts⟩
          | error reason => exact ⟨deeds, rfl, .halted index state step rest run middle reason deeds stepped acts⟩
          | next next =>
              obtain ⟨more, others, walks⟩ := ih (journal ++ deeds) (index + 1)
                (chain.record step state next state.fingerprint next.fingerprint) next middle
              refine ⟨deeds ++ more, ?_, .moved index state next step rest run middle _ _ deeds more stepped acts walks⟩
              dsimp only
              rw [others, List.append_assoc]

@[simp] theorem journalled_lacks (options : Options) (plan : Plan) :
    env.journalled.lacksProvider options plan = env.lacksProvider options plan := by
  cases provided : env.provider <;> simp [lacksProvider, journalled, provided]

theorem prepared_journalled {raw : Json} {options : Options} {prepared : Prepared} {line : Timeline σ}
    (ready : prepare raw options = .ok prepared) (provided : env.lacksProvider options prepared.plan = false) :
    ∃ progress events run deeds last,
      walk (env.step options) ⟨options.traceId, prepared.plan.planId⟩ 0 .empty .empty prepared.plan.steps ⟨line, ∅⟩ =
        ⟨progress, events, run⟩ ∧
      env.Walks options 0 .empty prepared.plan.steps ⟨line, ∅⟩ progress deeds run ∧
      env.journalled.execute raw options (line.withJournal env.cancelled journal) =
        (env.execute raw options line).withJournal env.cancelled (journal ++ (deeds ++ last)) ∧
      (progress = .crashed ∧ last = [] ∧ env.execute raw options line = ⟨.crashed, events, run.line⟩ ∨
        Spaced (env.farewell run.opened.keys) last ∧
          env.execute raw options line = ⟨.ofProgress prepared progress, events, env.teardown run⟩) := by
  obtain ⟨deeds, same, walks⟩ := walk_journalled env journal options ⟨options.traceId, prepared.plan.planId⟩ 0 .empty
    .empty prepared.plan.steps ⟨line, ∅⟩
  simp only [Underway.withJournal] at same
  unfold execute
  simp only [ready, journalled_lacks, provided, Bool.false_eq_true, if_false, same]
  cases walked : walk (env.step options) ⟨options.traceId, prepared.plan.planId⟩ 0 .empty .empty prepared.plan.steps
      ⟨line, ∅⟩ with
  | mk progress events run =>
      rw [walked] at walks
      obtain ⟨last, torn, spaced⟩ := teardown_journalled env (journal ++ deeds) run
      simp only [Underway.withJournal] at torn
      cases progress with
      | crashed =>
          exact ⟨.crashed, events, run, deeds, [], rfl, walks, by simp [Run.withJournal], Or.inl ⟨rfl, rfl, rfl⟩⟩
      | finished chain state =>
          exact ⟨_, events, run, deeds, last, rfl, walks, by simp [torn, Run.withJournal], Or.inr ⟨spaced, rfl⟩⟩
      | halted halt =>
          exact ⟨_, events, run, deeds, last, rfl, walks, by simp [torn, Run.withJournal], Or.inr ⟨spaced, rfl⟩⟩

theorem execute_journalled (raw : Json) (options : Options) (line : Timeline σ) :
    ∃ deeds, env.journalled.execute raw options (line.withJournal env.cancelled journal) =
        (env.execute raw options line).withJournal env.cancelled (journal ++ deeds) ∧
      env.Executes raw options line (env.execute raw options line).outcome deeds := by
  cases ready : prepare raw options with
  | error halt =>
      obtain ⟨deeds, same, spaced⟩ := shutdown_journalled env journal line
      unfold execute
      exact ⟨deeds, by simp [ready, same, Run.withJournal], by simpa [ready] using .rejected halt deeds ready spaced⟩
  | ok prepared =>
      cases provided : env.lacksProvider options prepared.plan with
      | true =>
          unfold execute
          exact ⟨[], by simp [ready, provided, Run.withJournal],
            by simpa [ready, provided] using .unprovided prepared _ ready provided⟩
      | false =>
          obtain ⟨progress, events, run, deeds, last, -, walks, same, ends⟩ :=
            prepared_journalled env journal ready provided
          refine ⟨deeds ++ last, same, ?_⟩
          rcases ends with ⟨rfl, rfl, executed⟩ | ⟨spaced, executed⟩
          · rw [executed, List.append_nil]
            exact .crashed prepared run deeds ready provided walks
          · rw [executed]
            exact .ended prepared progress run deeds last ready provided walks spaced

theorem ensure_alarms (provider : Provider σ) (traceId : Option String) (sessionId : String) (run : Underway σ) :
    (ensure provider traceId sessionId run).line.alarms = run.line.alarms := by
  unfold ensure
  split <;> rfl

theorem step_alarms (env : Environment σ) (options : Options) (state : State) (step : Step) {run : Underway σ}
    {alarms : List (Alarm σ)} (known : run.line.alarms ⊆ alarms) :
    (env.step options state step run).2.line.alarms ⊆ alarms := by
  have nothing : env.Keeps alarms fun _ => True :=
    ⟨fun _ _ _ _ => trivial, fun _ _ => ⟨fun _ _ _ _ => trivial, fun _ _ _ _ => ⟨trivial, fun _ _ => trivial⟩,
      fun _ _ _ => ⟨trivial, fun _ _ => trivial⟩, fun _ _ => ⟨trivial, fun _ _ => trivial⟩⟩, fun _ _ _ _ => trivial⟩
  exact (step_keeps nothing options state step run ⟨trivial, known⟩).pending

theorem farewell_leaves (env : Environment σ) (opened : List String) :
    ∀ deed ∈ env.farewell opened, deed = .shutdown ∨ ∃ sessionId, deed = .close sessionId := by
  intro deed among
  unfold farewell at among
  split at among
  · rcases List.mem_append.mp among with isClose | isShutdown
    · obtain ⟨sessionId, -, rfl⟩ := List.mem_map.mp isClose
      exact Or.inr ⟨sessionId, rfl⟩
    · exact Or.inl (List.mem_singleton.mp isShutdown)
  · cases among

theorem farewell_departs {env : Environment σ} {opened : List String} {last : List Deed}
    (spaced : Spaced (env.farewell opened) last) : Departs last := ⟨_, spaced, farewell_leaves env opened⟩

theorem farewell_of_provider (env : Environment σ) (opened : List String) :
    ∀ deed ∈ env.farewell opened, deed.ofProvider = true := by
  intro deed among
  rcases farewell_leaves env opened deed among with rfl | ⟨sessionId, rfl⟩ <;> rfl

theorem shutdown_idle {env : Environment σ} {deeds : List Deed} (spaced : Spaced (env.farewell []) deeds) :
    ∀ deed ∈ deeds, deed = .shutdown ∨ deed = .cancel := by
  intro deed among
  rcases spaced_among spaced deed among with isCancel | isMain
  · exact Or.inr isCancel
  · unfold farewell at isMain
    split at isMain
    · exact Or.inl (List.mem_singleton.mp isMain)
    · cases isMain

theorem executes_walked {env : Environment σ} {raw : Json} {options : Options} {prepared : Prepared}
    {line : Timeline σ} {outcome : Outcome} {deeds : List Deed} (ready : prepare raw options = .ok prepared)
    (provided : env.lacksProvider options prepared.plan = false)
    (executes : env.Executes raw options line outcome deeds) :
    ∃ progress walked run last, outcome = .ofProgress prepared progress ∧ deeds = walked ++ last ∧
      env.Walks options 0 .empty prepared.plan.steps ⟨line, ∅⟩ progress walked run ∧ Departs last := by
  cases executes with
  | rejected halt deeds refused last =>
      rw [ready] at refused
      cases refused
  | unprovided other halt isOther lacks =>
      rw [ready] at isOther
      cases isOther
      rw [provided] at lacks
      cases lacks
  | crashed other run deeds isOther _ walks =>
      rw [ready] at isOther
      cases isOther
      exact ⟨.crashed, deeds, run, [], rfl, (List.append_nil deeds).symm, walks, [], .nil, nofun⟩
  | ended other progress run walked last isOther _ walks farewell =>
      rw [ready] at isOther
      cases isOther
      exact ⟨progress, walked, run, last, rfl, rfl, walks, farewell_departs farewell⟩

section Kept

variable {env : Environment σ} {β : Type} (keep : Deed → Option β) (drops : keep .cancel = none)

include drops

theorem moment_kept (before after : σ) : ∀ deed ∈ Deed.moment env.cancelled before after, keep deed = none :=
  fun deed among => moment_cancels before after deed among ▸ drops

theorem rings_kept {alarms left : List (Alarm σ)} {world later : σ} {deeds : List Deed}
    (rings : Rings env.cancelled alarms world deeds left later) : ∀ deed ∈ deeds, keep deed = none :=
  fun deed among => rings_cancels rings deed among ▸ drops

omit drops in
theorem head_kept (deed : Deed) {rest : List Deed} (silent : ∀ other ∈ rest, keep other = none) :
    (deed :: rest).filterMap keep = (keep deed).toList := by
  rw [List.filterMap_cons, List.filterMap_eq_nil_iff.mpr silent]
  cases keep deed <;> rfl

theorem asks_kept (answers : ∀ sessionId outcome, keep (.answer sessionId outcome) = none) {provider : Provider σ}
    {kind : StepKind} {sessionId : String} {call : SandboxCall} {line after : Timeline σ}
    {answer : Except StepError SandboxReply} {deeds : List Deed}
    (asks : env.Asks provider kind sessionId call line answer deeds after) :
    env.cancelled line.world = true ∧ answer = .error .cancelled ∧ deeds = [] ∧ after = line ∨
      env.cancelled line.world = false ∧ deeds.filterMap keep = (keep (.call sessionId call)).toList := by
  cases asks with
  | refused isOver => exact Or.inl ⟨isOver, rfl, rfl, rfl⟩
  | cut pending begun rang _ going called rung isCut =>
      refine Or.inr ⟨going, head_kept keep _ (List.forall_mem_append.mpr ⟨moment_kept keep drops _ _, ?_⟩)⟩
      exact rings_kept keep drops rung
  | expired pending begun rang _ going called late rung uncut =>
      refine Or.inr ⟨going, head_kept keep _ (List.forall_mem_append.mpr ⟨moment_kept keep drops _ _, ?_⟩)⟩
      exact rings_kept keep drops rung
  | answered pending begun rang middle outcome world going called rung uncut finished =>
      refine Or.inr ⟨going, head_kept keep _ (List.forall_mem_append.mpr ⟨moment_kept keep drops _ _, ?_⟩)⟩
      exact List.forall_mem_append.mpr ⟨rings_kept keep drops rung,
        List.forall_mem_cons.mpr ⟨answers sessionId outcome, moment_kept keep drops _ _⟩⟩

theorem creation_kept (creates : ∀ sessionId traceId, keep (.create sessionId traceId) = none) (provider : Provider σ)
    (traceId : Option String) (sessionId : String) (run : Underway σ) :
    (env.creation provider traceId sessionId run).filterMap keep = [] := by
  refine List.filterMap_eq_nil_iff.mpr ?_
  unfold creation
  split
  · exact nofun
  · exact List.forall_mem_cons.mpr ⟨creates sessionId traceId, moment_kept keep drops _ _⟩

end Kept

theorem acts_refused {env : Environment σ} {options : Options} {state : State} {step : Step} {run later : Underway σ}
    {deeds : List Deed} {result : Applied} (isOver : env.cancelled run.line.world = true)
    (acts : env.Acts options state step run result deeds later) : deeds = [] ∧ later = run := by
  cases acts with
  | refused isOver => exact ⟨rfl, rfl⟩
  | aside _ after going outside applied =>
      rw [going] at isOver
      cases isOver
  | inSession provider sessionId action answer asked after going mode provided isAction asks =>
      rw [going] at isOver
      cases isOver

end Environment

end PlanChain
