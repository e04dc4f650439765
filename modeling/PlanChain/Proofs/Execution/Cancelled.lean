import PlanChain.Plan.Wire
import PlanChain.Proofs.Execution.Journal
import PlanChain.Proofs.Execution.Prepare

set_option autoImplicit false

namespace PlanChain

variable {σ : Type}

def Outcome.CancelledAt (outcome : Outcome) (count : Nat) : Prop :=
  ∃ failure, outcome = .halted ⟨failure, some count⟩ ∧ failure.code = .runCancelled ∧ failure.retryable = false

def Deed.Idle (deed : Deed) : Prop := deed.begins = false ∧ deed.created? = none

namespace Environment

-- Cancellation is never taken back.
structure Latches (env : Environment σ) (alarms : List (Alarm σ)) : Prop where
  apply : env.apply.Keeps (env.cancelled · = true)
  create : ∀ provider ∈ env.provider, ∀ sessionId traceId world, env.cancelled world = true →
    env.cancelled (provider.create sessionId traceId world) = true
  call : ∀ provider ∈ env.provider, ∀ sessionId asked world,
    (env.cancelled world = true → env.cancelled (provider.call sessionId asked world).2 = true) ∧
      ∀ later, env.cancelled later = true →
        env.cancelled ((provider.call sessionId asked world).1.finish later).2 = true
  alarms : Alarm.AllKeep alarms (env.cancelled · = true)

-- A call that, where it cancels the run itself as it begins, takes some time and is given some.
def Lingers (env : Environment σ) (sessionId : String) (asked : SandboxCall) : Prop :=
  ∀ provider ∈ env.provider, ∀ world, env.cancelled world = false →
    env.cancelled (provider.call sessionId asked world).2 = true →
      (provider.call sessionId asked world).1.delay ≠ some 0 ∧ 0 < env.timeout.toNat

-- What is noted before and after the moment of cancellation, when it comes while something is done: what follows is
-- idle; a call that was pending then is cut short; and if a step was being applied, something is known of what was
-- made of it.
structure Struck (env : Environment σ) (before after : List Deed) (cut : Prop) (made : Applied → Prop) : Prop where
  idle : ∀ deed ∈ after, deed.Idle
  begun : before ≠ []
  pending : ∀ sessionId asked, before.getLast? = some (.call sessionId asked) → env.Lingers sessionId asked → cut
  within : ∀ state step, before.getLast? = some (.apply state step) →
    ∃ result, after.head? = some (.applied result) ∧ made result

end Environment

section Moments

variable {cancelled : σ → Bool} {before after : σ}

theorem moment_struck {earlier later : List Deed}
    (struck : Deed.moment cancelled before after = earlier ++ .cancel :: later) :
    earlier = [] ∧ later = [] ∧ cancelled after = true := by
  unfold Deed.moment at struck
  split at struck
  · rename_i came
    obtain ⟨isEarlier, isLater⟩ := List.singleton_eq_append_iff.mp struck |>.resolve_right (by simp)
    simp_all
  · simp at struck

theorem cancels_idle {moments : List Deed} (cancels : ∀ deed ∈ moments, deed = .cancel) :
    ∀ deed ∈ moments, deed.Idle := by
  intro deed among
  rw [cancels deed among]
  exact ⟨rfl, rfl⟩

@[simp] theorem moment_begins : (Deed.moment cancelled before after).countP Deed.begins = 0 :=
  cancels_count Deed.begins (moment_cancels before after) rfl

@[simp] theorem moment_moves : (Deed.moment cancelled before after).countP Deed.moves = 0 :=
  cancels_count Deed.moves (moment_cancels before after) rfl

end Moments

section Cuts

variable {α : Type}

theorem append_cuts {first rest before after : List α} {mark : α} (cut : first ++ rest = before ++ mark :: after) :
    (∃ later, first = before ++ mark :: later ∧ after = later ++ rest) ∨
      ∃ earlier, before = first ++ earlier ∧ rest = earlier ++ mark :: after := by
  rcases List.append_eq_append_iff.mp cut with ⟨earlier, isBefore, isRest⟩ | ⟨later, isFirst, isAfter⟩
  · exact Or.inr ⟨earlier, isBefore, isRest⟩
  · cases later with
    | nil => exact Or.inr ⟨[], by simpa using isFirst.symm, isAfter.symm⟩
    | cons head later =>
        cases isAfter
        exact Or.inl ⟨later, isFirst, rfl⟩

theorem cons_cuts {head mark : α} {rest before after : List α} (cut : head :: rest = before ++ mark :: after)
    (other : head ≠ mark) :
    ∃ earlier, before = head :: earlier ∧ rest = earlier ++ mark :: after := by
  cases before with
  | nil =>
      cases cut
      exact absurd rfl other
  | cons first earlier =>
      cases cut
      exact ⟨earlier, rfl, rfl⟩

end Cuts

namespace Environment

variable {env : Environment σ} {alarms : List (Alarm σ)} {before after deeds : List Deed}

section Struck

variable {cut cut' : Prop} {made made' : Applied → Prop}

theorem Struck.weaken (struck : env.Struck before after cut made) (cuts : cut → cut')
    (makes : ∀ result, made result → made' result) : env.Struck before after cut' made' where
  idle := struck.idle
  begun := struck.begun
  pending sessionId asked isLast lingers := cuts (struck.pending sessionId asked isLast lingers)
  within state step isLast := by
    obtain ⟨result, first, settled⟩ := struck.within state step isLast
    exact ⟨result, first, makes result settled⟩

theorem Struck.later (struck : env.Struck before after cut made) (first : List Deed) :
    env.Struck (first ++ before) after cut made := by
  have last : (first ++ before).getLast? = before.getLast? := List.getLast?_append_of_ne_nil first struck.begun
  refine ⟨struck.idle, by simp [struck.begun], ?_, ?_⟩
  · rw [last]
    exact struck.pending
  · rw [last]
    exact struck.within

end Struck

theorem Latches.rings (latches : env.Latches alarms) {pending left : List (Alarm σ)} (known : pending ⊆ alarms)
    {world later : σ} (rung : Rings env.cancelled pending world deeds left later) :
    deeds = Deed.moment env.cancelled world later ∧
      (env.cancelled world = true → env.cancelled later = true) := by
  have stays : Alarm.AllKeep pending (env.cancelled · = true) := fun alarm among => latches.alarms alarm (known among)
  exact ⟨rings_moment rung stays, rings_keep (env.cancelled · = true) rung stays⟩

section Asks

variable {provider : Provider σ} {kind : StepKind} {sessionId : String} {asked : SandboxCall}
  {line later : Timeline σ} {answer : Except StepError SandboxReply}

theorem asks_over (isOver : env.cancelled line.world = true)
    (asks : env.Asks provider kind sessionId asked line answer deeds later) : deeds = [] ∧ later = line := by
  cases asks with
  | refused _ => exact ⟨rfl, rfl⟩
  | cut _ _ _ _ going _ _ _ => simp [going] at isOver
  | expired _ _ _ _ going _ _ _ _ => simp [going] at isOver
  | answered _ _ _ _ _ _ going _ _ _ _ => simp [going] at isOver

theorem Latches.waits (latches : env.Latches alarms) (provided : env.provider = some provider)
    (known : line.alarms ⊆ alarms) {pending : Pending σ SandboxOutcome} {begun last : σ} {left : List (Alarm σ)}
    {rang : List Deed} (called : provider.call sessionId asked line.world = (pending, begun))
    (rung : Rings env.cancelled line.alarms begun rang left last) :
    Deed.moment env.cancelled line.world begun ++ rang = Deed.moment env.cancelled line.world last := by
  obtain ⟨starts, -⟩ := latches.call provider provided sessionId asked line.world
  rw [called] at starts
  obtain ⟨rfl, stays⟩ := latches.rings known rung
  exact moments_join starts stays

theorem lingering_going (provided : env.provider = some provider) (going : env.cancelled line.world = false)
    {pending : Pending σ SandboxOutcome} {begun : σ} (lingers : env.Lingers sessionId asked)
    (called : provider.call sessionId asked line.world = (pending, begun)) :
    (pending.delay ≠ some 0 ∧ 0 < env.timeout.toNat) ∨ env.cancelled begun = false := by
  have takesTime := lingers provider provided line.world going
  rw [called] at takesTime
  cases isOver : env.cancelled begun with
  | false => exact Or.inr rfl
  | true => exact Or.inl (takesTime isOver)

theorem asks_struck (latches : env.Latches alarms) (provided : env.provider = some provider)
    (known : line.alarms ⊆ alarms) (asks : env.Asks provider kind sessionId asked line answer deeds later)
    (struck : deeds = before ++ .cancel :: after) :
    env.cancelled later.world = true ∧ env.Struck before after (answer = .error .cancelled) fun _ => False := by
  cases asks with
  | refused _ => simp at struck
  | cut pending begun rang _ going called rung isCut =>
      rw [latches.waits provided known called rung] at struck
      obtain ⟨earlier, rfl, inMoment⟩ := cons_cuts struck nofun
      obtain ⟨rfl, rfl, -⟩ := moment_struck inMoment
      exact ⟨isCut, nofun, nofun, fun _ _ _ _ => rfl, nofun⟩
  | expired pending begun rang _ going called late rung uncut =>
      rw [latches.waits provided known called rung] at struck
      obtain ⟨earlier, rfl, inMoment⟩ := cons_cuts struck nofun
      obtain ⟨rfl, rfl, isOver⟩ := moment_struck inMoment
      refine ⟨isOver, nofun, nofun, fun _ _ isLast lingers => ?_, nofun⟩
      cases isLast
      rw [uncut ((lingering_going provided going lingers called).imp_left And.right)] at isOver
      cases isOver
  | answered pending begun rang middle outcome world going called rung uncut finished =>
      rw [← List.append_assoc, latches.waits provided known called rung] at struck
      obtain ⟨earlier, rfl, inRest⟩ := cons_cuts struck nofun
      rcases append_cuts inRest with ⟨rest, inMoment, rfl⟩ | ⟨rest, rfl, inAnswer⟩
      · -- The call is answered all the same only if it cancelled the run as it began and took no time.
        obtain ⟨rfl, rfl, isOver⟩ := moment_struck inMoment
        have ends := (latches.call provider provided sessionId asked line.world).2 middle.world isOver
        rw [called, finished] at ends
        refine ⟨ends, ?_, nofun, fun _ _ isLast lingers => ?_, nofun⟩
        · simp only [List.nil_append, List.forall_mem_cons]
          exact ⟨⟨rfl, rfl⟩, cancels_idle (moment_cancels _ _)⟩
        · cases isLast
          rw [uncut ((lingering_going provided going lingers called).imp_left And.left)] at isOver
          cases isOver
      · obtain ⟨rest, rfl, inMoment⟩ := cons_cuts inAnswer nofun
        obtain ⟨rfl, rfl, isOver⟩ := moment_struck inMoment
        have last : (Deed.call sessionId asked :: (Deed.moment env.cancelled line.world middle.world ++
            [.answer sessionId outcome])).getLast? = some (.answer sessionId outcome) := by
          rw [← List.cons_append, List.getLast?_concat]
        refine ⟨isOver, nofun, nofun, fun _ _ isLast => ?_, fun _ _ isLast => ?_⟩
        · rw [last] at isLast
          cases isLast
        · rw [last] at isLast
          cases isLast

theorem asks_count (asks : env.Asks provider kind sessionId asked line answer deeds later) :
    (∀ reply, answer = .ok reply → deeds.countP Deed.begins = 1 ∧ deeds.countP Deed.moves = 1) ∧
      ∀ reason, answer = .error reason → deeds.countP Deed.moves = 0 := by
  cases asks with
  | refused _ => exact ⟨nofun, fun _ _ => rfl⟩
  | cut pending begun rang _ going called rung isCut =>
      refine ⟨nofun, fun _ _ => ?_⟩
      simp [cancels_count Deed.moves (rings_cancels rung) rfl, Deed.moves]
  | expired pending begun rang _ going called late rung uncut =>
      refine ⟨nofun, fun _ _ => ?_⟩
      simp [cancels_count Deed.moves (rings_cancels rung) rfl, Deed.moves]
  | answered pending begun rang middle outcome world going called rung uncut finished =>
      have rangBegins : rang.countP Deed.begins = 0 := cancels_count Deed.begins (rings_cancels rung) rfl
      have rangMoves : rang.countP Deed.moves = 0 := cancels_count Deed.moves (rings_cancels rung) rfl
      cases outcome with
      | error error =>
          refine ⟨nofun, fun _ _ => ?_⟩
          simp [rangMoves, Deed.moves]
      | ok reply =>
          refine ⟨fun _ _ => ?_, nofun⟩
          simp [List.countP_cons, rangBegins, rangMoves, Deed.begins, Deed.moves]

end Asks

section Acts

variable {options : Options} {state : State} {step : Step} {run later : Underway σ} {result : Applied}

theorem acts_struck (latches : env.Latches alarms) (known : run.line.alarms ⊆ alarms)
    (acts : env.Acts options state step run result deeds later) (struck : deeds = before ++ .cancel :: after) :
    env.cancelled later.line.world = true ∧ env.Struck before after (result = .error .cancelled) fun made =>
      before.countP Deed.begins = 1 ∧ made = result := by
  cases acts with
  | refused _ => simp at struck
  | aside _ world going outside applied =>
      obtain ⟨earlier, rfl, inRest⟩ := cons_cuts struck nofun
      rcases append_cuts inRest with ⟨rest, inMoment, rfl⟩ | ⟨rest, rfl, inLast⟩
      · obtain ⟨rfl, rfl, isOver⟩ := moment_struck inMoment
        refine ⟨isOver, ?_, nofun, nofun, fun _ _ _ => ⟨result, rfl, rfl, rfl⟩⟩
        exact List.forall_mem_singleton.mpr ⟨rfl, rfl⟩
      · obtain ⟨rest, rfl, isEmpty⟩ := cons_cuts inLast nofun
        simp at isEmpty
  | inSession provider sessionId action answer asked line going mode provided isAction asks =>
      have knownLine : (ensure provider options.traceId sessionId run).line.alarms ⊆ alarms := by
        rw [ensure_alarms]
        exact known
      rcases append_cuts struck with ⟨rest, inCreation, rfl⟩ | ⟨earlier, rfl, inAsked⟩
      · -- The creation of the session cancelled the run: the session is not asked.
        unfold creation at inCreation
        cases present : run.opened.contains sessionId with
        | true => simp [present] at inCreation
        | false =>
            simp only [present, Bool.false_eq_true, if_false] at inCreation
            obtain ⟨earlier, rfl, inMoment⟩ := cons_cuts inCreation nofun
            obtain ⟨rfl, rfl, isOver⟩ := moment_struck inMoment
            have overLine : env.cancelled (ensure provider options.traceId sessionId run).line.world = true := by
              simpa [ensure, present] using isOver
            obtain ⟨rfl, rfl⟩ := asks_over overLine asks
            exact ⟨overLine, nofun, nofun, nofun, nofun⟩
      · obtain ⟨isOver, inAnswer⟩ := asks_struck latches provided knownLine asks inAsked
        refine ⟨isOver, (inAnswer.later _).weaken (fun refused => ?_) nofun⟩
        rw [refused]
        rfl

theorem acts_count (acts : env.Acts options state step run result deeds later) :
    (∀ next, result = .next next → deeds.countP Deed.begins = 1 ∧ deeds.countP Deed.moves = 1) ∧
      ∀ reason, result = .error reason → deeds.countP Deed.moves = 0 := by
  cases acts with
  | refused _ => exact ⟨nofun, fun _ _ => rfl⟩
  | aside _ world going outside applied =>
      constructor
      · rintro next rfl
        simp [List.countP_cons, Deed.begins, Deed.moves]
      · rintro reason rfl
        simp [Deed.moves]
  | inSession provider sessionId action answer asked line going mode provided isAction asks =>
      obtain ⟨answered, failed⟩ := asks_count asks
      have created : (env.creation provider options.traceId sessionId run).countP Deed.begins = 0 ∧
          (env.creation provider options.traceId sessionId run).countP Deed.moves = 0 := by
        unfold creation
        split
        · exact ⟨rfl, rfl⟩
        · simp [Deed.begins, Deed.moves]
      rw [List.countP_append, List.countP_append, created.1, created.2, Nat.zero_add, Nat.zero_add]
      cases answer with
      | error reason => exact ⟨nofun, fun _ _ => failed reason rfl⟩
      | ok reply => exact ⟨fun _ _ => answered reply rfl, nofun⟩

end Acts

section Walks

variable {options : Options} {index : Nat} {state : State} {steps : List Step} {run later : Underway σ}
  {progress : Progress}

theorem walks_over (isOver : env.cancelled run.line.world = true)
    (walks : env.Walks options index state steps run progress deeds later) :
    deeds = [] ∧ (steps = [] ∧ (∃ chain last, progress = .finished chain last) ∨
      steps ≠ [] ∧ progress = .halted ⟨StepError.cancelled.toFailure, some index⟩) := by
  cases walks with
  | finished _ chain _ _ => exact ⟨rfl, Or.inl ⟨rfl, chain, state, rfl⟩⟩
  | crashed _ _ step rest _ _ _ stepped acts => simp [Environment.step, isOver] at stepped
  | halted _ _ step rest _ _ reason _ stepped acts =>
      simp only [Environment.step, isOver, if_true, Prod.mk.injEq, Applied.error.injEq] at stepped
      obtain ⟨rfl, -⟩ := stepped
      exact ⟨(acts_refused isOver acts).1, Or.inr ⟨nofun, rfl⟩⟩
  | moved _ _ next step rest _ middle _ _ _ more stepped acts others => simp [Environment.step, isOver] at stepped

-- By induction on the walk: the moment comes in one of its steps. If that step moves on, the next is refused.
theorem walks_struck (latches : env.Latches alarms) (known : run.line.alarms ⊆ alarms)
    (walks : env.Walks options index state steps run progress deeds later)
    (struck : deeds = before ++ .cancel :: after) :
    env.Struck before after
      (progress = .halted ⟨StepError.cancelled.toFailure, some (index + deeds.countP Deed.moves)⟩) fun made =>
        ∀ next, made = .next next →
          (before.countP Deed.begins < steps.length →
            progress = .halted ⟨StepError.cancelled.toFailure, some (index + deeds.countP Deed.moves)⟩) ∧
          (before.countP Deed.begins = steps.length → ∃ chain last, progress = .finished chain last) := by
  induction walks generalizing before with
  | finished index chain state run => simp at struck
  | crashed index state step rest run later deeds stepped acts =>
      obtain ⟨-, inStep⟩ := acts_struck latches known acts struck
      refine inStep.weaken nofun ?_
      rintro made ⟨-, rfl⟩
      exact nofun
  | halted index state step rest run later reason deeds stepped acts =>
      obtain ⟨-, inStep⟩ := acts_struck latches known acts struck
      refine inStep.weaken (fun refused => ?_) ?_
      · cases refused
        rw [(acts_count acts).2 _ rfl, Nat.add_zero]
      · rintro made ⟨-, rfl⟩
        exact nofun
  | moved index state next step rest run middle later progress deeds more stepped acts others ih =>
      have knownMiddle : middle.line.alarms ⊆ alarms := by
        have := step_alarms env options state step known
        rwa [stepped] at this
      obtain ⟨begins, moves⟩ := (acts_count acts).1 next rfl
      rcases append_cuts struck with ⟨rest', cutHere, rfl⟩ | ⟨earlier, rfl, inRest⟩
      · obtain ⟨isOver, inStep⟩ := acts_struck latches known acts cutHere
        obtain ⟨rfl, ends⟩ := walks_over isOver others
        rw [List.append_nil, List.append_nil, moves]
        refine inStep.weaken nofun ?_
        rintro made ⟨count, rfl⟩ following -
        rw [count]
        rcases ends with ⟨rfl, finished⟩ | ⟨remain, halted⟩
        · exact ⟨fun short => absurd short (by simp), fun _ => finished⟩
        · refine ⟨fun _ => halted, fun isLast => ?_⟩
          simp only [List.length_cons] at isLast
          exact absurd (List.length_eq_zero_iff.mp (by omega)) remain
      · have count : index + (deeds ++ more).countP Deed.moves = index + 1 + more.countP Deed.moves := by
          rw [List.countP_append, moves, Nat.add_assoc]
        rw [count]
        refine ((ih knownMiddle inRest).later deeds).weaken id fun made settled following isNext => ?_
        obtain ⟨notLast, atLast⟩ := settled following isNext
        rw [List.countP_append, begins, List.length_cons]
        exact ⟨fun less => notLast (by omega), fun same => atLast (by omega)⟩

end Walks

section Noting

def Tells (env : Environment σ) (noted : Journalled σ) : Prop :=
  env.cancelled noted.world = true → .cancel ∈ noted.journal

theorem note_tells (noted : Journalled σ) (tells : env.Tells noted) (deeds : List Deed) (after : σ) :
    env.Tells (noted.note env.cancelled deeds after) := by
  intro isOver
  cases before : env.cancelled noted.world with
  | true => exact List.mem_append_left _ (tells before)
  | false =>
      have came : Deed.moment env.cancelled noted.world after = [.cancel] := moment_came before isOver
      simp [Journalled.note, came]

theorem begin_tells {α : Type} (env : Environment σ) (deed : Deed) (notes : α → List Deed)
    (start : σ → Pending σ α × σ) : Begins env.Tells (Journalled.begin env.cancelled deed notes start) :=
  fun noted tells => ⟨note_tells noted tells [deed] _, fun later told => note_tells later told _ _⟩

theorem journalled_tells (env : Environment σ) (alarms : List (Alarm σ)) :
    env.journalled.Keeps (alarms.map (·.journalled env.cancelled)) env.Tells where
  apply state step noted tells isOver := List.mem_append_left _ (note_tells noted tells [.apply state step] _ isOver)
  provider noting isProvider := by
    obtain ⟨provider, -, rfl⟩ := Option.map_eq_some_iff.mp isProvider
    exact ⟨fun _ _ noted tells => note_tells noted tells _ _, fun _ _ => begin_tells env _ _ _,
      fun _ => begin_tells env _ _ _, begin_tells env _ _ _⟩
  alarms alarm among noted tells := by
    obtain ⟨alarm, -, rfl⟩ := List.mem_map.mp among
    exact note_tells noted tells [] _

theorem execute_tells (env : Environment σ) (raw : Json) (options : Options) (line : Timeline σ) :
    env.Tells (env.journalled.execute raw options (line.journalled env.cancelled)).world.world := by
  refine (execute_kept (journalled_tells env line.alarms) raw options _ ⟨fun isOver => ?_, List.Subset.refl _⟩).world
  have isOver : env.cancelled line.world = true := isOver
  simp [Timeline.journalled, Timeline.withJournal, isOver]

end Noting

section Runs

structure Stops (env : Environment σ) (stepCount : Nat) (beforehand : Bool) (outcome : Outcome)
    (journal : List Deed) : Prop where
  -- After the moment of cancellation no step is begun, and no session is created.
  idle : ∀ before after, journal = before ++ .cancel :: after →
    ∀ deed ∈ after, deed.begins = false ∧ deed.created? = none
  -- A run that was cancelled beforehand ends as cancelled;
  early : beforehand = true → outcome.CancelledAt (journal.countP Deed.moves)
  -- so does one that is cancelled while a call of a session is pending,
  pending : ∀ before sessionId asked after, journal = before ++ .call sessionId asked :: .cancel :: after →
    env.Lingers sessionId asked → outcome.CancelledAt (journal.countP Deed.moves)
  -- and one that is cancelled while a step is applied, if that succeeds and is not the last one.
  within : ∀ before state step next after,
    journal = before ++ .apply state step :: .cancel :: .applied (.next next) :: after →
      before.countP Deed.begins + 1 < stepCount → outcome.CancelledAt (journal.countP Deed.moves)
  -- After the last one the run succeeds.
  late : ∀ before state step next after,
    journal = before ++ .apply state step :: .cancel :: .applied (.next next) :: after →
      before.countP Deed.begins + 1 = stepCount → ∃ result, outcome = .result result

theorem cancelled_at (prepared : Prepared) (count : Nat) :
    (Outcome.ofProgress prepared (.halted ⟨StepError.cancelled.toFailure, some count⟩)).CancelledAt count :=
  ⟨_, rfl, rfl, rfl⟩

theorem departs_idle {last : List Deed} (departs : Departs last) : ∀ deed ∈ last, deed.Idle :=
  departs_all departs Deed.Idle ⟨rfl, rfl⟩ ⟨rfl, rfl⟩ fun _ => ⟨rfl, rfl⟩

theorem departs_still {last : List Deed} (departs : Departs last) : last.countP Deed.moves = 0 :=
  List.countP_eq_zero.mpr (departs_all departs (¬ ·.moves = true) nofun nofun fun _ => nofun)

variable {prepared : Prepared} {options : Options} {progress : Progress} {run : Underway σ} {line : Timeline σ}
  {last : List Deed}

theorem early_stops (isOver : env.cancelled line.world = true) (steps : prepared.plan.steps ≠ [])
    (walks : env.Walks options 0 .empty prepared.plan.steps ⟨line, ∅⟩ progress deeds run) (departs : Departs last) :
    env.Stops prepared.plan.steps.length true (.ofProgress prepared progress) (.cancel :: (deeds ++ last)) := by
  obtain ⟨rfl, ends⟩ := walks_over isOver walks
  obtain ⟨-, rfl⟩ := ends.resolve_left fun finished => steps finished.1
  have idle : ∀ deed ∈ Deed.cancel :: ([] ++ last), deed.Idle := by
    simpa using ⟨⟨rfl, rfl⟩, departs_idle departs⟩
  have notBegun : ∀ before deed after, Deed.cancel :: ([] ++ last) = before ++ deed :: after → deed.begins = false :=
    fun before deed after same => (idle deed (same ▸ by simp)).1
  refine ⟨fun before after same deed among => idle deed (same ▸ by simp [among]), fun _ => ?_, ?_, ?_, ?_⟩
  · have still : (Deed.cancel :: ([] ++ last)).countP Deed.moves = 0 := by
      simp [departs_still departs, Deed.moves]
    rw [still]
    exact cancelled_at prepared 0
  · intro before sessionId asked after same
    cases notBegun _ _ _ same
  · intro before state step next after same
    cases notBegun _ _ _ same
  · intro before state step next after same
    cases notBegun _ _ _ same

theorem begun_in_walk (departs : Departs last) {deed : Deed} (begins : deed.begins = true)
    (same : deeds ++ last = before ++ deed :: .cancel :: after) :
    ∃ rest, deeds = (before ++ [deed]) ++ .cancel :: rest ∧ after = rest ++ last := by
  have same : deeds ++ last = (before ++ [deed]) ++ .cancel :: after := by simpa using same
  rcases append_cuts same with inDeeds | ⟨earlier, isBefore, inLast⟩
  · exact inDeeds
  · have nonempty : earlier ≠ [] := by
      rintro rfl
      exact departs_head departs inLast
    have isFinal : earlier.getLast? = some deed := by
      rw [← List.getLast?_append_of_ne_nil deeds nonempty, ← isBefore, List.getLast?_concat]
    have amongLast : deed ∈ last := inLast ▸ List.mem_append_left _ (List.mem_of_getLast? isFinal)
    rw [(departs_idle departs deed amongLast).1] at begins
    cases begins

theorem applied_settled (latches : env.Latches line.alarms)
    (walks : env.Walks options 0 .empty prepared.plan.steps ⟨line, ∅⟩ progress deeds run) (departs : Departs last)
    {state next : State} {step : Step}
    (same : deeds ++ last = before ++ .apply state step :: .cancel :: .applied (.next next) :: after) :
    (before.countP Deed.begins + 1 < prepared.plan.steps.length →
        progress = .halted ⟨StepError.cancelled.toFailure, some (0 + deeds.countP Deed.moves)⟩) ∧
      (before.countP Deed.begins + 1 = prepared.plan.steps.length →
        ∃ chain final, progress = .finished chain final) := by
  obtain ⟨rest, inDeeds, isAfter⟩ := begun_in_walk departs rfl same
  obtain ⟨made, first, settled⟩ :=
    (walks_struck latches (List.Subset.refl _) walks inDeeds).within state step List.getLast?_concat
  obtain ⟨others, rfl⟩ := List.head?_eq_some_iff.mp first
  cases isAfter
  have begun : (before ++ [Deed.apply state step]).countP Deed.begins = before.countP Deed.begins + 1 := by
    simp [Deed.begins]
  rw [← begun]
  exact settled next rfl

theorem walked_stops (latches : env.Latches line.alarms)
    (walks : env.Walks options 0 .empty prepared.plan.steps ⟨line, ∅⟩ progress deeds run) (departs : Departs last) :
    env.Stops prepared.plan.steps.length false (.ofProgress prepared progress) (deeds ++ last) := by
  have count : (deeds ++ last).countP Deed.moves = deeds.countP Deed.moves := by
    rw [List.countP_append, departs_still departs, Nat.add_zero]
  refine ⟨fun before after same deed among => ?_, nofun, ?_, ?_, ?_⟩
  · rcases append_cuts same with ⟨rest, inDeeds, rfl⟩ | ⟨earlier, rfl, inLast⟩
    · rcases List.mem_append.mp among with inRest | isLast
      · exact (walks_struck latches (List.Subset.refl _) walks inDeeds).idle deed inRest
      · exact departs_idle departs deed isLast
    · exact departs_idle departs deed (inLast ▸ by simp [among])
  · intro before sessionId asked after same lingers
    obtain ⟨rest, inDeeds, rfl⟩ := begun_in_walk departs rfl same
    have struck := walks_struck latches (List.Subset.refl _) walks inDeeds
    have halted := struck.pending sessionId asked List.getLast?_concat lingers
    rw [halted, count, Nat.zero_add]
    exact cancelled_at prepared _
  · intro before state step next after same notLast
    rw [(applied_settled latches walks departs same).1 notLast, count, Nat.zero_add]
    exact cancelled_at prepared _
  · intro before state step next after same atLast
    obtain ⟨chain, final, finished⟩ := (applied_settled latches walks departs same).2 atLast
    exact ⟨_, by rw [finished]; rfl⟩

end Runs

end Environment

-- A live run of a plan that is prepared, with a provider if it needs one. Wherever the run is cancelled, that is
-- noted, and from then on nothing is begun; and it ends as cancelled after the steps that were applied, unless the
-- last step was on its way and the applier was at it.
theorem cancelled_run_stops (env : Environment σ) (raw : Json) (options : Options) (prepared : Prepared)
    (line : Timeline σ) (ready : prepare raw options = .ok prepared)
    (provided : env.lacksProvider options prepared.plan = false) (latches : env.Latches line.alarms) :
    ∃ journal,
      env.journalled.execute raw options (line.journalled env.cancelled) =
        (env.execute raw options line).withJournal env.cancelled journal ∧
      (env.cancelled (env.execute raw options line).world.world = true → .cancel ∈ journal) ∧
      env.Stops prepared.plan.steps.length (env.cancelled line.world) (env.execute raw options line).outcome
        journal := by
  obtain ⟨deeds, same, executes⟩ := env.execute_journalled
    (if env.cancelled line.world then [.cancel] else []) raw options line
  have tells := env.execute_tells raw options line
  rw [Timeline.journalled, same] at tells
  refine ⟨_, same, tells, ?_⟩
  obtain ⟨progress, walked, run, last, ended, rfl, walks, departs⟩ :=
    Environment.executes_walked ready provided executes
  have steps : prepared.plan.steps ≠ [] :=
    List.ne_nil_of_length_pos (prepared_has_steps raw options prepared ready)
  rw [ended]
  cases isOver : env.cancelled line.world with
  | true => simpa using Environment.early_stops isOver steps walks departs
  | false => simpa using Environment.walked_stops latches walks departs

def stoppable : Environment Bool where
  apply state step cancelled := (.ofExcept (state.simulate step), cancelled || step.id = "stop")
  provider := some {
    create := fun _ _ cancelled => cancelled
    call := fun _ _ cancelled => (⟨some 5, fun cancelled => (.ok .done, cancelled)⟩, cancelled)
    close := fun _ cancelled => (⟨some 0, fun cancelled => ((), cancelled)⟩, cancelled)
    shutdown := fun cancelled => (⟨some 0, fun cancelled => ((), cancelled)⟩, cancelled) }
  timeout := 10
  cancelled cancelled := cancelled

def stoppedPlan : Plan := ⟨"visit", 1, [⟨"first", .appendLog "one"⟩, ⟨"second", .sandbox "s" (.click "#go")⟩,
  ⟨"stop", .appendLog "two"⟩, ⟨"last", .appendLog "three"⟩]⟩

-- Cancelled from outside while the session is asked, the run ends after one step; otherwise the applier cancels it, and
-- it ends after three.
theorem stoppable_run_stops :
    let raw := stoppedPlan.toJson
    let options : Options := { mode := .live }
    let prepared : Prepared := ⟨stoppedPlan, stoppedPlan.digest⟩
    let outside : Timeline Bool := ⟨0, [⟨2, fun _ => true⟩], false⟩
    let inside : Timeline Bool := ⟨0, [], false⟩
    (stoppable.execute raw options outside).outcome.CancelledAt 1 ∧
      (stoppable.execute raw options inside).outcome.CancelledAt 3 ∧
      ∀ line, line = outside ∨ line = inside →
        prepare raw options = .ok prepared ∧ stoppable.lacksProvider options prepared.plan = false ∧
          stoppable.Latches line.alarms ∧
          ∃ journal,
            stoppable.journalled.execute raw options (line.journalled stoppable.cancelled) =
              (stoppable.execute raw options line).withJournal stoppable.cancelled journal ∧
            (stoppable.cancelled (stoppable.execute raw options line).world.world = true → .cancel ∈ journal) ∧
            stoppable.Stops prepared.plan.steps.length (stoppable.cancelled line.world)
              (stoppable.execute raw options line).outcome journal := by
  intro raw options prepared outside inside
  have ready : prepare raw options = .ok prepared :=
    (prepare_ok_iff _ _ _).mpr ⟨by decide, rfl, rfl, by decide, rfl⟩
  have latches : ∀ line, line = outside ∨ line = inside → stoppable.Latches line.alarms := by
    intro line isLine
    refine ⟨fun state step world isOver => ?_, ?_, ?_, ?_⟩
    · have isOver : world = true := isOver
      simp [stoppable, isOver]
    · intro provider isProvider sessionId traceId world isOver
      cases isProvider
      exact isOver
    · intro provider isProvider sessionId asked world
      cases isProvider
      exact ⟨fun isOver => isOver, fun _ isOver => isOver⟩
    · rcases isLine with rfl | rfl
      · intro alarm among world isOver
        rw [List.mem_singleton.mp among]
        rfl
      · exact nofun
  exact ⟨⟨_, rfl, rfl, rfl⟩, ⟨_, rfl, rfl, rfl⟩, fun line isLine => ⟨ready, rfl, latches line isLine,
    cancelled_run_stops stoppable raw options prepared line ready rfl (latches line isLine)⟩⟩

end PlanChain
